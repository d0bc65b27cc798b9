import IntegerProgram.Proofs.Document.Build
import IntegerProgram.Proofs.Document.Grammar
import IntegerProgram.Proofs.Json

/-!
# Documents with short integers

The integers of a document are those of the value that it is read from. A value that a text writes
has short integers only, so a document in a file is never refused for an integer that cannot be
written.

## Main definitions

* `Document.IsShort`: a document all of whose integers can be written.

## Main statements

* `Document.isShort_of_load`: a document in the bytes of a file is one of these.
* `Document.IsShort.not_hasUnwritten`: its replay comes to no integer that cannot be written.
-/
namespace IntegerProgram.Document

variable {d : Document} {j entry : Json} {source place name : String}

/-- A document all of whose integers can be written, those of the implications and of the objective
apart: a replay writes none of these. -/
structure IsShort (d : Document) : Prop where
  vars : ∀ v ∈ d.vars, Obstacle.ofInt? v.minimum = none ∧ Obstacle.ofInt? v.maximum = none
  fixed : ∀ f ∈ d.fixed, Obstacle.ofInt? f.2 = none
  constraints : ∀ c ∈ d.constraints, ∀ t ∈ c.terms, Obstacle.ofInt? t.2 = none

/-- No integer that cannot be written is come to. -/
theorem IsShort.not_hasUnwritten (short : d.IsShort) : ¬d.HasUnwritten := by
  rintro (⟨v, ⟨i, here, -⟩, -, low | high⟩ | ⟨f, hf, unwritable⟩ | ⟨c, hc, -, t, ht, unwritable⟩)
  · exact low (short.vars v (List.mem_of_getElem? here)).1
  · exact high (short.vars v (List.mem_of_getElem? here)).2
  · exact unwritable (short.fixed f hf)
  · exact unwritable (short.constraints c hc t ht)

/-- Neither is one of the integers between two that can be written. -/
theorem ofInt?_eq_none_of_between {low n high : Int} (bounds : low ≤ n ∧ n ≤ high)
    (least : Obstacle.ofInt? low = none) (most : Obstacle.ofInt? high = none) :
    Obstacle.ofInt? n = none := by
  rw [Obstacle.ofInt?_eq_none] at least most ⊢
  omega

/-! ## Documents that are read -/

/-- An integer in a member of a short value can be written. -/
theorem ofInt?_of_member {n : Int} (short : entry.IsShort)
    (given : entry.member? name = some (.int n)) : Obstacle.ofInt? n = none :=
  Json.isShort_int.1 (short.of_within (Json.within_of_member? given))

/-- The items of a section of a short value are short: they are its entries, or texts. -/
theorem isShort_of_itemsOf {items : List (Json × Nat)} (short : j.IsShort)
    (listed : itemsOf (j.member? name) = .ok items) : ∀ item ∈ items, item.1.IsShort := by
  have texts (names : List String) :
      ∀ item ∈ (names.map Json.string).zipIdx, item.1.IsShort := by
    intro item hitem
    obtain ⟨s, -, same⟩ := List.mem_map.1 (List.fst_mem_of_mem_zipIdx hitem)
    exact same ▸ Json.isShort_string s
  cases given : j.member? name with
  | none =>
    rw [given] at listed
    obtain rfl := Except.ok.inj listed
    simp
  | some section_ =>
    rw [given] at listed
    cases section_ with
    | array entries =>
      obtain rfl := Except.ok.inj listed
      intro item hitem
      have within := Json.Within.item (List.fst_mem_of_mem_zipIdx hitem) (.refl item.1)
      exact short.of_within (within.trans (Json.within_of_member? given))
    | object members =>
      obtain rfl := Except.ok.inj listed
      have names := texts (members.map (·.1))
      rwa [List.map_map] at names
    | string s =>
      obtain rfl := Except.ok.inj listed
      exact texts (Text.letters s)
    | _ => simp [itemsOf] at listed

/-- What is read in a section of a short value is read from short entries. -/
theorem exists_entry_of_readSection {α : Type} {xs : List α}
    {read : Json → String → Nat → Except Fault α} (short : j.IsShort)
    (listed : readSection j source name read = .ok xs) {x : α} (hx : x ∈ xs) :
    ∃ entry place number, read entry place number = .ok x ∧ entry.IsShort := by
  obtain ⟨items, itemised, made⟩ := bind_eq_ok.1 listed
  obtain ⟨item, hitem, read⟩ := exists_mem_of_forall₂ (mapM_eq_ok.1 made).flip x hx
  exact ⟨item.1, _, item.2, read, isShort_of_itemsOf short itemised item hitem⟩

/-- The terms that a short value writes are short. -/
theorem isShort_of_writesTerms {terms : List (String × Int)} (short : j.IsShort)
    (written : WritesTerms j terms) : ∀ t ∈ terms, Obstacle.ofInt? t.2 = none := by
  intro t ht
  cases written with
  | object terms =>
    have listed := List.mem_map_of_mem (f := fun t : String × Int => (t.1, Json.int t.2)) ht
    exact short t.2 (.member listed (.refl _))
  | array pairs =>
    obtain ⟨item, listed, key, rfl, -⟩ := exists_mem_of_forall₂ pairs.flip t ht
    exact short t.2 (.item listed (.item (by simp) (.refl _)))

/-- **A document that a short value describes is short.** -/
theorem isShort_of_ofJson (short : j.IsShort) (read : ofJson j source = .ok d) : d.IsShort := by
  obtain ⟨members, same⟩ : ∃ members, j = .object members := by
    obtain ⟨entries, listed, -⟩ := exists_entries read
    exact exists_eq_object listed
  obtain ⟨vars, -, fixed, constraints, -⟩ := (ofJson_object_eq_ok same).1 read
  refine ⟨fun v hv => ?_, fun f hf => ?_, fun c hc => ?_⟩
  · obtain ⟨entry, place, -, read, short⟩ := exists_entry_of_readSection short vars hv
    have written := readVariable_eq_ok.1 read
    exact ⟨ofInt?_of_member short written.minimum, ofInt?_of_member short written.maximum⟩
  · obtain ⟨entry, place, -, read, short⟩ := exists_entry_of_readSection short fixed hf
    exact ofInt?_of_member short (readFixed_eq_ok.1 read).value
  · obtain ⟨entry, place, -, read, short⟩ := exists_entry_of_readSection short constraints hc
    obtain ⟨terms, given, written⟩ := (readRelation_eq_ok.1 read).terms
    exact isShort_of_writesTerms (short.of_within (Json.within_of_member? given)) written

/-- **A document in the bytes of a file is short.** -/
theorem isShort_of_load {bytes : ByteArray} (read : load bytes source = .ok d) : d.IsShort := by
  unfold load at read
  split at read
  · simp [fail] at read
  · split at read
    · next value => exact isShort_of_ofJson (Json.isShort_of_read value) read
    · simp [fail] at read
    · simp at read
    · simp at read

end IntegerProgram.Document
