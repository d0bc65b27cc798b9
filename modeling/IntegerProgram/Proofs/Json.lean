import IntegerProgram.Json.Reader
import IntegerProgram.Proofs.Attempt
import IntegerProgram.Text.Obstacle

/-!
# Parts of JSON values

A value has parts: itself, and those of its items or of its members. An integer that is read has no
more digits than can be written again, wherever it stands in the value that a text writes.

## Main definitions

* `Json.Within`: the parts of a value.
* `Json.IsShort`: a value all of whose integers can be written.

## Main statements

* `Json.isShort_of_read`: a value that is read is one of these.
-/
namespace IntegerProgram

/-- So many digits can be written. -/
theorem Obstacle.pow_le_digitLimit {k : Nat} (few : k ≤ Numeral.maxDigits) :
    Nat.pow 10 k ≤ digitLimit := by
  unfold digitLimit
  generalize Numeral.maxDigits = most at few
  exact Nat.pow_le_pow_right (by decide) few

namespace Json

/-- A part of a value: the value itself, or a part of an item or of a member. -/
inductive Within : Json → Json → Prop where
  | refl (j : Json) : Within j j
  | item {part item : Json} {items : List Json} (listed : item ∈ items)
      (within : Within part item) : Within part (array items)
  | member {part : Json} {m : String × Json} {members : List (String × Json)} (listed : m ∈ members)
      (within : Within part m.2) : Within part (object members)

/-- A value all of whose integers can be written. -/
def IsShort (j : Json) : Prop := ∀ n, Within (int n) j → Obstacle.ofInt? n = none

section Parts

variable {j k part : Json} {items : List Json} {members : List (String × Json)} {name : String}

/-- Parts of parts are parts. -/
theorem Within.trans (inner : part.Within k) (outer : k.Within j) : part.Within j := by
  induction outer with
  | refl => exact inner
  | item listed _ ih => exact .item listed ih
  | member listed _ ih => exact .member listed ih

theorem within_of_member? (given : j.member? name = some k) : k.Within j := by
  cases j with
  | object members =>
    obtain ⟨m, found, rfl⟩ := Option.map_eq_some_iff.1 given
    exact .member (List.mem_of_find?_eq_some found) (.refl _)
  | _ => simp [member?] at given

theorem IsShort.of_within (short : j.IsShort) (within : k.Within j) : k.IsShort :=
  fun n inner => short n (inner.trans within)

/-- An integer is short if it can be written. -/
theorem isShort_int {n : Int} : (int n).IsShort ↔ Obstacle.ofInt? n = none := by
  constructor
  · exact fun short => short n (.refl _)
  · rintro written m ⟨⟩
    exact written

theorem isShort_array (each : ∀ item ∈ items, item.IsShort) : (array items).IsShort := by
  rintro n (_ | ⟨listed, within⟩)
  exact each _ listed n within

theorem isShort_object (each : ∀ m ∈ members, m.2.IsShort) : (object members).IsShort := by
  rintro n (_ | _ | ⟨listed, within⟩)
  exact each _ listed n within

theorem isShort_string (s : String) : (string s).IsShort := by
  rintro n ⟨⟩

/-- Setting a member to what is short keeps members short. -/
theorem isShort_setMember (name : String) (each : ∀ m ∈ members, m.2.IsShort) (short : j.IsShort) :
    ∀ m ∈ setMember members name j, m.2.IsShort := by
  intro m listed
  rw [setMember] at listed
  split at listed
  · obtain ⟨k, hk, rfl⟩ := List.mem_map.1 listed
    split
    · exact short
    · exact each k hk
  · rcases List.mem_append.1 listed with before | added
    · exact each m before
    · rw [List.mem_singleton.1 added]
      exact short

end Parts

section Reader

variable {levels fuel : Nat} {cs rest : List Char} {j : Json} {n : Nat}

/-- So many digits write a number below the corresponding power of ten. -/
theorem digitsValue_lt {digits : List Char} (decimal : ∀ c ∈ digits, c.isDigit = true) :
    digitsValue digits < Nat.pow 10 digits.length := by
  have digit (c : Char) (decimal : c.isDigit = true) : c.toNat - '0'.toNat ≤ 9 := by
    simp only [Char.isDigit, Bool.and_eq_true, decide_eq_true_eq] at decimal
    have most : c.toNat ≤ 57 := UInt32.le_iff_toNat_le.1 decimal.2
    have zero : '0'.toNat = 48 := rfl
    omega
  -- the digits follow a number that has been read before
  have step (before : Nat) : digits.foldl (fun n c => 10 * n + (c.toNat - '0'.toNat)) before <
      (before + 1) * Nat.pow 10 digits.length := by
    induction digits generalizing before with
    | nil => simp
    | cons c digits ih =>
      rw [List.forall_mem_cons] at decimal
      have least := digit c decimal.1
      have next := ih decimal.2 (10 * before + (c.toNat - '0'.toNat))
      have more : Nat.pow 10 (c :: digits).length = 10 * Nat.pow 10 digits.length := Nat.pow_succ'
      rw [List.foldl_cons, more]
      calc _ < (10 * before + (c.toNat - '0'.toNat) + 1) * Nat.pow 10 digits.length := next
        _ ≤ (before + 1) * 10 * Nat.pow 10 digits.length := Nat.mul_le_mul_right _ (by omega)
        _ = (before + 1) * (10 * Nat.pow 10 digits.length) := by rw [Nat.mul_assoc]
  simpa [digitsValue] using step 0

/-- Digits that are not too many write a short integer. -/
theorem isShort_digits {whole : List Char} (decimal : ∀ c ∈ whole, c.isDigit = true)
    (few : whole.length ≤ Numeral.maxDigits) (negative : Bool) :
    (int (if negative then -(digitsValue whole : Int) else digitsValue whole)).IsShort := by
  have size : (if negative then -(digitsValue whole : Int) else digitsValue whole).natAbs =
      digitsValue whole := by
    cases negative <;> simp
  rw [isShort_int, Obstacle.ofInt?_eq_none, size]
  exact Nat.lt_of_lt_of_le (digitsValue_lt decimal) (Obstacle.pow_le_digitLimit few)

theorem isDigit_of_mem_takeDigits : ∀ c ∈ (takeDigits cs).1, c.isDigit = true :=
  List.all_eq_true.1 (List.all_takeWhile ..)

/-- A number is short: an integer with too many digits is not read. -/
theorem isShort_of_readNumber {negative : Bool} (read : readNumber negative cs = .ok (j, rest)) :
    j.IsShort := by
  unfold readNumber at read
  split at read
  next whole others taken =>
  have decimal : ∀ c ∈ whole, c.isDigit = true := by
    split at taken
    · obtain ⟨rfl, -⟩ := Prod.mk.inj taken
      simp
    · rw [← (Prod.mk.inj taken).1]
      exact isDigit_of_mem_takeDigits
  simp only at read
  split at read
  · simp at read
  · split at read
    · split at read
      · simp at read
      · next few =>
        obtain ⟨rfl, -⟩ := Prod.mk.inj (Except.ok.inj read)
        exact isShort_digits decimal (Nat.not_lt.1 few) negative
    · obtain ⟨rfl, -⟩ := Prod.mk.inj (Except.ok.inj read)
      rintro n ⟨⟩

/-- The words stand for no integers. -/
theorem isShort_of_readWord? (read : readWord? cs = some (j, rest)) : j.IsShort := by
  obtain ⟨w, listed, found⟩ := List.exists_of_findSome?_eq_some read
  obtain ⟨-, same⟩ := Option.ite_none_right_eq_some.1 found
  obtain rfl : w.2 = j := (Prod.mk.inj (Option.some.inj same)).1
  have plain : ∀ w ∈ words, w.2.IsShort := by
    simp only [words, List.forall_mem_cons]
    refine ⟨?_, ?_, ?_, ?_, ?_, ?_, by simp⟩ <;> rintro n ⟨⟩
  exact plain w listed

/-- Whether readers with so much fuel read nothing but what is short. -/
structure ReadsShort (fuel : Nat) : Prop where
  value : ∀ levels cs j rest, readValue levels fuel cs = .ok (j, rest) → j.IsShort
  items : ∀ levels cs items rest, readItems levels fuel cs = .ok (items, rest) →
    ∀ item ∈ items, item.IsShort
  members : ∀ levels before cs members rest,
    readMembers levels before fuel cs = .ok (members, rest) →
      (∀ m ∈ before, m.2.IsShort) → ∀ m ∈ members, m.2.IsShort

theorem ReadsShort.readValue_succ (ih : ReadsShort fuel)
    (read : readValue levels (fuel + 1) cs = .ok (j, rest)) : j.IsShort := by
  rw [readValue.eq_def] at read
  simp only at read
  split at read
  · simp at read
  · obtain ⟨s, -, read⟩ := bind_eq_ok.1 read
    obtain ⟨rfl, -⟩ := Prod.mk.inj (Except.ok.inj read)
    exact isShort_string _
  · obtain ⟨inner, -, read⟩ := bind_eq_ok.1 read
    split at read
    · obtain ⟨rfl, -⟩ := Prod.mk.inj (Except.ok.inj read)
      exact isShort_array (by simp)
    · obtain ⟨⟨items, others⟩, listed, read⟩ := bind_eq_ok.1 read
      obtain ⟨rfl, -⟩ := Prod.mk.inj (Except.ok.inj read)
      exact isShort_array (ih.items _ _ _ _ listed)
  · obtain ⟨inner, -, read⟩ := bind_eq_ok.1 read
    split at read
    · obtain ⟨rfl, -⟩ := Prod.mk.inj (Except.ok.inj read)
      exact isShort_object (by simp)
    · obtain ⟨⟨members, others⟩, listed, read⟩ := bind_eq_ok.1 read
      obtain ⟨rfl, -⟩ := Prod.mk.inj (Except.ok.inj read)
      exact isShort_object (ih.members _ _ _ _ _ listed (by simp))
  · split at read
    · next found =>
      obtain rfl := Except.ok.inj read
      exact isShort_of_readWord? found
    · split at read <;> exact isShort_of_readNumber read

theorem ReadsShort.readItems_succ (ih : ReadsShort fuel) {items : List Json}
    (read : readItems levels (fuel + 1) cs = .ok (items, rest)) : ∀ item ∈ items, item.IsShort := by
  unfold readItems at read
  obtain ⟨⟨item, others⟩, first, read⟩ := bind_eq_ok.1 read
  have short := ih.value _ _ _ _ first
  simp only at read
  split at read
  · obtain ⟨rfl, -⟩ := Prod.mk.inj (Except.ok.inj read)
    exact List.forall_mem_singleton.2 short
  · obtain ⟨⟨items, others⟩, listed, read⟩ := bind_eq_ok.1 read
    obtain ⟨rfl, -⟩ := Prod.mk.inj (Except.ok.inj read)
    exact List.forall_mem_cons.2 ⟨short, ih.items _ _ _ _ listed⟩
  · simp at read

theorem ReadsShort.readMembers_succ (ih : ReadsShort fuel) {before members : List (String × Json)}
    (read : readMembers levels before (fuel + 1) cs = .ok (members, rest))
    (each : ∀ m ∈ before, m.2.IsShort) : ∀ m ∈ members, m.2.IsShort := by
  unfold readMembers at read
  split at read
  · obtain ⟨⟨name, others⟩, -, read⟩ := bind_eq_ok.1 read
    simp only at read
    split at read
    · obtain ⟨⟨value, others⟩, valued, read⟩ := bind_eq_ok.1 read
      have short := isShort_setMember name each (ih.value _ _ _ _ valued)
      simp only at read
      split at read
      · obtain ⟨rfl, -⟩ := Prod.mk.inj (Except.ok.inj read)
        exact short
      · exact ih.members _ _ _ _ _ read short
      · simp at read
    · simp at read
  · simp at read

theorem readsShort (fuel : Nat) : ReadsShort fuel := by
  induction fuel with
  | zero =>
    constructor
    · intro levels cs j rest read
      simp [readValue] at read
    · intro levels cs items rest read
      simp [readItems] at read
    · intro levels before cs members rest read
      simp [readMembers] at read
  | succ fuel ih =>
    exact ⟨fun _ _ _ _ => ih.readValue_succ, fun _ _ _ _ => ih.readItems_succ,
      fun _ _ _ _ _ => ih.readMembers_succ⟩

/-- **What a text writes has short integers only**, since longer ones are not read. -/
theorem isShort_of_read {s : String} (read : Json.read s = .ok j) : j.IsShort := by
  obtain ⟨⟨value, rest⟩, valued, read⟩ := bind_eq_ok.1 read
  simp only at read
  split at read
  · exact Except.ok.inj read ▸ (readsShort _).value _ _ _ _ valued
  · simp at read

end Reader

end Json

end IntegerProgram
