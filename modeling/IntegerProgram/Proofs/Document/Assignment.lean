import IntegerProgram.Proofs.Document.Build
import IntegerProgram.Proofs.Session.Optimum

/-!
# Assignments to the keys of a document

An assignment gives values to the keys of a document and to the holders of its implications. It
solves the document if they lie within the bounds and are what the document says. The points that
the model of its session admits are the assignments that solve the document, and the optima are the
same.

## Main definitions

* `Document.IsSolvedBy`: an assignment that solves a document.
* `Document.IsOptimum`: one with the best objective.

## Main statements

* `Document.IsReplayedTo.isSolvedBy_of_admits`, `Document.IsReplayedTo.exists_admits`: points and
  assignments.
* `Document.IsReplayedTo.isOptimum`: an optimum of the posed model is one of the document.
-/
namespace IntegerProgram.Document

variable {d : Document} {a b : Value → Int} {s : Session} {x : Point} {terms : List (String × Int)}
  {holders : List Value}

/-- An assignment that solves a document: the first declarations bound the keys, each holder is zero
or one, and what the document says is met. -/
structure IsSolvedBy (d : Document) (a : Value → Int) : Prop where
  declared : ∀ v, IsFirst d.vars v → v.minimum ≤ a (.text v.key) ∧ a (.text v.key) ≤ v.maximum
  holders : ∀ holder ∈ d.holders, a holder = 0 ∨ a holder = 1
  met : d.IsMetBy d.holders a

/-- A solution with the best objective of all. -/
structure IsOptimum (d : Document) (a : Value → Int) : Prop where
  solved : d.IsSolvedBy a
  best : ∀ b, d.IsSolvedBy b → d.sense.Prefers (totalOf d.objective a) (totalOf d.objective b)

/-- The session of a document lists no key twice. -/
theorem nodup_keys_of_build {config : Config} (built : d.build config = .ok (s, holders)) :
    s.registry.keys.Nodup := by
  obtain ⟨-, -, keys, -⟩ := keys_of_build built
  have held : d.holders.Nodup := by
    refine d.pairwise_holders.imp_of_mem fun {k l} hk _ apart same => ?_
    obtain ⟨i, -, rfl⟩ := List.mem_map.1 hk
    simp [← same] at apart
  rw [keys, List.nodup_append]
  refine ⟨d.nodup_names.map fun _ _ => Value.text.inj, held, ?_⟩
  rintro k declared l hl rfl
  obtain ⟨name, -, rfl⟩ := List.mem_map.1 declared
  obtain ⟨i, -, same⟩ := List.mem_map.1 hl
  cases same

/-! ## What counts of an assignment -/

theorem totalOf_congr (same : ∀ t ∈ terms, a (.text t.1) = b (.text t.1)) :
    totalOf terms a = totalOf terms b := by
  rw [totalOf, totalOf]
  congr 1
  refine List.map_congr_left fun t ht => ?_
  rw [same t ht]

theorem RelationEntry.isMetBy_congr {r : RelationEntry}
    (same : ∀ key ∈ r.keys, a (.text key) = b (.text key)) : r.IsMetBy a ↔ r.IsMetBy b := by
  rw [IsMetBy, IsMetBy, totalOf_congr fun t ht => same t.1 (List.mem_map_of_mem ht)]

/-- Only the values of the keys that are mentioned, and of the holders, count. -/
theorem IsMetBy.congr (met : d.IsMetBy holders a)
    (keys : ∀ key ∈ d.mentioned, a (.text key) = b (.text key))
    (held : ∀ holder ∈ holders, a holder = b holder) : d.IsMetBy holders b := by
  simp only [mentioned, List.forall_mem_append, List.forall_mem_map, List.forall_mem_flatMap]
    at keys
  obtain ⟨fixed, constraints, implications⟩ := keys
  refine ⟨fun f hf => ?_, fun c hc => ?_, fun i hi => ?_⟩
  · rw [← fixed f hf]
    exact met.fixed f hf
  · exact (RelationEntry.isMetBy_congr (constraints c hc)).1 (met.constraints c hc)
  · obtain ⟨listed, holder⟩ := List.of_mem_zip hi
    have mentioned := implications i.1 listed
    simp only [ImplicationEntry.keys, List.forall_mem_append] at mentioned
    rw [← held i.2 holder, ← RelationEntry.isMetBy_congr mentioned.1,
      ← RelationEntry.isMetBy_congr mentioned.2]
    exact met.implications i hi

/-! ## Points and assignments -/

namespace IsReplayedTo

variable (R : d.IsReplayedTo s d.holders)

include R

/-- The value of a key is that of the variable that it is listed with. -/
theorem valueAt_entry {e : Value × Variable} (he : e ∈ s.registry.entries) (x : Point) :
    s.valueAt x e.1 = x e.2.index := by
  rw [Session.valueAt, Session.variableOf, R.resolved e he]
  rfl

/-- A session lists the values of its keys. -/
theorem valuesIn_eq (x : Point) :
    s.valuesIn x = s.registry.keys.map fun key => (key, .int (s.valueAt x key)) := by
  rw [Session.valuesIn, Registry.keys, List.map_map]
  refine List.map_congr_left fun e he => ?_
  rw [Function.comp_apply, R.valueAt_entry he]

/-- What is listed, in terms of the document: a first declaration, or the holder of an implication.
-/
theorem entry_cases {e : Value × Variable} (he : e ∈ s.registry.entries) :
    (∃ v, IsFirst d.vars v ∧ e.1 = .text v.key ∧ e.2.lower = v.minimum ∧ e.2.upper = v.maximum) ∨
      e.1 ∈ d.holders ∧ e.2.lower = 0 ∧ e.2.upper = 1 := by
  have listed : (⟨e.1, e.2.name, e.2.lower, e.2.upper⟩ : Listing) ∈ s.registry.listing :=
    List.mem_map_of_mem he
  rw [R.listing, List.mem_append] at listed
  rcases listed with declared | held
  · obtain ⟨v, hv, same⟩ := List.mem_map.1 declared
    obtain ⟨key, -, lower, upper⟩ := Listing.mk.inj same
    exact .inl ⟨v, mem_firsts.1 hv, key.symm, lower.symm, upper.symm⟩
  · have holder : e.1 ∈ d.holders := by
      rw [R.returned]
      exact List.mem_map_of_mem held
    obtain ⟨i, -, same⟩ := List.mem_map.1 held
    obtain ⟨-, -, lower, upper⟩ := Listing.mk.inj same
    exact .inr ⟨holder, lower.symm, upper.symm⟩

/-- A first declaration is listed with its bounds. -/
theorem exists_entry_of_first {v : VariableEntry} (first : IsFirst d.vars v) :
    ∃ e ∈ s.registry.entries, e.1 = .text v.key ∧ e.2.lower = v.minimum ∧
      e.2.upper = v.maximum := by
  have listed : v.listing ∈ s.registry.listing := by
    rw [R.listing]
    exact List.mem_append_left _ (List.mem_map_of_mem (mem_firsts.2 first))
  obtain ⟨e, he, same⟩ := List.mem_map.1 listed
  obtain ⟨key, -, lower, upper⟩ := Listing.mk.inj same
  exact ⟨e, he, key, lower, upper⟩

/-- The holder of an implication is listed with zero and one for its bounds. -/
theorem exists_entry_of_holder {holder : Value} (held : holder ∈ d.holders) :
    ∃ e ∈ s.registry.entries, e.1 = holder ∧ e.2.lower = 0 ∧ e.2.upper = 1 := by
  rw [R.returned] at held
  obtain ⟨l, hl, rfl⟩ := List.mem_map.1 held
  have listed : l ∈ s.registry.listing := by
    rw [R.listing]
    exact List.mem_append_right _ hl
  obtain ⟨i, -, rfl⟩ := List.mem_map.1 hl
  obtain ⟨e, he, same⟩ := List.mem_map.1 listed
  obtain ⟨key, -, lower, upper⟩ := Listing.mk.inj same
  exact ⟨e, he, key, lower, upper⟩

/-- A declared key is listed. -/
theorem exists_entry_of_declared {v : VariableEntry} (hv : v ∈ d.vars) :
    ∃ e ∈ s.registry.entries, e.1 = .text v.key := by
  obtain ⟨w, hw, same⟩ := (exists_mem_firsts d.vars).2 ⟨v, hv, rfl⟩
  obtain ⟨e, he, key, -⟩ := R.exists_entry_of_first (mem_firsts.1 hw)
  exact ⟨e, he, by rw [key, same]⟩

/-- Terms over declared keys are sums over the variables of the model. -/
theorem mem_vars_of_weigh (declared : ∀ t ∈ terms, ∃ v ∈ d.vars, v.key = t.1) :
    ∀ v ∈ (s.weigh terms).vars, v ∈ s.model.vars := by
  simp only [Session.weigh, WeightedSum.vars, List.map_map, List.forall_mem_map,
    Function.comp_apply]
  intro t ht
  obtain ⟨v, hv, named⟩ := declared t ht
  obtain ⟨e, he, key⟩ := R.exists_entry_of_declared hv
  have found : s.variableOf (.text t.1) = e.2 := by
    rw [← named, ← key, Session.variableOf, R.resolved e he]
    rfl
  rw [found, R.table]
  exact List.mem_map_of_mem he

variable (C : s.IsCoherent)

include C

/-- The constraints of the model hold at a point within the bounds just if the document is met
there. -/
theorem holds_iff (within : x.IsWithin s.model.vars) :
    (∀ c ∈ s.model.constraints, c.Holds x) ↔ d.IsMetBy d.holders (s.valueAt x) := by
  rw [← R.exact x.valuation x (x.valuation_isAt _) within]
  refine forall₂_congr fun c hc => ?_
  exact ((C.model.constraints c hc).isSatisfied_iff x).symm

/-- **A point that the model admits solves the document.** -/
theorem isSolvedBy_of_admits (admitted : s.model.Admits x) : d.IsSolvedBy (s.valueAt x) := by
  have inside : ∀ e ∈ s.registry.entries, e.2.lower ≤ s.valueAt x e.1 ∧
      s.valueAt x e.1 ≤ e.2.upper := by
    intro e he
    have listed : e.2 ∈ s.model.vars := R.table ▸ List.mem_map_of_mem he
    have within := admitted.bounds e.2 listed
    rw [R.valueAt_entry he]
    simpa [Variable.admits] using within
  refine ⟨?_, ?_, (R.holds_iff C admitted.bounds).1 admitted.constraints⟩
  · intro v first
    obtain ⟨e, he, key, lower, upper⟩ := R.exists_entry_of_first first
    rw [← key, ← lower, ← upper]
    exact inside e he
  · intro holder held
    obtain ⟨e, he, rfl, lower, upper⟩ := R.exists_entry_of_holder held
    have within := inside e he
    omega

/-- There is a point at which all listed keys have the values of an assignment. -/
theorem exists_valueAt (a : Value → Int) :
    ∃ x : Point, ∀ e ∈ s.registry.entries, s.valueAt x e.1 = a e.1 := by
  refine ⟨fun i => ((s.registry.entries[i.toNat]?).map fun e => a e.1).getD 0, fun e he => ?_⟩
  -- a variable has its place for its index
  obtain ⟨i, here⟩ := List.getElem?_of_mem he
  have placed : s.model.vars[i]? = some e.2 := by
    rw [R.table, Registry.vars, List.getElem?_map, here]
    rfl
  rw [R.valueAt_entry he, C.model.index i e.2 placed, Int.toNat_natCast, here]
  rfl

/-- **An assignment that solves the document is that of a point which the model admits.** -/
theorem exists_admits (fine : ¬d.MentionsUndeclared) (solved : d.IsSolvedBy a) :
    ∃ x, s.model.Admits x ∧ ∀ e ∈ s.registry.entries, s.valueAt x e.1 = a e.1 := by
  obtain ⟨x, same⟩ := R.exists_valueAt C a
  have within : x.IsWithin s.model.vars := by
    intro v hv
    rw [R.table] at hv
    obtain ⟨e, he, rfl⟩ := List.mem_map.1 hv
    have value : x e.2.index = a e.1 := by rw [← R.valueAt_entry he x, same e he]
    rcases R.entry_cases he with ⟨v, first, key, lower, upper⟩ | ⟨held, lower, upper⟩
    · have bounds := solved.declared v first
      rw [← key, ← value] at bounds
      simpa [Variable.admits, lower, upper] using bounds
    · have switch := solved.holders e.1 held
      rw [← value] at switch
      simp only [Variable.admits, lower, upper, Bool.and_eq_true, decide_eq_true_eq]
      omega
  have met : d.IsMetBy d.holders (s.valueAt x) := by
    refine solved.met.congr ?_ ?_
    · intro key mentioned
      obtain ⟨v, hv, rfl⟩ : ∃ v ∈ d.vars, v.key = key := by
        by_contra undeclared
        exact fine ⟨key, mentioned, fun v hv same => undeclared ⟨v, hv, same⟩⟩
      obtain ⟨e, he, key⟩ := R.exists_entry_of_declared hv
      rw [← key, same e he]
    · intro holder held
      obtain ⟨e, he, rfl, -⟩ := R.exists_entry_of_holder held
      rw [same e he]
  exact ⟨x, ⟨within, (R.holds_iff C within).2 met⟩, same⟩

/-- **An optimum of the model with the objective of the document** is one of the document. -/
theorem isOptimum (fine : ¬d.MentionsUndeclared)
    (declared : ∀ t ∈ d.objective, ∃ v ∈ d.vars, v.key = t.1)
    (optimum : (s.posed (s.weigh d.objective) d.sense).model.IsOptimum (s.weigh d.objective)
      d.sense x) : d.IsOptimum (s.valueAt x) := by
  refine ⟨R.isSolvedBy_of_admits C (Session.posed_admits_iff.1 optimum.admits), fun b solved => ?_⟩
  obtain ⟨z, admitted, same⟩ := R.exists_admits C fine solved
  have total : totalOf d.objective b = totalOf d.objective (s.valueAt z) := by
    refine totalOf_congr fun t ht => ?_
    obtain ⟨v, hv, named⟩ := declared t ht
    obtain ⟨e, he, key⟩ := R.exists_entry_of_declared hv
    rw [← named, ← key, same e he]
  rw [total, ← Session.value_weigh, ← Session.value_weigh]
  exact optimum.best z (Session.posed_admits_iff.2 admitted)

end IsReplayedTo

end IntegerProgram.Document
