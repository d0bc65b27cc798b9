import IntegerProgram.Proofs.Layered
import IntegerProgram.Proofs.Model.Operation
import IntegerProgram.Proofs.Verification

/-!
# The encoding of implications is exact

An implication can be encoded in any model that has its variables. Whatever the two relations are,
the three constraints hold at just those points at which the indicator tells whether the consequence
holds and the premise implies the consequence. If the implication does not mention its own
indicator, the other variables settle it: it can be chosen where the implication holds, and in one
way only.

## Main definitions

* `Implication.IsEncodedBy`: constraints that say what an implication says.

## Main statements

* `Model.encodeImplication_exact`: the constraints that encoding appends are such.
-/
namespace IntegerProgram

/-- Constraints that say of all values what an implication says. -/
structure Implication.IsEncodedBy (i : Implication) (cs : List Constraint) : Prop where
  /-- There are three of them. -/
  three : cs.length = 3
  /-- Each of them is found to hold or not to hold under integers for the variables. -/
  answered : ∀ (values : Valuation) (x : Point), values.IsAt x (i.indicator :: i.inputs) →
    ∀ c ∈ cs, ∃ holds, c.isSatisfied values = .ok holds
  /-- They hold where the indicator is one and the consequence holds, or the indicator is zero and
  neither the consequence nor the premise does. -/
  exact : ∀ (values : Valuation) (x : Point), values.IsAt x (i.indicator :: i.inputs) →
    x i.indicator.index = 0 ∨ x i.indicator.index = 1 →
    ((∀ c ∈ cs, c.isSatisfied values = .ok true) ↔
      (x i.indicator.index = 1 ∧ i.consequence.IsMetAt x) ∨
        (x i.indicator.index = 0 ∧ ¬i.consequence.IsMetAt x ∧ ¬i.premise.IsMetAt x))
  /-- An indicator that the implication does not mention can be chosen just where the premise
  implies the consequence. -/
  extends_iff : i.indicator ∉ i.inputs → ∀ x : Point,
    (∃ n, (n = 0 ∨ n = 1) ∧ ∀ c ∈ cs,
      c.isSatisfied (Point.valuation (Function.update x i.indicator.index n)) = .ok true) ↔
      (i.premise.IsMetAt x → i.consequence.IsMetAt x)
  /-- There is one choice, which tells whether the consequence holds. -/
  unique : i.indicator ∉ i.inputs → ∀ (x : Point) (n : Int), n = 0 ∨ n = 1 →
    (∀ c ∈ cs,
      c.isSatisfied (Point.valuation (Function.update x i.indicator.index n)) = .ok true) →
    (n = 1 ↔ i.consequence.IsMetAt x)

namespace Implication

variable {i : Implication} {x : Point} {values : Valuation} {origin : String} {n : Int}

theorem truth_eq_one_iff (i : Implication) (x : Point) :
    i.truth x = 1 ↔ i.consequence.IsMetAt x := by
  rw [← LinearRelation.holds_iff, truth]
  split <;> simp_all

/-- What an implication says of a point and its indicator, in two cases. -/
theorem isTold_iff (switch : n = 0 ∨ n = 1) :
    n = i.truth x ∧ i.holds x = true ↔
      (n = 1 ∧ i.consequence.IsMetAt x) ∨
        (n = 0 ∧ ¬i.consequence.IsMetAt x ∧ ¬i.premise.IsMetAt x) := by
  rw [holds_iff, LinearRelation.holds_iff, LinearRelation.holds_iff, ← truth_eq_one_iff]
  rcases switch with rfl | rfl
  · rcases i.truth_eq_zero_or_one x with told | told <;> simp [told]
  · rcases i.truth_eq_zero_or_one x with told | told <;> simp [told]

/-- An implication is over its own variables. -/
theorem isOver_self (boolean : i.indicator.isBoolean = true) :
    i.IsOver (i.indicator :: i.inputs) where
  indicator := List.mem_cons_self
  boolean := boolean
  premise _ hv := List.mem_cons_of_mem _ (List.mem_append_left _ hv)
  consequence _ hv := List.mem_cons_of_mem _ (List.mem_append_right _ hv)

/-- The constraints of an implication are satisfied by values for its variables just if they hold at
the point with these values. -/
theorem constraints_isSatisfied_iff (boolean : i.indicator.isBoolean = true)
    (at_ : values.IsAt x (i.indicator :: i.inputs)) :
    (∀ c ∈ i.constraints origin, c.isSatisfied values = .ok true) ↔
      ∀ c ∈ i.constraints origin, c.Holds x := by
  refine forall₂_congr fun c hc => ?_
  have covered := (isOver_self boolean).constraints origin c hc
  rw [covered.isSatisfied_congr at_, covered.isSatisfied_iff]

/-- Setting a variable that a relation does not mention makes no difference to it. -/
theorem isMetAt_update {r : LinearRelation} {k : Int} (other : ∀ v ∈ r.sum.vars, v.index ≠ k) :
    r.IsMetAt (Function.update x k n) ↔ r.IsMetAt x := by
  rw [← LinearRelation.holds_iff, ← LinearRelation.holds_iff]
  rw [LinearRelation.holds_congr fun v hv => Function.update_of_ne (other v hv) n x]

/-- **The constraints of an implication say what it says**, if variables with the index of its
indicator are the indicator. -/
theorem isEncodedBy_constraints (boolean : i.indicator.isBoolean = true)
    (single : ∀ v ∈ i.inputs, v.index = i.indicator.index → v = i.indicator) (origin : String) :
    i.IsEncodedBy (i.constraints origin) := by
  have exact : ∀ (values : Valuation) (x : Point), values.IsAt x (i.indicator :: i.inputs) →
      x i.indicator.index = 0 ∨ x i.indicator.index = 1 →
      ((∀ c ∈ i.constraints origin, c.isSatisfied values = .ok true) ↔
        (x i.indicator.index = 1 ∧ i.consequence.IsMetAt x) ∨
          (x i.indicator.index = 0 ∧ ¬i.consequence.IsMetAt x ∧ ¬i.premise.IsMetAt x)) := by
    intro values x at_ switch
    rw [constraints_isSatisfied_iff boolean at_, constraints_hold_iff switch, isTold_iff switch]
  -- what they say of a point at which the indicator has been chosen
  have chosen : i.indicator ∉ i.inputs → ∀ (x : Point) (n : Int), n = 0 ∨ n = 1 →
      ((∀ c ∈ i.constraints origin, c.isSatisfied
          (Point.valuation (Function.update x i.indicator.index n)) = .ok true) ↔
        (n = 1 ∧ i.consequence.IsMetAt x) ∨
          (n = 0 ∧ ¬i.consequence.IsMetAt x ∧ ¬i.premise.IsMetAt x)) := by
    intro own x n switch
    have other : ∀ v ∈ i.inputs, v.index ≠ i.indicator.index := by
      intro v hv same
      exact own (single v hv same ▸ hv)
    have consequence : i.consequence.IsMetAt (Function.update x i.indicator.index n) ↔
        i.consequence.IsMetAt x :=
      isMetAt_update fun v hv => other v (List.mem_append_right _ hv)
    have premise : i.premise.IsMetAt (Function.update x i.indicator.index n) ↔
        i.premise.IsMetAt x :=
      isMetAt_update fun v hv => other v (List.mem_append_left _ hv)
    have update := exact _ (Function.update x i.indicator.index n) (Point.valuation_isAt _ _)
    rw [Function.update_self, consequence, premise] at update
    exact update switch
  refine ⟨rfl, ?_, exact, ?_, ?_⟩
  · intro values x at_ c hc
    have covered := (isOver_self boolean).constraints origin c hc
    rw [covered.isSatisfied_congr at_]
    exact covered.exists_isSatisfied x
  · intro own x
    constructor
    · rintro ⟨n, switch, satisfied⟩ premise
      rcases (chosen own x n switch).1 satisfied with ⟨-, consequence⟩ | ⟨-, -, not_premise⟩
      · exact consequence
      · exact absurd premise not_premise
    · intro implied
      by_cases consequence : i.consequence.IsMetAt x
      · exact ⟨1, .inr rfl, (chosen own x 1 (.inr rfl)).2 (.inl ⟨rfl, consequence⟩)⟩
      · have not_premise : ¬i.premise.IsMetAt x := fun premise => consequence (implied premise)
        exact ⟨0, .inl rfl, (chosen own x 0 (.inl rfl)).2 (.inr ⟨rfl, consequence, not_premise⟩)⟩
  · intro own x n switch satisfied
    rcases (chosen own x n switch).1 satisfied with ⟨rfl, consequence⟩ | ⟨rfl, not_consequence, -⟩
    · simp [consequence]
    · simp [not_consequence]

end Implication

namespace Model

variable {m : Model}

/-- The variables of a model with one index are one variable. -/
theorem eq_of_requireOwn {v w : Variable} (hv : m.requireOwn v = .ok ())
    (hw : m.requireOwn w = .ok ()) (same : v.index = w.index) : v = w := by
  have hv := variableAt?_of_requireOwn hv
  rw [same, variableAt?_of_requireOwn hw] at hv
  exact (Option.some.inj hv).symm

/-- **Encoding an implication is exact.** In every model that has its variables, whatever else has
been recorded there, three constraints are appended that say what the implication says. -/
theorem encodeImplication_exact {i : Implication} (boolean : i.indicator.isBoolean = true)
    (own : ∀ v ∈ i.indicator :: i.inputs, m.requireOwn v = .ok ()) (description : String) :
    ∃ cs, (encodeImplication i.indicator
        ⟨.ok (.whole i.premise.sum), .relation i.premise.relation, .int i.premise.constant⟩
        ⟨.ok (.whole i.consequence.sum), .relation i.consequence.relation,
          .int i.consequence.constant⟩ description).on m = (.ok (), m.record cs) ∧
      i.IsEncodedBy cs := by
  have indicator := own _ List.mem_cons_self
  have inputs : ∀ v ∈ i.inputs, m.requireOwn v = .ok () := fun v hv =>
    own v (List.mem_cons_of_mem _ hv)
  refine ⟨i.constraints description, ?_, ?_⟩
  · apply on_encodeImplication_of_own boolean
    · exact List.forall_mem_cons.2 ⟨indicator, fun v hv => inputs v (List.mem_append_left _ hv)⟩
    · exact List.forall_mem_cons.2 ⟨indicator, fun v hv => inputs v (List.mem_append_right _ hv)⟩
  · apply Implication.isEncodedBy_constraints boolean
    intro v hv same
    exact eq_of_requireOwn (inputs v hv) indicator same

/-- If a sum is two then it exceeds two: no choice of the indicator is left where it is two. -/
theorem encodeImplication_exact_strict :
    ∃ (m : Model) (i : Implication) (cs : List Constraint), m.vars.length = 2 ∧
      (encodeImplication i.indicator
        ⟨.ok (.whole i.premise.sum), .relation i.premise.relation, .int i.premise.constant⟩
        ⟨.ok (.whole i.consequence.sum), .relation i.consequence.relation,
          .int i.consequence.constant⟩ "c").on m = (.ok (), m.record cs) ∧
      i.IsEncodedBy cs ∧
      ¬∃ n, (n = 0 ∨ n = 1) ∧ ∀ c ∈ cs, c.isSatisfied
        (Point.valuation (Function.update (fun _ => 2) i.indicator.index n)) = .ok true := by
  let v : Variable := ⟨⟨0, 0⟩, 0, "x", 0, 5, none⟩
  let b : Variable := ⟨⟨0, 1⟩, 1, "b", 0, 1, none⟩
  let i : Implication := ⟨b, ⟨⟨[(v, 1)]⟩, .eq, 2⟩, ⟨⟨[(v, 1)]⟩, .gt, 2⟩⟩
  let m : Model := { vars := [v, b] }
  have own : ∀ w ∈ i.indicator :: i.inputs, m.requireOwn w = .ok () := by
    have table : m.requireOwn b = .ok () ∧ m.requireOwn v = .ok () := ⟨rfl, rfl⟩
    simpa [i, Implication.inputs, WeightedSum.vars] using table
  obtain ⟨cs, appended, encoded⟩ := encodeImplication_exact (by decide) own "c"
  refine ⟨m, i, cs, rfl, appended, encoded, ?_⟩
  rw [encoded.extends_iff (by decide)]
  simp [i, LinearRelation.IsMetAt, Relation.Relates]

end Model

end IntegerProgram
