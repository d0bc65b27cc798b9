import IntegerProgram.Implication
import IntegerProgram.Proofs.Model

/-!
# The encoding of implications

An implication between two linear relations is three constraints gated on one indicator. Where the
indicator is zero or one, they hold exactly if it tells whether the consequence holds and if the
premise implies the consequence.

## Main definitions

* `LinearRelation`: a weighted sum, related to an integer.
* `Implication`, `Implication.constraints`: an implication and its constraints.

## Main statements

* `Implication.constraints_hold_iff`: what the constraints say of a point.
* `Model.on_encodeImplication`: encoding an implication appends its constraints.
-/
namespace IntegerProgram

namespace Relation

theorem ofName?_name (r : Relation) : ofName? r.name = some r := by
  cases r <;> rfl

/-- A relation is equal to itself, as a text that names it is. -/
theorem equalRelation?_relation (r : Relation) :
    (Value.relation r).equalRelation? = .ok (some r) := by
  simp [Value.equalRelation?, Value.isHashable, Value.key?, ofName?_name]

/-- What a relation says of two integers. -/
def Relates : Relation → Int → Int → Prop
  | eq, lhs, rhs => lhs = rhs
  | gt, lhs, rhs => lhs > rhs
  | gte, lhs, rhs => lhs ≥ rhs
  | lt, lhs, rhs => lhs < rhs
  | lte, lhs, rhs => lhs ≤ rhs

/-- The comparison of a relation finds out what the relation says. -/
theorem holds_iff (r : Relation) (lhs rhs : Int) : r.holds lhs rhs = true ↔ r.Relates lhs rhs := by
  cases r <;> simp [holds, comparison, Comparison.holds, Relates]

@[simp] theorem asComparison_relation (r : Relation) :
    (Value.relation r).asComparison = .ok r.comparison := by
  simp [Value.asComparison, equalRelation?_relation]

@[simp] theorem asComplement_relation (r : Relation) :
    (Value.relation r).asComplement = .ok r.complement := by
  simp [Value.asComplement, equalRelation?_relation]

end Relation

/-- A weighted sum, related to an integer. -/
structure LinearRelation where
  sum : WeightedSum
  relation : Relation
  constant : Int
  deriving DecidableEq, Inhabited, Repr

namespace LinearRelation

/-- Whether the relation holds at a point. -/
def holds (r : LinearRelation) (x : Point) : Bool := r.relation.holds (r.sum.value x) r.constant

/-- The relation holds at a point: the value of its sum there is related to its constant. -/
def IsMetAt (r : LinearRelation) (x : Point) : Prop := r.relation.Relates (r.sum.value x) r.constant

theorem holds_iff (r : LinearRelation) (x : Point) : r.holds x = true ↔ r.IsMetAt x :=
  r.relation.holds_iff _ _

/-- The constraint that makes the relation hold. -/
def constraint (r : LinearRelation) (description : Value) : Constraint :=
  ⟨.whole r.sum, .known r.relation.comparison, r.constant, none, description⟩

/-- The constraint that makes the relation hold where a variable has a value. -/
def thenConstraint (r : LinearRelation) (b : Variable) (n : Int) (description : Value) :
    Constraint :=
  ⟨.whole r.sum, .known r.relation.comparison, r.constant, some ⟨b, .int n⟩, description⟩

/-- The constraint that makes the relation fail where a variable has a value. -/
def elseConstraint (r : LinearRelation) (b : Variable) (n : Int) (description : Value) :
    Constraint :=
  ⟨.whole r.sum, .known r.relation.complement, r.constant, some ⟨b, .int n⟩, description⟩

variable {r : LinearRelation} {x y : Point} {b : Variable} {n : Int} {description : Value}

@[simp] theorem constraint_holds_iff : (r.constraint description).Holds x ↔ r.holds x = true := by
  simp [constraint, Constraint.Holds, Operator.Relates, holds, Relation.holds]

@[simp] theorem thenConstraint_holds_iff :
    (r.thenConstraint b n description).Holds x ↔ (x b.index = n → r.holds x = true) := by
  simp [thenConstraint, Constraint.Holds, Operator.Relates, holds, Relation.holds,
    Gate.isOpen_int]

@[simp] theorem elseConstraint_holds_iff :
    (r.elseConstraint b n description).Holds x ↔ (x b.index = n → r.holds x = false) := by
  simp [elseConstraint, Constraint.Holds, Operator.Relates, holds, Relation.holds_complement,
    Gate.isOpen_int]

/-- A relation asks only for the values of the variables of its sum. -/
theorem holds_congr (same : ∀ v ∈ r.sum.vars, x v.index = y v.index) : r.holds x = r.holds y := by
  rw [holds, holds, WeightedSum.value_congr same]

end LinearRelation

/-- An implication between two linear relations, with the variable that tells whether its
consequence holds. -/
structure Implication where
  indicator : Variable
  premise : LinearRelation
  consequence : LinearRelation
  deriving DecidableEq, Inhabited, Repr

namespace Implication

variable {i : Implication} {x : Point} {origin : String} {vs : List Variable}

/-- The constraints of an implication: the consequence holds where the indicator is one and fails
where it is zero, and the premise fails there too. -/
def constraints (i : Implication) (origin : String) : List Constraint :=
  [i.consequence.thenConstraint i.indicator 1 (.text (origin ++ " [then]")),
    i.consequence.elseConstraint i.indicator 0 (.text (origin ++ " [then, negated]")),
    i.premise.elseConstraint i.indicator 0 (.text (origin ++ " [if, negated]"))]

/-- Whether the premise implies the consequence at a point. -/
def holds (i : Implication) (x : Point) : Bool := !i.premise.holds x || i.consequence.holds x

theorem holds_iff (i : Implication) :
    i.holds x = true ↔ (i.premise.holds x = true → i.consequence.holds x = true) := by
  cases premise : i.premise.holds x <;> simp [holds, premise]

/-- One where the consequence holds and zero elsewhere. -/
def truth (i : Implication) (x : Point) : Int := if i.consequence.holds x then 1 else 0

theorem truth_eq_zero_or_one (i : Implication) (x : Point) : i.truth x = 0 ∨ i.truth x = 1 := by
  unfold truth
  split
  · exact .inr rfl
  · exact .inl rfl

/-- **What the constraints of an implication say of a point**: the indicator tells whether the
consequence holds, and the premise implies the consequence. -/
theorem constraints_hold_iff (switch : x i.indicator.index = 0 ∨ x i.indicator.index = 1) :
    (∀ c ∈ i.constraints origin, c.Holds x) ↔
      x i.indicator.index = i.truth x ∧ i.holds x = true := by
  simp only [constraints, List.forall_mem_cons, List.not_mem_nil, false_implies,
    implies_true, and_true, LinearRelation.thenConstraint_holds_iff,
    LinearRelation.elseConstraint_holds_iff, truth, holds]
  rcases switch with off | on
  · cases i.consequence.holds x <;> cases i.premise.holds x <;> simp [off]
  · cases i.consequence.holds x <;> simp [on]

/-- An implication over some variables, with an indicator that has the values zero and one. -/
structure IsOver (i : Implication) (vs : List Variable) : Prop where
  indicator : i.indicator ∈ vs
  boolean : i.indicator.isBoolean = true
  premise : ∀ v ∈ i.premise.sum.vars, v ∈ vs
  consequence : ∀ v ∈ i.consequence.sum.vars, v ∈ vs

theorem IsOver.constraints (H : i.IsOver vs) (origin : String) :
    ∀ c ∈ i.constraints origin, c.IsOver vs := by
  have on : Gate.IsOver ⟨i.indicator, .int 1⟩ vs := ⟨H.indicator, H.boolean, .inr rfl⟩
  have off : Gate.IsOver ⟨i.indicator, .int 0⟩ vs := ⟨H.indicator, H.boolean, .inl rfl⟩
  intro c hc
  simp only [Implication.constraints, List.mem_cons, List.not_mem_nil, or_false] at hc
  rcases hc with rfl | rfl | rfl
  · refine ⟨⟨i.consequence.sum, rfl, H.consequence⟩, ⟨_, rfl⟩, ?_⟩
    rintro g ⟨⟩
    exact on
  · refine ⟨⟨i.consequence.sum, rfl, H.consequence⟩, ⟨_, rfl⟩, ?_⟩
    rintro g ⟨⟩
    exact off
  · refine ⟨⟨i.premise.sum, rfl, H.premise⟩, ⟨_, rfl⟩, ?_⟩
    rintro g ⟨⟩
    exact off

end Implication

namespace Model

variable {m : Model} {i : Implication}

/-- A constraint gated on a variable of a model with the values zero and one is appended as it is.
-/
theorem on_add_switched (m : Model) {s : WeightedSum} {b : Variable}
    (own : ∀ v ∈ b :: s.vars, m.requireOwn v = .ok ()) (boolean : b.isBoolean = true) {n : Int}
    (switch : n = 0 ∨ n = 1) (op : Operator) (rhs : Int) {name : String} (named : name ≠ "") :
    (add (.whole s) op (.int rhs) (some ⟨b, .int n⟩) (.text name)).on m =
      (.ok ⟨.whole s, op, rhs, some ⟨b, .int n⟩, .text name⟩,
        m.record [⟨.whole s, op, rhs, some ⟨b, .int n⟩, .text name⟩]) := by
  rw [List.forall_mem_cons] at own
  have gate : Gate.IsOver ⟨b, .int n⟩ [b] :=
    ⟨List.mem_singleton_self b, boolean, switch.imp (congrArg _) (congrArg _)⟩
  refine on_add_of_own own.2 ?_ (requireName_text _ named)
  rintro g ⟨⟩
  exact requireGate_of_isOver gate own.1

/-- Encoding an implication whose variables are in the table of a model appends its three
constraints. -/
theorem on_encodeImplication_of_own (boolean : i.indicator.isBoolean = true)
    (premise : ∀ v ∈ i.indicator :: i.premise.sum.vars, m.requireOwn v = .ok ())
    (consequence : ∀ v ∈ i.indicator :: i.consequence.sum.vars, m.requireOwn v = .ok ())
    (description : String) :
    (encodeImplication i.indicator
      ⟨.ok (.whole i.premise.sum), .relation i.premise.relation, .int i.premise.constant⟩
      ⟨.ok (.whole i.consequence.sum), .relation i.consequence.relation,
        .int i.consequence.constant⟩ description).on m =
      (.ok (), m.record (i.constraints description)) := by
  -- each of the three adds starts from the model that the one before it has left
  have holds := on_add_switched m consequence boolean (.inr rfl)
  have fails := fun cs => on_add_switched (m.record cs) consequence boolean (.inl rfl)
  have premiseFails := fun cs => on_add_switched (m.record cs) premise boolean (.inl rfl)
  simp [encodeImplication, boolean, Attempt.on_bind, holds, fails, premiseFails,
    Implication.constraints, LinearRelation.thenConstraint, LinearRelation.elseConstraint]

/-- **Encoding an implication appends its three constraints.** -/
theorem on_encodeImplication (H : m.IsWellFormed) (covered : i.IsOver m.vars)
    (description : String) :
    (encodeImplication i.indicator
      ⟨.ok (.whole i.premise.sum), .relation i.premise.relation, .int i.premise.constant⟩
      ⟨.ok (.whole i.consequence.sum), .relation i.consequence.relation,
        .int i.consequence.constant⟩ description).on m =
      (.ok (), m.record (i.constraints description)) := by
  have indicator := H.requireOwn covered.indicator
  apply on_encodeImplication_of_own covered.boolean
  · exact List.forall_mem_cons.2 ⟨indicator, fun v hv => H.requireOwn (covered.premise v hv)⟩
  · exact List.forall_mem_cons.2 ⟨indicator, fun v hv => H.requireOwn (covered.consequence v hv)⟩

end Model

end IntegerProgram
