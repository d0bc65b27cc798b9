import IntegerProgram.Model.Point
import IntegerProgram.Proofs.WeightedSum

/-!
# Well-formed models

What the operations of a model establish and keep: the table lists variables by index, and every
constraint is a comparison of a weighted sum of them, with a gate, if it has one, on a variable with
the values zero and one. On such a model an operation with good arguments appends what it is given.

## Main definitions

* `Constraint.IsOver`: a constraint over given variables.
* `Model.IsWellFormed`: a model with a table and constraints over it.
* `Model.record`: a model with more constraints.

## Main statements

* `Constraint.IsOver.isSatisfied_iff`: checking such a constraint at a point finds out whether it
  holds.
* `Model.on_add`: a constraint over the variables of a model is appended as it is.
-/
namespace IntegerProgram

/-- Whether a point lies within the bounds of variables. -/
def Point.IsWithin (x : Point) (vs : List Variable) : Prop := ∀ v ∈ vs, v.admits (x v.index) = true

/-- Variables that have values, and that their indexes tell apart, have values together. -/
theorem Point.exists_isWithin {vs : List Variable} (nonempty : ∀ v ∈ vs, v.lower ≤ v.upper)
    (distinct : ∀ v ∈ vs, ∀ w ∈ vs, v.index = w.index → v = w) :
    ∃ x : Point, x.IsWithin vs := by
  refine ⟨fun i => ((vs.find? (·.index = i)).map (·.lower)).getD 0, fun v hv => ?_⟩
  have found : vs.find? (·.index = v.index) = some v := by
    obtain ⟨w, found⟩ : ∃ w, vs.find? (·.index = v.index) = some w := by
      rw [← Option.isSome_iff_exists, List.find?_isSome]
      exact ⟨v, hv, by simp⟩
    have same : w.index = v.index := by simpa using List.find?_some found
    rw [found, distinct w (List.mem_of_find?_eq_some found) v hv same]
  simpa [found, Variable.admits] using nonempty v hv

/-- A gate on one of some variables, which has the values zero and one. -/
structure Gate.IsOver (g : Gate) (vs : List Variable) : Prop where
  own : g.indicator ∈ vs
  boolean : g.indicator.isBoolean = true
  switch : g.activeWhen = .int 0 ∨ g.activeWhen = .int 1

/-- A comparison of a weighted sum of some variables, perhaps gated by one of them. -/
structure Constraint.IsOver (c : Constraint) (vs : List Variable) : Prop where
  whole : ∃ s : WeightedSum, c.sum = .whole s ∧ ∀ v ∈ s.vars, v ∈ vs
  known : ∃ op : Comparison, c.operator = .known op
  gate : ∀ g, c.gate = some g → g.IsOver vs

/-- A table of variables by index, and constraints over them. -/
structure Model.IsWellFormed (m : Model) : Prop where
  index : ∀ (i : Nat) (v : Variable), m.vars[i]? = some v → v.index = i
  nonempty : ∀ v ∈ m.vars, v.lower ≤ v.upper
  declared : ∀ v ∈ m.vars, v.declared = none
  constraints : ∀ c ∈ m.constraints, c.IsOver m.vars

/-- A gate with an integer is open where its indicator has that value. -/
@[simp] theorem Gate.isOpen_int (b : Variable) (n : Int) (x : Point) :
    (⟨b, .int n⟩ : Gate).IsOpen x ↔ x b.index = n :=
  isOpen_iff x rfl

theorem Gate.IsOver.mono {g : Gate} {vs ws : List Variable} (H : g.IsOver vs) (more : vs ⊆ ws) :
    g.IsOver ws :=
  ⟨more H.own, H.boolean, H.switch⟩

theorem Constraint.IsOver.mono {c : Constraint} {vs ws : List Variable} (H : c.IsOver vs)
    (more : vs ⊆ ws) : c.IsOver ws := by
  obtain ⟨s, whole, own⟩ := H.whole
  refine ⟨⟨s, whole, ?_⟩, H.known, ?_⟩
  · intro v hv
    exact more (own v hv)
  · intro g gated
    exact (H.gate g gated).mono more

/-- The indicator of a gate is zero or one within its bounds. -/
theorem Gate.IsOver.switch_of_admits {g : Gate} {vs : List Variable} {x : Point} (G : g.IsOver vs)
    (inside : ∀ v ∈ vs, v.admits (x v.index) = true) :
    x g.indicator.index = 0 ∨ x g.indicator.index = 1 := by
  have within := inside _ G.own
  have boolean := G.boolean
  simp only [Variable.admits, Variable.isBoolean, Bool.and_eq_true, decide_eq_true_eq]
    at within boolean
  omega

theorem Gate.IsOver.isSignaling {g : Gate} {vs : List Variable} (H : g.IsOver vs) :
    g.activeWhen.isSignaling = false := by
  rcases H.switch with zero | one
  · rw [zero]; rfl
  · rw [one]; rfl

/-- Checking a constraint over variables at a point finds out whether it holds there. -/
theorem Constraint.IsOver.isSatisfied_iff {c : Constraint} {vs : List Variable} (H : c.IsOver vs)
    (x : Point) : c.isSatisfied x.valuation = .ok true ↔ c.Holds x := by
  obtain ⟨s, whole, -⟩ := H.whole
  obtain ⟨op, known⟩ := H.known
  apply isSatisfied_valuation x known whole
  intro g gated
  exact (H.gate g gated).isSignaling

namespace Model

variable {m : Model} {v : Variable}

/-- A variable that has the index of the next place is in place at the end. -/
theorem index_snoc {vs : List Variable}
    (placed : ∀ (i : Nat) (w : Variable), vs[i]? = some w → w.index = i)
    (next : v.index = vs.length) (i : Nat) (w : Variable) (found : (vs ++ [v])[i]? = some w) :
    w.index = i := by
  rw [List.getElem?_append] at found
  split at found
  · exact placed i w found
  · next beyond =>
    rw [List.getElem?_singleton] at found
    split at found
    · obtain rfl := Option.some.inj found
      omega
    · simp at found

/-- A variable of the table has the index of a place. -/
theorem IsWellFormed.index_nonneg (H : m.IsWellFormed) (hv : v ∈ m.vars) :
    0 ≤ v.index ∧ v.index < m.vars.length := by
  obtain ⟨i, hi, rfl⟩ := List.mem_iff_getElem.1 hv
  have index := H.index i _ (List.getElem?_eq_getElem hi)
  omega

/-- A variable of the table is found at its index. -/
theorem IsWellFormed.variableAt?_index (H : m.IsWellFormed) (hv : v ∈ m.vars) :
    m.variableAt? v.index = some v := by
  obtain ⟨i, hi, rfl⟩ := List.mem_iff_getElem.1 hv
  have found := List.getElem?_eq_getElem hi
  have index := H.index i _ found
  have place : m.placeOf m.vars[i].index = i := by
    rw [placeOf, index, if_neg (by omega)]
  rw [variableAt?, place, if_neg (by omega), Int.toNat_natCast, found]

theorem IsWellFormed.eq_of_index_eq (H : m.IsWellFormed) {w : Variable} (hv : v ∈ m.vars)
    (hw : w ∈ m.vars) (same : v.index = w.index) : v = w := by
  have found := H.variableAt?_index hv
  rw [same, H.variableAt?_index hw] at found
  exact (Option.some.inj found).symm

/-- A point lies within the bounds of all variables of the table. -/
theorem IsWellFormed.exists_within (H : m.IsWellFormed) :
    ∃ x : Point, x.IsWithin m.vars :=
  Point.exists_isWithin H.nonempty fun _ hv _ hw => H.eq_of_index_eq hv hw

theorem IsWellFormed.requireOwn (H : m.IsWellFormed) (hv : v ∈ m.vars) :
    m.requireOwn v = .ok () := by
  have := H.index_nonneg hv
  rw [Model.requireOwn, if_neg (by omega), if_pos (H.variableAt?_index hv)]
  rfl

theorem IsWellFormed.requireAllOwn (H : m.IsWellFormed) {vs : List Variable}
    (own : ∀ v ∈ vs, v ∈ m.vars) : m.requireAllOwn vs = .ok () := by
  rw [Model.requireAllOwn, forM_eq_ok]
  intro v hv
  exact H.requireOwn (own v hv)

/-- Zero and one are the values of a switch. -/
theorem isSwitch_of_isOver {g : Gate} {vs : List Variable} (G : g.IsOver vs) :
    isSwitch g.activeWhen = .ok true := by
  rcases G.switch with zero | one
  · rw [zero]; simp [isSwitch, Value.equals_int]
  · rw [one]; simp [isSwitch, Value.equals_int]

theorem requireGate_of_isOver {g : Gate} {vs : List Variable} (G : g.IsOver vs)
    (own : m.requireOwn g.indicator = .ok ()) : m.requireGate g = .ok () := by
  rw [requireGate, own]
  simp [G.boolean, isSwitch_of_isOver G]

theorem IsWellFormed.requireGate (H : m.IsWellFormed) {g : Gate} (G : g.IsOver m.vars) :
    m.requireGate g = .ok () :=
  requireGate_of_isOver G (H.requireOwn G.own)

/-- The model with more constraints. -/
def record (m : Model) (cs : List Constraint) : Model :=
  { m with constraints := m.constraints ++ cs }

@[simp] theorem record_table (m : Model) (cs : List Constraint) : (m.record cs).table = m.table :=
  rfl

@[simp] theorem record_vars (m : Model) (cs : List Constraint) : (m.record cs).vars = m.vars := rfl

@[simp] theorem record_constraints (m : Model) (cs : List Constraint) :
    (m.record cs).constraints = m.constraints ++ cs := rfl

@[simp] theorem record_strategies (m : Model) (cs : List Constraint) :
    (m.record cs).strategies = m.strategies := rfl

@[simp] theorem record_requireOwn (m : Model) (cs : List Constraint) (v : Variable) :
    (m.record cs).requireOwn v = m.requireOwn v := rfl

@[simp] theorem record_record (m : Model) (cs ds : List Constraint) :
    (m.record cs).record ds = m.record (cs ++ ds) := by
  simp [record, List.append_assoc]

theorem IsWellFormed.record (H : m.IsWellFormed) {cs : List Constraint}
    (covered : ∀ c ∈ cs, c.IsOver m.vars) : (m.record cs).IsWellFormed := by
  refine ⟨H.index, H.nonempty, H.declared, ?_⟩
  intro c hc
  rcases List.mem_append.1 hc with old | new
  · exact H.constraints c old
  · exact covered c new

/-- A constraint whose variables are in the table of a model is appended as it is, if what it is
named by can be written. -/
theorem on_add_of_own {s : WeightedSum} {op : Operator} {n : Int} {gate : Option Gate}
    {description : Value} (sums : ∀ v ∈ s.vars, m.requireOwn v = .ok ())
    (gates : ∀ g, gate = some g → m.requireGate g = .ok ())
    (named : requireName (.whole s) description = .ok ()) :
    (add (.whole s) op (.int n) gate description).on m =
      (.ok ⟨.whole s, op, n, gate, description⟩,
        m.record [⟨.whole s, op, n, gate, description⟩]) := by
  have sums : m.requireAllOwn s.vars = .ok () := forM_eq_ok.2 sums
  have gates : m.requireGate? gate = .ok () := by
    cases gate with
    | none => rfl
    | some g => exact gates g rfl
  simp [add, Attempt.on_bind, sums, gates, named, Value.asInteger, record]

/-- A constraint without a gate whose name cannot be written is not appended. -/
theorem on_add_unnamed (H : m.IsWellFormed) {sum : LinearForm} {op : Operator} {rhs : Value}
    {description : Value} {fault : Fault} (own : ∀ v ∈ sum.vars, v ∈ m.vars)
    (unnamed : requireName sum description = .error fault) :
    (add sum op rhs none description).on m = (.error fault, m) := by
  have gate : m.requireGate? none = .ok () := rfl
  rw [add, Attempt.on_get_bind, Attempt.on_check_ok (H.requireAllOwn own), Attempt.on_check_ok gate]
  exact Attempt.on_check_error unnamed m

/-- **A constraint over the variables of a model is appended as it is**, if what it is named by can
be written. -/
theorem on_add (H : m.IsWellFormed) {c : Constraint} (covered : c.IsOver m.vars)
    (named : requireName c.sum c.description = .ok ()) :
    (add c.sum c.operator (.int c.rhs) c.gate c.description).on m = (.ok c, m.record [c]) := by
  obtain ⟨s, whole, own⟩ := covered.whole
  have gates : ∀ g, c.gate = some g → m.requireGate g = .ok () := fun g gated =>
    H.requireGate (covered.gate g gated)
  obtain ⟨sum, op, n, gate, description⟩ := c
  obtain rfl : sum = .whole s := whole
  exact on_add_of_own (fun v hv => H.requireOwn (own v hv)) gates named

end Model

end IntegerProgram
