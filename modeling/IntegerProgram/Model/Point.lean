import IntegerProgram.Model.Check

/-!
# Points of a model

What a model says of a point: that every value lies within its bounds, and that every constraint
holds. The checks of a valuation find out just this where no value is missing.

## Main definitions

* `Constraint.Holds`: what a constraint says of a point.
* `Model.Admits`: what a model says of a point.

## Main statements

* `Constraint.isSatisfied_valuation`: checking a constraint at a point finds out whether it holds.
-/
namespace IntegerProgram

/-- A gate is open where its indicator equals the value at which it is active. -/
def Gate.IsOpen (g : Gate) (x : Point) : Prop :=
  (Value.int (x g.indicator.index)).equals g.activeWhen = .ok true

instance (g : Gate) (x : Point) : Decidable (g.IsOpen x) :=
  match h : (Value.int (x g.indicator.index)).equals g.activeWhen with
  | .ok true => .isTrue h
  | .ok false => .isFalse (by simp [Gate.IsOpen, h])
  | .error _ => .isFalse (by simp [Gate.IsOpen, h])

/-- A gate with an integer is open where its indicator has that value. -/
theorem Gate.isOpen_iff {g : Gate} {n : Int} (x : Point) (h : g.activeWhen = .int n) :
    g.IsOpen x ↔ x g.indicator.index = n := by
  rw [IsOpen, h, Value.equals_int]
  simp

/-- An integer is asked whether it equals a value that is no signaling decimal. -/
theorem Value.equals_int_isOk (n : Int) {v : Value} (plain : v.isSignaling = false) :
    ∃ same, (Value.int n).equals v = .ok same := by
  have own : (Value.int n).isSignaling = false := rfl
  have asked : ∃ same, (Value.int n).equalsPlain v = .ok same := by
    unfold equalsPlain
    simp only [own, plain, Bool.false_and, Bool.or_self, Bool.false_eq_true, if_false]
    split <;> exact ⟨_, rfl⟩
  cases v <;> simp_all [equals, pure, Except.pure]

theorem Gate.isActive_valuation (g : Gate) (x : Point) (plain : g.activeWhen.isSignaling = false) :
    g.isActive x.valuation = .ok (decide (g.IsOpen x)) := by
  obtain ⟨same, asked⟩ := Value.equals_int_isOk (x g.indicator.index) plain
  cases same <;> simp [isActive, IsOpen, asked, bind, Except.bind]

/-- Two numbers are related as a comparison states. A symbol that is no comparison relates none. -/
def Operator.Relates : Operator → Int → Int → Prop
  | known c, lhs, rhs => c.holds lhs rhs = true
  | unknown _, _, _ => False

theorem Operator.holds_valuation (c : Comparison) (s : WeightedSum) (rhs : Int) (x : Point) :
    (known c).holds s rhs x.valuation = .ok (c.holds (s.value x) rhs) := by
  simp [holds, LinearForm.evaluate, bind, Except.bind, pure, Except.pure]

/-- A constraint holds at a point if its sum compares as stated there, or its gate is closed. -/
def Constraint.Holds (c : Constraint) (x : Point) : Prop :=
  (∀ g, c.gate = some g → g.IsOpen x) → c.operator.Relates (c.sum.value x) c.rhs

/-- A model admits a point within all bounds at which every constraint holds. -/
structure Model.Admits (m : Model) (x : Point) : Prop where
  bounds : ∀ v ∈ m.vars, v.admits (x v.index) = true
  constraints : ∀ c ∈ m.constraints, c.Holds x

/-- **Checking a constraint at a point finds out whether it holds there.** -/
theorem Constraint.isSatisfied_valuation {c : Constraint} {op : Comparison} {s : WeightedSum}
    (x : Point) (known : c.operator = .known op) (whole : c.sum = .whole s)
    (plain : ∀ g, c.gate = some g → g.activeWhen.isSignaling = false) :
    c.isSatisfied x.valuation = .ok true ↔ c.Holds x := by
  cases gate : c.gate with
  | none =>
    simp only [isSatisfied, Holds, gate, known, whole, Operator.Relates]
    simp [bind, Except.bind, pure, Except.pure, Operator.holds_valuation]
  | some g =>
    simp only [isSatisfied, Holds, gate, known, whole, Operator.Relates,
      Gate.isActive_valuation g x (plain g gate)]
    by_cases isOpen : g.IsOpen x <;>
      simp [bind, Except.bind, pure, Except.pure, Operator.holds_valuation, isOpen]

end IntegerProgram
