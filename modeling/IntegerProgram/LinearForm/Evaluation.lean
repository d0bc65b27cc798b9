import IntegerProgram.Valuation
import IntegerProgram.Value.Grid

/-!
# Evaluating linear forms

The value of a weighted sum under integers is an integer. Any other form, or any other values, are
computed with as they are, term by term from the left, and the integer part of the result counts.

## Main definitions

* `LinearForm.evaluate`: the value under a valuation.
* `LinearForm.value`: the value at a point.
* `LinearForm.bounds`: the smallest and the largest value.
* `LinearForm.asSum`: the weighted sum that a form is.

## Main statements

* `WeightedSum.evaluate_valuation`: where no value is missing, a sum has its value.
-/
namespace IntegerProgram

/-- The value of a variable. -/
def Valuation.get (values : Valuation) (index : Int) : Except Fault Value :=
  match values index with
  | some x => pure x
  | none => throw .missingValue

@[simp] theorem Valuation.get_valuation (x : Point) (i : Int) :
    x.valuation.get i = .ok (.int (x i)) := rfl

/-- The integer part of the sum of the products of coefficients and values. -/
def Value.dot (coefficients values : List Value) : Except Fault Int := do
  (← Grid.dot (.ofValues coefficients) (.ofValues values)).wholePart

namespace WeightedSum

/-- The value of a sum under a valuation. -/
def evaluate (s : WeightedSum) (values : Valuation) : Except Fault Int := do
  let xs ← s.vars.mapM fun v => values.get v.index
  match Value.integers? xs with
  | some ns => return (s.coefficients.zipWith (· * ·) ns).foldr (· + ·) 0
  | none => Value.dot (s.coefficients.map .int) xs

/-- Where no value is missing, a sum has its value. -/
@[simp] theorem evaluate_valuation (s : WeightedSum) (x : Point) :
    s.evaluate x.valuation = .ok (s.value x) := by
  have values : (s.vars.mapM fun v => x.valuation.get v.index)
      = (.ok (s.vars.map fun v => .int (x v.index)) : Except Fault (List Value)) :=
    List.mapM_pure ..
  have integers : Value.integers? (s.vars.map fun v => .int (x v.index))
      = some (s.vars.map fun v => x v.index) := by
    rw [Value.integers?, List.mapM_map]
    exact List.mapM_pure ..
  rw [evaluate, values]
  simp only [bind, Except.bind, integers]
  simp [vars, coefficients, value, List.zipWith_map, List.zipWith_self, List.foldr_map, pure,
    Except.pure]

end WeightedSum

namespace LinearForm

/-- The value of a form under a valuation. -/
def evaluate (f : LinearForm) (values : Valuation) : Except Fault Int :=
  match f with
  | whole s => s.evaluate values
  | mixed terms => do
    let xs ← terms.mapM fun t => values.get t.1.index
    Value.dot (terms.map (·.2)) xs

/-- The value of a form at a point; zero if it cannot be computed. -/
def value (f : LinearForm) (x : Point) : Int := (f.evaluate x.valuation).toOption.getD 0

@[simp] theorem value_whole (s : WeightedSum) (x : Point) : (whole s).value x = s.value x := by
  simp [value, evaluate, Except.toOption]

/-- Checks that a coefficient can be shown: it has a sign, and a size. -/
def requireSize (c : Value) : Except Fault Unit := do
  let _ ← c.isLess (.int 0)
  if let .decimal d := c then
    let _ ← d.abs.mapError Decimal.Trap.fault

/-- Checks that a form can be shown, and written. -/
def requireShown : LinearForm → Except Fault Unit
  | whole s => Obstacle.requireNone s.obstacle?
  | mixed terms => terms.forM fun t => do
    requireSize t.2
    t.2.requireText
    Obstacle.requireNone t.1.nameObstacle?

/-- The least and the greatest value of a form: the sums of the lesser and of the greater products
of its coefficients with the bounds of its variables. -/
def bounds : LinearForm → Except Fault (Int × Int)
  | whole s => pure s.bounds
  | mixed terms => do
    let coefficients := Grid.ofValues (terms.map (·.2))
    let ends (bound : Declaration → Datum) : Grid :=
      .ofValues (terms.map fun t => .ofDatum (bound t.1.declaration))
    let a ← coefficients.zipWith Value.mul (ends (·.lower))
    let b ← coefficients.zipWith Value.mul (ends (·.upper))
    let low ← Value.total (← a.zipWith Grid.least b).items
    let high ← Value.total (← a.zipWith Grid.greatest b).items
    return (← low.wholePart, ← high.wholePart)

/-- The weighted sum that a form is, which a search needs. -/
def asSum : LinearForm → Except Fault WeightedSum
  | whole s => pure s
  | mixed terms => do
    let terms ← terms.mapM fun t => do
      match t.2.whole? with
      | some n => return (t.1, n)
      | none => throw (.notComparable t.2)
    return ⟨terms⟩

end LinearForm

end IntegerProgram
