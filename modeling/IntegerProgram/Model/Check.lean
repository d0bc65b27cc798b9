import IntegerProgram.Model

/-!
# Checking a valuation against a model

A valuation may lack a value that a check needs, and a constraint may have a symbol that is no
comparison; both are faults. A constraint whose gate is not active is satisfied whatever it says,
and what it says is not looked at.
-/
namespace IntegerProgram

/-- Whether the gate is active. -/
def Gate.isActive (g : Gate) (values : Valuation) : Except Fault Bool := do
  let x ← values.get g.indicator.index
  x.equals g.activeWhen

/-- Whether a form compares with a number as stated. -/
def Operator.holds (op : Operator) (sum : LinearForm) (rhs : Int) (values : Valuation) :
    Except Fault Bool :=
  match op with
  | .unknown s => throw (.notAComparison s)
  | .known c => do
    let x ← sum.evaluate values
    return c.holds x rhs

/-- Whether the constraint holds or is not active. -/
def Constraint.isSatisfied (c : Constraint) (values : Valuation) : Except Fault Bool := do
  let active ← match c.gate with
    | some g => g.isActive values
    | none => pure true
  if active then c.operator.holds c.sum c.rhs values else return true

/-- Checks that a constraint can be shown, and written. -/
def Constraint.requireShown (c : Constraint) : Except Fault Unit := do
  c.sum.requireShown
  Obstacle.requireNone (Obstacle.ofInt? c.rhs)
  Obstacle.requireNone (c.gate.bind Gate.obstacle?)

/-- Whether a value that is claimed for a variable lies within its bounds. -/
def Variable.admitsValue (v : Variable) (x : Value) : Except Fault Bool :=
  match x, v.declared with
  | .int n, none => pure (v.admits n)
  | _, _ => do
    if ← (Value.ofDatum v.declaration.lower).isAtMost x then
      x.isAtMost (.ofDatum v.declaration.upper)
    else return false

namespace Model

/-- The constraints that do not hold, with their places. -/
def violated (m : Model) (values : Valuation) : Except Fault (List (Constraint × Nat)) := do
  let satisfied ← m.constraints.mapM fun c => c.isSatisfied values
  return ((m.constraints.zipIdx.zip satisfied).filter fun c => !c.2).map (·.1)

/-- The variables whose values lie outside their bounds. -/
def outOfBounds (m : Model) (values : Valuation) : Except Fault (List Variable) := do
  let admitted ← m.vars.mapM fun v => do v.admitsValue (← values.get v.index)
  return ((m.vars.zip admitted).filter fun v => !v.2).map (·.1)

end Model

end IntegerProgram
