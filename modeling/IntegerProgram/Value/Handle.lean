import IntegerProgram.WeightedSum.Parallel

/-!
# Variables among values

A caller may pass any value where a variable is needed. What goes wrong with one that is no handle
depends on what is asked of it first.
-/
namespace IntegerProgram

namespace Value

/-- The variable that a handle stands for, of which something is asked. -/
def asVariable (value : Value) (asked : Aspect) : Except Fault Variable :=
  match value with
  | handle v => pure v
  | _ => throw (.notAVariable value asked)

end Value

namespace LinearForm

/-- The form of terms that are given as values. -/
def ofValues (terms : List (Value × Value)) (asked : Aspect) : Except Fault LinearForm := do
  return .ofTerms (← terms.mapM fun t => do return (← t.1.asVariable asked, t.2))

/-- The form of variables that are given as values, with the coefficients in the same places. -/
def ofParallel (vars coefficients : List Value) (context : Value) : Except Fault LinearForm := do
  if vars.length ≠ coefficients.length then
    throw (.raised (.sumArity vars.length coefficients.length context))
  let terms ← (vars.zip coefficients).mapM fun t => do
    let v ← t.1.asVariable .name
    Obstacle.requireNone v.nameObstacle?
    WeightedSum.term context v t.2
  return .ofTerms (whole ⟨terms⟩).terms

end LinearForm

end IntegerProgram
