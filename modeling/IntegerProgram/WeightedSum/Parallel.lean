import IntegerProgram.Value.Integer

/-!
# Sums from parallel lists

A sum can be given as a list of variables and a list of as many coefficients, which may be any
values that are integers.
-/
namespace IntegerProgram.WeightedSum

/-- A term, whose coefficient has to be an integer. The context names the operation in faults. -/
def term (context : Value) (v : Variable) (coefficient : Value) :
    Except Fault (Variable × Int) := do
  context.requireText
  return (v, ← coefficient.asInteger s!"coefficient of {v.name} for {context.shown}")

/-- The sum of the variables with the coefficients in the same places. -/
def ofParallel (vars : List Variable) (coefficients : List Value) (context : Value) :
    Except Fault WeightedSum := do
  if vars.length ≠ coefficients.length then
    throw (.raised (.sumArity vars.length coefficients.length context))
  return ⟨← (vars.zip coefficients).mapM fun t => term context t.1 t.2⟩

end IntegerProgram.WeightedSum
