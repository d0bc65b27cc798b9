import IntegerProgram.Fault

/-!
# Integers among values

Bounds, coefficients and constants have to be integers. An integer of any width is one, and so is a
real number without a fractional part: a double that is whole, or a fraction or a machine number of
another type whose nearest double is whole, of which the integer part counts. Truth values, decimals
and complex numbers are refused even where they are whole.
-/
namespace IntegerProgram.Value

/-- The integer that a value is. A fraction must not be beyond all doubles. -/
def asInteger (value : Value) (what : String) : Except Fault Int :=
  match value with
  | int n | machineInt _ n => pure n
  | float x | machineFloat x =>
    if x.isIntegral then pure (integerPart (x.toRat?.getD 0))
    else throw (.raised (.notInteger what value))
  | machineReal _ x =>
    if x.toBinary64.isIntegral then pure (integerPart (x.toRat?.getD 0))
    else throw (.raised (.notInteger what value))
  | fraction q =>
    let x := Binary64.ofRat q
    if !x.isFinite then throw .numberTooLarge
    else if x.isIntegral then pure (integerPart q)
    else throw (.raised (.notInteger what value))
  | _ => throw (.raised (.notInteger what value))

end IntegerProgram.Value
