import IntegerProgram.Value.Arithmetic

/-!
# Numbers asked of values

Engines are given integers and doubles, and give back what is read as integers. A number of another
type is converted, an integer losing its fractional part, and a text counts as the number that it
writes.

## Main definitions

* `Value.wholePart`: the integer part of a number.
* `Value.asReal`: the double nearest to a number.
-/
namespace IntegerProgram.Value

/-- The integer part of a double. -/
def doublePart : Binary64 → Except Fault Int
  | .notANumber _ => throw .notANumber
  | .infinite _ => throw .numberTooLarge
  | x => pure (integerPart (x.toRat?.getD 0))

/-- The integer part of a real machine number that is no double. -/
def realPart : MachineReal → Except Fault Int
  | .notANumber _ => throw .notANumber
  | .infinite _ => throw .numberTooLarge
  | .finite q _ => pure (integerPart q)

/-- The integer part of a decimal. -/
def decimalPart (d : Decimal) : Except Fault Int :=
  match d with
  | .notANumber .. => throw .notANumber
  | .infinite _ => throw .numberTooLarge
  | .finite .. => pure (d.wholePart?.getD 0)

/-- The integer part of a number, or the integer that a text writes. A machine number that is
complex has that of its real part. -/
def wholePart (value : Value) : Except Fault Int :=
  match value.asText? with
  | some s =>
    match Numeral.integer? s with
    | some n => pure n
    | Option.none => throw (.notANumeral value)
  | Option.none =>
    match value with
    | bool b | machineBool b => pure (if b then 1 else 0)
    | int n | machineInt _ n => pure n
    | float x | machineFloat x | machineComplex x _ => doublePart x
    | machineReal _ x => realPart x
    | fraction q => pure (integerPart q)
    | decimal d => decimalPart d
    | _ => throw (.notComparable value)

/-- The double nearest to a number, or to the one that a text writes. -/
def asReal (value : Value) : Except Fault Binary64 :=
  match value.asText? with
  | some s =>
    match Numeral.real? s with
    | some x => pure x
    | Option.none => throw (.notANumeral value)
  | Option.none =>
    match value with
    | decimal d => if d.isSignaling then throw .notANumber else pure d.toBinary64
    | machineReal _ x => pure x.toBinary64
    | _ => value.asDouble

end IntegerProgram.Value
