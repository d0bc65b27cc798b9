import IntegerProgram.Number.Decimal.Arithmetic
import IntegerProgram.Value.Order

/-!
# Computing with values

Sums and products are computed in the widest type of their operands. Truth values count as integers;
integers and fractions are exact, decimals mix with integers only, and a number beside a double is
rounded to one. Machine numbers keep to their width: a machine integer takes in an integer only if
that has its width, and the result wraps around; two of them meet in the least width that both fit
in, or as doubles. Beside a fraction or a decimal a machine number counts as what it stands for.
Real machine numbers other than doubles are read as numbers but not computed with.

A text, a list or a tuple times an integer is repeated, and two of one kind are added by putting
them in a row.

## Main definitions

* `Value.add`, `Value.mul`, `Value.neg`: computing.
-/
namespace IntegerProgram

/-- A fault of decimal arithmetic. -/
def Decimal.Trap.fault : Decimal.Trap → Fault
  | invalid => .undefinedDecimal
  | overflow => .decimalTooLarge

/-- An operation on numbers of each type. -/
structure Operation where
  onTruths : Bool → Bool → Bool
  onIntegers : Int → Int → Int
  onRationals : Rat → Rat → Rat
  onDoubles : Binary64 → Binary64 → Binary64
  onDecimals : Decimal → Decimal → Except Decimal.Trap Decimal
  onComplexes : Binary64 × Binary64 → Binary64 × Binary64 → Binary64 × Binary64

namespace Operation

/-- Addition. -/
def addition : Operation where
  onTruths := (· || ·)
  onIntegers := (· + ·)
  onRationals := (· + ·)
  onDoubles := (· + ·)
  onDecimals := Decimal.add
  onComplexes x y := (x.1 + y.1, x.2 + y.2)

/-- Multiplication. -/
def multiplication : Operation where
  onTruths := (· && ·)
  onIntegers := (· * ·)
  onRationals := (· * ·)
  onDoubles := (· * ·)
  onDecimals := Decimal.mul
  onComplexes x y := (x.1 * y.1 + -(x.2 * y.2), x.1 * y.2 + x.2 * y.1)

end Operation

namespace Value

/-- Whether the value is a complex number. -/
def isComplex : Value → Bool
  | complex .. | machineComplex .. => true
  | _ => false

/-- Whether the value is a double. -/
def isDouble : Value → Bool
  | float _ | machineFloat _ => true
  | _ => false

/-- Whether the value is a fraction. -/
def isFraction : Value → Bool
  | fraction _ => true
  | _ => false

/-- Whether the value is a machine number. -/
def isMachine : Value → Bool
  | machineBool _ | machineInt .. | machineFloat _ | machineReal .. | machineComplex .. => true
  | _ => false

/-- The number that a machine number stands for. -/
def unboxed : Value → Value
  | machineBool b => bool b
  | machineInt _ n => int n
  | machineFloat x => float x
  | machineComplex re im => complex re im
  | value => value

/-- The double nearest to a rational, which must not be beyond all doubles. -/
def doubleOf (q : Rat) : Except Fault Binary64 :=
  let x := Binary64.ofRat q
  if x.isFinite then pure x else throw .numberTooLarge

/-- The number as a rational, if it is an integer or a fraction. -/
def asRational (value : Value) : Except Fault Rat :=
  match value with
  | bool b | machineBool b => pure (if b then 1 else 0)
  | int n | machineInt _ n => pure n
  | fraction q => pure q
  | _ => throw (.notComparable value)

/-- The number as a double, as computing with doubles has it. -/
def asDouble (value : Value) : Except Fault Binary64 :=
  match value with
  | float x | machineFloat x => pure x
  | _ => do doubleOf (← value.asRational)

/-- The real and the imaginary part of a number. -/
def asComplex (value : Value) : Except Fault (Binary64 × Binary64) :=
  match value with
  | complex re im | machineComplex re im => pure (re, im)
  | _ => do return (← value.asDouble, .zero false)

/-- The number as a decimal, if it is an integer or a decimal. -/
def asDecimal (value : Value) : Except Fault Decimal :=
  match value with
  | decimal d => pure d
  | bool b => pure (.finite false (if b then 1 else 0) 0)
  | int n => pure (.finite (n < 0) n.natAbs 0)
  | _ => throw (.notComparable value)

/-- An integer of a width. -/
def inWidth (width : IntegerWidth) (n : Int) : Except Fault Int :=
  if width.holds n then pure n else throw (.notOfWidth n width)

/-- The width in which two integers are computed with, if one of them is a machine number. Truth
values have any width, but machine truth values beside an integer have the usual one. -/
def commonWidth? : Value → Value → Option IntegerWidth
  | machineInt v _, machineInt w _ => v.common? w
  | machineInt w _, _ | _, machineInt w _ => some w
  | machineBool _, int _ | int _, machineBool _ => some .int64
  | _, _ => Option.none

/-- Whether two values are machine integers that no width is wide enough for. -/
def outgrowWidths : Value → Value → Bool
  | machineInt v _, machineInt w _ => (v.common? w).isNone
  | _, _ => false

/-- The integer that an integer or a truth value is. -/
def asIndex (value : Value) : Except Fault Int :=
  match value with
  | bool b | machineBool b => pure (if b then 1 else 0)
  | int n | machineInt _ n => pure n
  | _ => throw (.notComparable value)

/-- An operation on integers and truth values. -/
def combineIntegers (op : Operation) (a b : Value) : Except Fault Value :=
  match a, b with
  | machineBool s, machineBool t | machineBool s, bool t | bool s, machineBool t =>
    pure (machineBool (op.onTruths s t))
  | _, _ => do
    let m ← a.asIndex
    let n ← b.asIndex
    match commonWidth? a b with
    | Option.none => return int (op.onIntegers m n)
    | some width =>
      let _ ← inWidth width m
      let _ ← inWidth width n
      return machineInt width (width.wrap (op.onIntegers m n))

/-- An operation on two numbers that are as they are computed with. -/
def combinePlain (op : Operation) (a b : Value) : Except Fault Value := do
  let machine := a.isMachine || b.isMachine
  if a.isComplex || b.isComplex then
    let (re, im) := op.onComplexes (← a.asComplex) (← b.asComplex)
    return if machine then machineComplex re im else complex re im
  else if a.isDecimal || b.isDecimal then
    return decimal (← (op.onDecimals (← a.asDecimal) (← b.asDecimal)).mapError Decimal.Trap.fault)
  else if a.isDouble || b.isDouble || outgrowWidths a b then
    let x := op.onDoubles (← a.asDouble) (← b.asDouble)
    return if machine then machineFloat x else float x
  else if a.isFraction || b.isFraction then
    return fraction (op.onRationals (← a.asRational) (← b.asRational))
  else combineIntegers op a b

/-- An operation on two numbers. -/
def combine (op : Operation) (a b : Value) : Except Fault Value :=
  if a.isFraction || a.isDecimal || b.isFraction || b.isDecimal then
    combinePlain op a.unboxed b.unboxed
  else combinePlain op a b

/-- The greatest number of repetitions. -/
def maxCount : Nat := 9223372036854775807

/-- The greatest number of parts that a repeated text or list is given. A longer one is no number
and writes none, whatever more parts it has. -/
def maxParts : Nat := 50000

/-- The greatest number of parts that there is room for. -/
def maxRoom : Nat := Nat.pow 2 40

/-- How often something of a given number of parts is repeated: so many times, but not less than
never and no more often than `maxParts` asks for. The parts of a text are counted as well. -/
def repetitions (count : Value) (parts : Nat) (isText : Bool) : Except Fault Nat := do
  match count with
  | machineBool _ => throw (.notComparable count)
  | _ =>
    let n ← count.asIndex
    if maxCount < n.natAbs && n ≠ -maxCount - 1 then throw .numberTooLarge
    else if isText && maxCount < n.toNat * parts then throw .numberTooLarge
    else if maxRoom < n.toNat * parts then throw .tooLong
    else return if parts = 0 then 0 else min n.toNat (maxParts / parts + 1)

/-- Items repeated. -/
def repeatItems (items : List Value) (count : Value) : Except Fault (List Value) := do
  return (List.replicate (← repetitions count items.length false) items).flatten

/-- A text, a list or a tuple repeated. -/
def repeated? (value count : Value) : Option (Except Fault Value) :=
  match value, value.asText? with
  | _, some s => some do
    let n ← repetitions count (Text.units s).length true
    return text (String.join (List.replicate n s))
  | list items, _ => some do return list (← repeatItems items count)
  | tuple items, _ => some do return tuple (← repeatItems items count)
  | _, _ => Option.none

/-- The product of two values. -/
def mul (a b : Value) : Except Fault Value :=
  match repeated? a b, repeated? b a with
  | some product, _ | Option.none, some product => product
  | Option.none, Option.none => combine .multiplication a b

/-- The sum of two values. -/
def add (a b : Value) : Except Fault Value :=
  match a.asText?, b.asText? with
  | some s, some t => pure (text (s ++ t))
  | some _, Option.none => throw (.notComparable b)
  | Option.none, some _ => throw (if a.isMachine then .machineAndText else .notComparable a)
  | Option.none, Option.none =>
    match a, b with
    | list items, list others => pure (list (items ++ others))
    | tuple items, tuple others => pure (tuple (items ++ others))
    | _, _ => combine .addition a b

/-- The sum of values in turn. -/
def total : List Value → Except Fault Value
  | [] => pure (int 0)
  | first :: rest => rest.foldlM add first

/-- The value with the opposite sign. -/
def neg (value : Value) : Except Fault Value :=
  match value with
  | bool b => pure (int (if b then -1 else 0))
  | int n => pure (int (-n))
  | float x => pure (float (-x))
  | fraction q => pure (fraction (-q))
  | machineInt width n => pure (machineInt width (width.wrap (-n)))
  | machineFloat x => pure (machineFloat (-x))
  | _ => throw (.notComparable value)

end Value

end IntegerProgram
