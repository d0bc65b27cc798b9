import IntegerProgram.Fault
import IntegerProgram.Number.Measure
import IntegerProgram.Value.Key

/-!
# Order and equality of values

Real numbers are ordered by their exact values, whatever their types; only a machine integer beside
a double is rounded to one. Texts are ordered by their units, and lists and tuples by the first
items that differ. Other values have no order. An undefined double is neither less nor greater than
any number, while an undefined decimal forbids the question.

Equality asks less: values of different kinds differ, lists are equal item by item and dictionaries
entry by entry. Only signaling decimals cannot be asked whether they equal a number. Items that are
one object count as equal, even where they are no number and equal nothing.

## Main definitions

* `Value.equals`: whether two values are equal.
* `Value.precedes`: whether one value comes before another, strictly or not.
* `Value.compares`: whether two values compare as stated, which integers do by their numbers.
-/
namespace IntegerProgram

/-- The size of a real machine number that is no double. -/
def MachineReal.measure : MachineReal → Measure
  | notANumber _ => .undefined
  | infinite s => .infinite s
  | finite q _ => .finite q

namespace Value

/-- How large a machine integer is beside another value. -/
def machineMeasure (n : Int) : Value → Measure
  | float _ | machineFloat _ => (Binary64.ofInt n).measure
  | _ => .finite n

/-- How large a real number is, beside another value. -/
def measure? (value other : Value) : Option Measure :=
  match value with
  | bool b | machineBool b => some (.finite (if b then 1 else 0))
  | int n => some (.finite n)
  | machineInt _ n => some (machineMeasure n other)
  | float x | machineFloat x => some x.measure
  | machineReal _ x => some x.measure
  | fraction q => some (.finite q)
  | decimal d => some d.measure
  | _ => Option.none

/-- The integer that a value is, if it is a whole number of any type. -/
def whole? (value : Value) : Option Int :=
  match value.measure? value with
  | some (.finite q 0) => if q.isInt then some q.num else Option.none
  | _ => Option.none

/-- The integer that a value is, or zero. -/
def whole (value : Value) : Int := value.whole?.getD 0

@[simp] theorem whole_int (n : Int) : (int n).whole = n := by
  have isInt : (n : Rat).isInt = true := rfl
  simp [whole, whole?, measure?, isInt]

/-- Whether the value is a decimal. -/
def isDecimal : Value → Bool
  | decimal _ => true
  | _ => false

/-- Whether the value is a signaling decimal, which most operations refuse. -/
def isSignaling : Value → Bool
  | decimal d => d.isSignaling
  | _ => false

/-- Whether the value is a number. -/
def isNumber : Value → Bool
  | bool _ | int _ | float _ | fraction _ | decimal _ | complex .. => true
  | machineBool _ | machineInt .. | machineFloat _ | machineReal .. | machineComplex .. => true
  | _ => false

/-- Whether the value is a complex number of which a part is no number. -/
def isUndefinedComplex : Value → Bool
  | complex re im | machineComplex re im => re.isUndefined || im.isUndefined
  | _ => false

/-- Whether one of two values that are not made of others equals the other one. -/
def equalsPlain (a b : Value) : Except Fault Bool :=
  if (a.isSignaling && b.isNumber) || (b.isSignaling && a.isNumber) then throw .undefinedDecimal
  else
    match a.measure? b, b.measure? a with
    | some m, some n => pure (m.compare? n = some .eq)
    | _, _ => pure (a.isSameKey b && !a.isUndefinedComplex)

mutual

/-- Whether two values are equal. -/
def equals : Value → Value → Except Fault Bool
  | int m, int n => pure (m = n)
  | list items, list others =>
    if items.length = others.length then allEqual items others else pure false
  | tuple items, tuple others => allEqual items others
  | dictionary entries, dictionary others =>
    if entries.length = others.length then allFound entries others else pure false
  | a, b => a.equalsPlain b

/-- Whether items are equal to those in their places. -/
def allEqual : List Value → List Value → Except Fault Bool
  | [], [] => pure true
  | v :: rest, w :: others => do
    if v.isSameKey w || (← v.equals w) then allEqual rest others else return false
  | _, _ => pure false

/-- Whether entries are found among others. -/
def allFound : List (Value × Value) → List (Value × Value) → Except Fault Bool
  | [], _ => pure true
  | (key, v) :: rest, others =>
    match others.find? fun e => e.1.isSameKey key with
    | some (_, w) => do
      if v.isSameKey w || (← v.equals w) then allFound rest others else return false
    | Option.none => pure false

end

/-- Whether an outcome of a comparison is that of values in order. -/
def isOrdered (strict : Bool) : Option Ordering → Bool
  | some .lt => true
  | some .eq => !strict
  | _ => false

/-- Whether a number or a text comes before another one. -/
def precedesPlain (strict : Bool) (a b : Value) : Except Fault Bool :=
  match a.measure? b, b.measure? a with
  | some m, some n =>
    if (a.isDecimal || b.isDecimal) && (m = .undefined || n = .undefined) then
      throw .undefinedDecimal
    else pure (isOrdered strict (m.compare? n))
  | _, _ =>
    match a.asText?, b.asText? with
    | some s, some t =>
      pure (Text.units s < Text.units t || (!strict && Text.units s = Text.units t))
    | _, _ => throw (.notComparable a)

mutual

/-- Whether a value comes before another one; unless strictly, it may also be equal to it. -/
def precedes (strict : Bool) : Value → Value → Except Fault Bool
  | list items, list others => itemsPrecede strict items others
  | tuple items, tuple others => itemsPrecede strict items others
  | a, b => a.precedesPlain strict b

/-- Whether items come before others, which the first that differ decide. -/
def itemsPrecede (strict : Bool) : List Value → List Value → Except Fault Bool
  | [], [] => pure !strict
  | [], _ :: _ => pure true
  | _ :: _, [] => pure false
  | v :: rest, w :: others => do
    if v.isSameKey w || (← v.equals w) then itemsPrecede strict rest others
    else v.precedes strict w

end

/-- Whether a value is less than another one. -/
def isLess (a b : Value) : Except Fault Bool := a.precedes true b

/-- Whether a value is at most another one. -/
def isAtMost (a b : Value) : Except Fault Bool := a.precedes false b

/-- Whether two values compare as stated. -/
def compares (a : Value) (c : Comparison) (b : Value) : Except Fault Bool :=
  match c with
  | .eq => a.equals b
  | .ne => do return !(← a.equals b)
  | .ge => b.isAtMost a
  | .gt => b.isLess a
  | .le => a.isAtMost b
  | .lt => a.isLess b

/-- Integers are equal as their numbers are. -/
theorem equals_int (m n : Int) : (int m).equals (int n) = .ok (decide (m = n)) := by
  simp [equals, pure, Except.pure]

/-- Integers come one before another as their numbers do. -/
theorem precedes_int (strict : Bool) (m n : Int) :
    (int m).precedes strict (int n) = .ok (isOrdered strict (some (compare m n))) := by
  simp [precedes, precedesPlain, measure?, isDecimal, Measure.compare?, Measure.compareFinite_int,
    pure, Except.pure]

/-- Integers compare by their numbers. -/
theorem compares_int (m n : Int) (c : Comparison) :
    (int m).compares c (int n) = .ok (c.holds m n) := by
  cases c <;>
    simp [compares, Comparison.holds, equals_int, isAtMost, isLess, precedes_int, compare,
      compareOfLessAndEq, isOrdered, pure, Except.pure, bind, Except.bind] <;>
    grind

end Value

end IntegerProgram
