import IntegerProgram.Number.Decimal

/-!
# Computing with decimal numbers

A sum or a product is exact before it is rounded once, to 28 digits and half way to the even
neighbour. A result whose first digit has too large an exponent is refused, and one that is too
small keeps only the digits that a least exponent leaves. What is no number makes the result no
number, unless it is signaling.

## Main definitions

* `Decimal.rounded`: a number in the working precision.
* `Decimal.add`, `Decimal.mul`, `Decimal.abs`: computing.
-/
namespace IntegerProgram.Decimal

/-- Why an operation has no result. -/
inductive Trap where
  | invalid
  | overflow
  deriving DecidableEq, Inhabited, Repr

/-- The number of digits that are computed with. -/
def precision : Nat := 28

/-- The greatest exponent of the first digit of a result. -/
def greatestResult : Int := 999999

/-- The least exponent of the last digit of a result. -/
def leastResult : Int := -1000026

/-- The number of digits of a coefficient. -/
def digitCount (c : Nat) : Nat := if c = 0 then 1 else (decimalExponent c 1).toNat + 1

/-- A number in the working precision. -/
def rounded : Decimal → Except Trap Decimal
  | finite s c e =>
    if c = 0 then pure (finite s 0 (min (max e leastResult) greatestResult))
    else
      let digits := digitCount c
      let excess := max (digits - precision) (leastResult - e).toNat
      let kept := roundHalfEven c (Nat.pow 10 (min excess (digits + 1)))
      let (kept, excess) :=
        if kept = Nat.pow 10 precision then (Nat.pow 10 (precision - 1), excess + 1)
        else (kept, excess)
      let exponent := e + excess
      if greatestResult < exponent + digitCount kept - 1 then throw .overflow
      else pure (finite s kept exponent)
  | d => pure d

/-- The sign of a product. -/
def productIsNegative (x y : Decimal) : Bool := x.isNegative != y.isNegative

/-- What is no number among two operands, if either is. -/
def undefinedAmong? (x y : Decimal) : Except Trap (Option Decimal) :=
  if x.isSignaling || y.isSignaling then throw .invalid
  else match x, y with
    | notANumber .., _ => pure (some x)
    | _, notANumber .. => pure (some y)
    | _, _ => pure none

/-- The product. -/
def mul (x y : Decimal) : Except Trap Decimal := do
  if let some d ← undefinedAmong? x y then return d
  match x, y with
  | finite s c e, finite t d f => rounded (finite (s != t) (c * d) (e + f))
  | _, _ =>
    if x.isZero || y.isZero then throw .invalid
    else return infinite (productIsNegative x y)

/-- What stands for a coefficient and an exponent beside a number that is so much larger that only
its presence counts. -/
def shadow (larger : Nat) (e : Int) (smaller : Nat) (f : Int) : Nat × Int :=
  let digits := digitCount larger
  let least := e - 1 - (if precision < digits then 0 else precision + 1 - digits : Nat)
  if larger ≠ 0 && f + digitCount smaller - 1 < least then (min smaller 1, least)
  else (smaller, f)

/-- A coefficient with its sign. -/
def signed (negative : Bool) (c : Nat) : Int := if negative then -c else c

/-- The sum of two numbers of which the first has the greater exponent. -/
def addAligned (s : Bool) (c : Nat) (e : Int) (t : Bool) (d : Nat) (f : Int) :
    Except Trap Decimal :=
  let (d, f) := shadow c e d f
  let total := signed s (if c = 0 then 0 else c * Nat.pow 10 (e - f).toNat) + signed t d
  rounded (finite (if total = 0 then s && t else total < 0) total.natAbs f)

/-- The sum. -/
def add (x y : Decimal) : Except Trap Decimal := do
  if let some d ← undefinedAmong? x y then return d
  match x, y with
  | finite s c e, finite t d f => if f ≤ e then addAligned s c e t d f else addAligned t d f s c e
  | infinite s, infinite t => if s = t then return x else throw .invalid
  | infinite _, _ => return x
  | _, _ => return y

/-- The number without its sign, in the working precision. -/
def abs : Decimal → Except Trap Decimal
  | notANumber s signaling payload _ =>
    if signaling then throw .invalid else pure (notANumber s signaling payload)
  | infinite _ => pure (infinite false)
  | finite _ c e => rounded (finite false c e)

end IntegerProgram.Decimal
