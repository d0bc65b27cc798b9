import IntegerProgram.Number.Numeral
import IntegerProgram.Number.Shortest

/-!
# Decimal numbers

A decimal number keeps the digits that it was written with, so `2.50` and `2.5` are equal in value
and different in text. What is no number keeps a sign and a payload, and may be signaling, which
forbids most of its uses.
-/
namespace IntegerProgram

/-- A decimal number. `finite s c e` stands for `c · 10 ^ e`, negated if `s` holds. What is no
number is told from others as the object that it is. -/
inductive Decimal where
  | notANumber (negative signaling : Bool) (payload : Nat) (object : Nat := 0)
  | infinite (negative : Bool)
  | finite (negative : Bool) (coefficient : Nat) (exponent : Int)
  deriving DecidableEq, Inhabited, Repr

namespace Decimal

/-- The payload that digits write; no digit stands for zero. -/
def payload? (cs : List Char) : Option Nat :=
  match cs, Numeral.digits? cs with
  | [], _ => some 0
  | _, some (n, _, []) => some n
  | _, _ => none

/-- What is no number, as lower-case characters write it. -/
def undefined? (negative : Bool) : List Char → Option Decimal
  | 's' :: 'n' :: 'a' :: 'n' :: rest => (payload? rest).map fun n => notANumber negative true n
  | 'n' :: 'a' :: 'n' :: rest => (payload? rest).map fun n => notANumber negative false n
  | _ => none

/-- The greatest exponent that the first digit of a number may have. -/
def greatestExponent : Int := 999999999999999999

/-- The least exponent that the last digit of a number may have. -/
def leastExponent : Int := -1999999999999999997

/-- Whether the exponent of a finite number is in range. -/
def isHeld : Decimal → Bool
  | finite _ c e =>
    leastExponent ≤ e && (if c = 0 then e else e + decimalExponent c 1) ≤ greatestExponent
  | _ => true

/-- The decimal number that the text writes. Blanks around it do not count, nor do underscores. -/
def ofText? (s : String) : Option Decimal :=
  let (negative, body) := Numeral.sign ((Text.trim s).toList.filter (· ≠ '_'))
  let word := body.map Char.toLower
  if let some d := undefined? negative word then some d
  else if word = "inf".toList || word = "infinity".toList then some (infinite negative)
  else
    let whole := Numeral.digits? body
    let (value, _, afterWhole) := whole.getD (0, 0, body)
    let (part, places, afterFraction) := Numeral.fraction afterWhole
    if whole.isNone && places = 0 then none
    else do
      let e ← Numeral.exponent? afterFraction
      let d := finite negative (value * Nat.pow 10 places + part) (e - places)
      if d.isHeld then some d else none

/-- Whether the number is signaling. -/
def isSignaling : Decimal → Bool
  | notANumber _ signaling _ _ => signaling
  | _ => false

/-- Whether the sign is negative, which a zero may have too. -/
def isNegative : Decimal → Bool
  | notANumber s _ _ _ => s
  | infinite s => s
  | finite s _ _ => s

/-- Whether the number is zero. -/
def isZero : Decimal → Bool
  | finite _ c _ => c = 0
  | _ => false

/-- A coefficient without its final zeros, at most `fuel` of them, and the exponent with it. -/
def strip (c : Nat) (e : Int) : Nat → Nat × Int
  | 0 => (c, e)
  | fuel + 1 => if c % 10 = 0 then strip (c / 10) (e + 1) fuel else (c, e)

/-- Coefficient and exponent of a positive number with as few digits as can be. -/
def stripped (c : Nat) (e : Int) : Nat × Int := strip c e (c.log2 + 1)

/-- The exact value of `c · 10 ^ e`. -/
def scaled (negative : Bool) (c : Nat) (e : Int) : Rat :=
  let q := if e < 0 then mkRat c (Nat.pow 10 (-e).toNat) else mkRat (c * Nat.pow 10 e.toNat) 1
  if negative then -q else q

/-- The double nearest to the number. -/
def toBinary64 : Decimal → Binary64
  | notANumber .. => .notANumber
  | infinite s => .infinite s
  | finite s c e => .ofDecimal s c e

/-- A finite number without its fractional part. What is left of the point is not computed if there
is nothing. -/
def wholePart? : Decimal → Option Int
  | finite s c e =>
    let n :=
      if 0 ≤ e then c * Nat.pow 10 e.toNat
      else if c.log2 < 3 * e.natAbs then 0
      else c / Nat.pow 10 e.natAbs
    some (if s then -n else n)
  | _ => none

/-- The text of the number. The point is placed as the digits were written, unless the number ends
left of it or starts more than five places right of it; then the exponent is written. -/
def text : Decimal → String
  | notANumber s signaling payload _ =>
    (if s then "-" else "") ++ (if signaling then "s" else "") ++ "NaN"
      ++ (if payload = 0 then "" else toString payload)
  | infinite s => if s then "-Infinity" else "Infinity"
  | finite s c e =>
    let digits := Nat.toDigits 10 c
    let left := e + digits.length
    let plain := e ≤ 0 && -6 < left
    let point := if plain then left else 1
    let body :=
      if point ≤ 0 then '0' :: '.' :: List.replicate (-point).toNat '0' ++ digits
      else if digits.length ≤ point.toNat then
        digits ++ List.replicate (point.toNat - digits.length) '0'
      else digits.take point.toNat ++ '.' :: digits.drop point.toNat
    let exponent := left - point
    let tail :=
      if exponent = 0 then []
      else ['E', if exponent < 0 then '-' else '+'] ++ Nat.toDigits 10 exponent.natAbs
    String.ofList ((if s then ['-'] else []) ++ body ++ tail)

end Decimal

end IntegerProgram
