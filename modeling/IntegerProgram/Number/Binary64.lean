import IntegerProgram.Number.Rounding

/-!
# Double-precision numbers

The numbers of the 64-bit binary format, kept exactly: a finite one is a sign, a significand below
`2 ^ 53` and the exponent of its last bit. Every operation computes the exact rational result and
rounds it once, to the nearest number of the format and to the even significand when two are
equally near; what is too large becomes infinite.

## Main definitions

* `Binary64`: a number of the format, an infinity, or no number at all.
* `Binary64.ofRat`: the nearest number to a rational.
* `Binary64.toRat?`: the exact value of a finite number.
-/
namespace IntegerProgram

/-- A double-precision number. `finite s m e` stands for `m · 2 ^ e`, negated if `s` holds. Its
significand has 53 bits, or fewer where `e` is the least exponent, so each number has one form. What
is no number equals nothing, so that it can be told from others only as the object that it is. -/
inductive Binary64 where
  | notANumber (object : Nat := 0)
  | infinite (negative : Bool)
  | finite (negative : Bool) (significand : Nat) (exponent : Int)
  deriving DecidableEq, Inhabited, Repr

namespace Binary64

/-- The exponent of the smallest positive number. -/
def leastExponent : Int := -1074

/-- The exponent of the largest finite number. -/
def greatestExponent : Int := 971

/-- Zero, with a sign. -/
def zero (negative : Bool) : Binary64 := .finite negative 0 leastExponent

/-- Numerator and denominator of `num / den / 2 ^ e`. -/
def scale (num den : Nat) (e : Int) : Nat × Nat :=
  if e < 0 then (num * Nat.pow 2 (-e).toNat, den) else (num, den * Nat.pow 2 e.toNat)

/-- The exponent at which `num / den` has a significand of 53 bits, or the least exponent if that
is greater. -/
def lastBitExponent (num den : Nat) : Int :=
  let e : Int := num.log2 - den.log2 - 52
  let (n, d) := scale num den e
  max (if d * Nat.pow 2 52 ≤ n then e else e - 1) leastExponent

/-- The number nearest to `num / den`, negated if `negative` holds; half way between two numbers
it is the one with an even significand, and beyond the largest it is infinite. -/
def ofRatio (negative : Bool) (num den : Nat) : Binary64 :=
  if num = 0 then zero negative
  else
    let e := lastBitExponent num den
    let (n, d) := scale num den e
    let m := roundHalfEven n d
    let (m, e) := if m = Nat.pow 2 53 then (Nat.pow 2 52, e + 1) else (m, e)
    if greatestExponent < e then .infinite negative else .finite negative m e

/-- The number nearest to a rational; zero is not negative. -/
def ofRat (q : Rat) : Binary64 := ofRatio (q.num < 0) q.num.natAbs q.den

/-- The number nearest to an integer. -/
def ofInt (n : Int) : Binary64 := ofRatio (n < 0) n.natAbs 1

/-- The number nearest to `digits · 10 ^ exponent`. A power of ten that can only lead to zero or to
infinity is not computed. -/
def ofDecimal (negative : Bool) (digits : Nat) (exponent : Int) : Binary64 :=
  let length : Int := digits.log2 / 3 + 1
  if digits = 0 then zero negative
  else if 400 < exponent then .infinite negative
  else if exponent + length < -400 then zero negative
  else if exponent < 0 then ofRatio negative digits (Nat.pow 10 (-exponent).toNat)
  else ofRatio negative (digits * Nat.pow 10 exponent.toNat) 1

/-- Whether the sign is negative, which a zero may have too. -/
def isNegative : Binary64 → Bool
  | notANumber _ => false
  | infinite s => s
  | finite s _ _ => s

/-- Whether the number is neither infinite nor undefined. -/
def isFinite : Binary64 → Bool
  | finite .. => true
  | _ => false

/-- The exact value of a finite number. -/
def toRat? : Binary64 → Option Rat
  | finite s m e =>
    let (n, d) := scale m 1 (-e)
    let q := mkRat n d
    some (if s then -q else q)
  | _ => none

/-- Whether the number is finite and has no fractional part. -/
def isIntegral (x : Binary64) : Bool :=
  match x.toRat? with
  | some q => q.isInt
  | none => false

/-- The sum, of which two negative zeros make a negative zero and opposite infinities nothing. -/
def add : Binary64 → Binary64 → Binary64
  | notANumber _, _ | _, notANumber _ => notANumber
  | infinite s, infinite t => if s = t then infinite s else notANumber
  | infinite s, finite .. | finite .., infinite s => infinite s
  | x@(finite s ..), y@(finite t ..) =>
    let q := x.toRat?.getD 0 + y.toRat?.getD 0
    if q = 0 then zero (s && t) else ofRat q

/-- The product, whose sign is negative if exactly one factor's is; zero times an infinity is
undefined. -/
def mul : Binary64 → Binary64 → Binary64
  | notANumber _, _ | _, notANumber _ => notANumber
  | infinite s, infinite t => infinite (s != t)
  | infinite s, finite t m _ | finite t m _, infinite s =>
    if m = 0 then notANumber else infinite (s != t)
  | x@(finite s ..), y@(finite t ..) =>
    let q := x.toRat?.getD 0 * y.toRat?.getD 0
    ofRatio (s != t) q.num.natAbs q.den

/-- The number with the opposite sign. -/
def neg : Binary64 → Binary64
  | notANumber _ => notANumber
  | infinite s => infinite !s
  | finite s m e => finite (!s) m e

/-- The number without its sign. -/
def abs (x : Binary64) : Binary64 := if x.isNegative then x.neg else x

instance : Neg Binary64 := ⟨neg⟩
instance : Add Binary64 := ⟨add⟩
instance : Mul Binary64 := ⟨mul⟩

end Binary64

end IntegerProgram
