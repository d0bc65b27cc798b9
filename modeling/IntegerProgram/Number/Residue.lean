import IntegerProgram.Number.Decimal

/-!
# Residues of numbers

Keys are sorted by a residue before they are compared, so two of them meet only if their residues
are equal. That of an integer is its size modulo a prime, with its sign, and those of a fraction and
of a decimal are residues of the same number, where a denominator and a power of ten with a negative
exponent count as inverses. The residue minus one is not used, and minus two stands in its place.

## Main definitions

* `powMod`: powers modulo a number.
* `residue`, `ratResidue`, `Decimal.residue?`: the residues of an integer, of a fraction and of a
  decimal.
-/
namespace IntegerProgram

/-- The power `b ^ e` modulo `m`, by repeated squaring. -/
def powMod (b m e : Nat) : Nat :=
  if e = 0 then 1 % m
  else
    let half := powMod b m (e / 2)
    if e % 2 = 0 then half * half % m else half * half * b % m
termination_by e

/-- The prime modulo which residues are taken. -/
def residuePrime : Nat := Nat.pow 2 61 - 1

/-- A size with its sign, as a residue. -/
def signedResidue (negative : Bool) (size : Nat) : Int :=
  let n : Int := if negative then -size else size
  if n = -1 then -2 else n

/-- The residue of an integer. -/
def residue (n : Int) : Int := signedResidue (n < 0) (n.natAbs % residuePrime)

/-- What stands for the residue of an infinite number. -/
def infiniteResidue : Nat := 314159

/-- The residue of a fraction. If its denominator has no inverse, it is sorted as if it were
infinite. -/
def ratResidue (q : Rat) : Int :=
  if q.den = 1 then residue q.num
  else if q.den % residuePrime = 0 then signedResidue (q < 0) infiniteResidue
  else
    let inverse := powMod q.den residuePrime (residuePrime - 2)
    signedResidue (q < 0) (q.num.natAbs * inverse % residuePrime)

/-- The residue of a decimal, if it is a number. -/
def Decimal.residue? : Decimal → Option Int
  | notANumber .. => none
  | infinite s => some (signedResidue s infiniteResidue)
  | finite s c e =>
    let tens := powMod 10 residuePrime (e % (residuePrime - 1 : Nat)).toNat
    some (signedResidue s (c * tens % residuePrime))

end IntegerProgram
