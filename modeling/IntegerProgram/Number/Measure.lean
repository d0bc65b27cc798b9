import IntegerProgram.Number.Decimal

/-!
# How large numbers are

Numbers of all kinds are compared by their exact values. The size of a decimal keeps its power of
ten apart, which is computed only where a comparison depends on its digits.

## Main definitions

* `Measure`: how large a real number is.
* `Measure.compare?`: the comparison, which an undefined number does not have.
-/
namespace IntegerProgram

/-- How large a real number is. `finite q e` stands for `q · 10 ^ e`. -/
inductive Measure where
  | undefined
  | infinite (negative : Bool)
  | finite (q : Rat) (tens : Int := 0)
  deriving DecidableEq, Inhabited, Repr

/-- The size of a double. -/
def Binary64.measure : Binary64 → Measure
  | notANumber _ => .undefined
  | infinite s => .infinite s
  | x => .finite (x.toRat?.getD 0)

/-- The size of a decimal. -/
def Decimal.measure : Decimal → Measure
  | notANumber .. => .undefined
  | infinite s => .infinite s
  | finite s c e => .finite (scaled s c 0) e

namespace Measure

/-- Positive `n · 10 ^ e` against positive `m`. A power of ten has more than three times as many
bits as its exponent, so it is not needed if the exponent is large. -/
def compareTens (n : Nat) (e : Int) (m : Nat) : Ordering :=
  if 0 ≤ e then
    if m.log2 < 3 * e.natAbs then .gt else compare (n * Nat.pow 10 e.natAbs) m
  else if n.log2 < 3 * e.natAbs then .lt
  else compare n (m * Nat.pow 10 e.natAbs)

/-- Two finite sizes against each other. -/
def compareFinite (p : Rat) (e : Int) (q : Rat) (f : Int) : Ordering :=
  let magnitudes := compareTens (p.num.natAbs * q.den) (e - f) (q.num.natAbs * p.den)
  if p.num.sign = q.num.sign then
    if p.num = 0 then .eq else if p.num < 0 then magnitudes.swap else magnitudes
  else compare p.num.sign q.num.sign

/-- Without tens, positive numbers are compared as they are. -/
theorem compareTens_zero (n m : Nat) : compareTens n 0 m = compare n m := by
  simp [compareTens]

/-- Integers are compared as they are. -/
theorem compareFinite_int (m n : Int) : compareFinite m 0 n 0 = compare m n := by
  have num (k : Int) : (k : Rat).num = k := rfl
  have den (k : Int) : (k : Rat).den = 1 := rfl
  have swaps : Ordering.lt.swap = .gt ∧ Ordering.eq.swap = .eq ∧ Ordering.gt.swap = .lt :=
    ⟨rfl, rfl, rfl⟩
  simp only [compareFinite, num, den, Nat.mul_one, Int.sub_self, compareTens_zero]
  rcases Int.lt_trichotomy m 0 with hm | rfl | hm <;>
    rcases Int.lt_trichotomy n 0 with hn | rfl | hn <;>
    simp [Int.sign_eq_one_of_pos, Int.sign_eq_neg_one_of_neg, *, compare, compareOfLessAndEq] <;>
    grind

/-- Two sizes against each other; an undefined number is neither less nor equal nor greater. -/
def compare? : Measure → Measure → Option Ordering
  | undefined, _ | _, undefined => none
  | infinite s, infinite t => some (if s = t then .eq else if s then .lt else .gt)
  | infinite s, finite .. => some (if s then .lt else .gt)
  | finite .., infinite t => some (if t then .gt else .lt)
  | finite p e, finite q f => some (compareFinite p e q f)

end Measure

end IntegerProgram
