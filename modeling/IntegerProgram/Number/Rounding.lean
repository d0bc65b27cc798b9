/-!
# Rounding to the nearest integer

A quotient is rounded to the nearest integer, and one that lies half way between two integers to
the even one of them. Every other rounding of the library is this one on a finer grid.
-/
namespace IntegerProgram

/-- The integer nearest to `n / d`, the even one if two are equally near. -/
def roundHalfEven (n d : Nat) : Nat :=
  let q := n / d
  let r := n % d
  if 2 * r < d then q
  else if d < 2 * r then q + 1
  else if q % 2 = 0 then q else q + 1

/-- An exact quotient is not altered. -/
theorem roundHalfEven_mul_right (q d : Nat) (hd : 0 < d) : roundHalfEven (q * d) d = q := by
  simp [roundHalfEven, Nat.mul_div_cancel _ hd, hd]

/-- The result is at most half a unit away from the quotient. -/
theorem two_mul_roundHalfEven_le (n d : Nat) (hd : 0 < d) :
    2 * d * roundHalfEven n d ≤ 2 * n + d ∧ 2 * n ≤ 2 * d * roundHalfEven n d + d := by
  have h := Nat.div_add_mod n d
  have hr := Nat.mod_lt n hd
  have h2 : 2 * d * (n / d) = 2 * (d * (n / d)) := Nat.mul_assoc ..
  have h3 : 2 * d * (n / d + 1) = 2 * (d * (n / d)) + 2 * d := by rw [Nat.mul_add, h2]; omega
  simp only [roundHalfEven]
  split
  · omega
  · split
    · omega
    · split <;> omega

/-- The integer nearest to `n` whose last bits beyond the first 53 are zero; of two equally near
ones it is that with an even significand. -/
def significant (n : Int) : Int :=
  let unit := Nat.pow 2 (n.natAbs.log2 - 52)
  let size := roundHalfEven n.natAbs unit * unit
  if n < 0 then -size else size

/-- An integer of 53 bits is not altered. -/
theorem significant_of_lt {n : Int} (h : n.natAbs < Nat.pow 2 53) : significant n = n := by
  have small : n.natAbs.log2 - 52 = 0 := by
    by_cases zero : n.natAbs = 0
    · simp [zero]
    · have := (Nat.log2_lt zero).2 h
      omega
  have same := roundHalfEven_mul_right n.natAbs 1 Nat.one_pos
  simp only [Nat.mul_one] at same
  simp only [significant, small, Nat.pow_zero, Nat.pow_eq, same, Nat.mul_one]
  omega

/-- Rounding at most doubles an integer. -/
theorem natAbs_significant_le (n : Int) : (significant n).natAbs ≤ 2 * n.natAbs := by
  have size : ∀ a : Nat, roundHalfEven a (Nat.pow 2 (a.log2 - 52)) * Nat.pow 2 (a.log2 - 52) ≤
      2 * a := by
    intro a
    by_cases zero : a = 0
    · subst zero
      decide
    · have small : Nat.pow 2 (a.log2 - 52) ≤ Nat.pow 2 a.log2 :=
        Nat.pow_le_pow_right Nat.two_pos (Nat.sub_le _ _)
      have unit : Nat.pow 2 a.log2 ≤ a := Nat.log2_self_le zero
      have near := (two_mul_roundHalfEven_le a (Nat.pow 2 (a.log2 - 52))
        (Nat.pow_pos Nat.two_pos)).1
      rw [Nat.mul_assoc] at near
      rw [Nat.mul_comm]
      omega
  have bound := size n.natAbs
  simp only [significant]
  split <;> omega
/-- The integer nearest to a rational, the even one if two are equally near. -/
def nearestInteger (q : Rat) : Int :=
  let n := roundHalfEven q.num.natAbs q.den
  if q.num < 0 then -n else n

/-- A rational without its fractional part. -/
def integerPart (q : Rat) : Int := Int.tdiv q.num q.den

end IntegerProgram
