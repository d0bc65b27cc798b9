import IntegerProgram.Proofs.Fault
import IntegerProgram.Proofs.WeightedSum
import Mathlib.Data.Rat.Lemmas

/-!
# Which numbers count as integers

A real number that is whole counts as the integer that it is, and other values do not count as
integers. There is one slip: whether a fraction is whole is asked of its nearest double, and the
integer is taken from the fraction. So a fraction with a whole double counts as its integer part
even if it is not whole, and a fraction that is too large for a double is not read at all. The same
is true of a machine number of more bits than a double, but one that is too large is refused like
any value that is no integer.

## Main definitions

* `Value.real?`: the exact value of a real number.
* `Value.IsExactly`, `Value.IsCutTo`: whether a number is an integer, or loses its fractional part.
* `Value.IsBeyondDoubles`: whether a number is a fraction that is too large for a double.

## Main statements

* `Binary64.isIntegral_ofRatio_one`: the double nearest to an integer is whole.
* `Value.asInteger_eq_ok_iff`: which integer a value counts as.
* `Value.failsOnly_asInteger`: how a value that counts as none is refused.
-/
namespace IntegerProgram

@[simp] theorem integerPart_intCast (n : Int) : integerPart n = n := by
  simp [integerPart]

/-- What has no fractional part is its integer part. -/
theorem eq_integerPart_of_isInt {q : Rat} (whole : q.isInt = true) : q = integerPart q := by
  rw [Rat.eq_num_of_isInt whole, integerPart_intCast]

namespace Binary64

/-- A finite double is whole if its exact value is. -/
theorem isIntegral_finite {negative : Bool} {m : Nat} {e : Int}
    (whole : (scale m 1 (-e)).2 ∣ (scale m 1 (-e)).1) (pos : (scale m 1 (-e)).2 ≠ 0) :
    (finite negative m e).isIntegral = true := by
  obtain ⟨k, multiple⟩ := whole
  have exact : mkRat (scale m 1 (-e)).1 (scale m 1 (-e)).2 = (k : Int) := by
    rw [multiple, Rat.mkRat_eq_div]
    have nonzero : ((scale m 1 (-e)).2 : Rat) ≠ 0 := by simpa using pos
    push_cast
    exact mul_div_cancel_left₀ _ nonzero
  simp only [isIntegral, toRat?, exact]
  cases negative <;> simp [Rat.isInt]

/-- A double whose last bit counts ones or more is whole. -/
theorem isIntegral_of_nonneg (negative : Bool) (m : Nat) {e : Int} (whole : 0 ≤ e) :
    (finite negative m e).isIntegral = true := by
  have one : (scale m 1 (-e)).2 = 1 := by
    unfold scale
    split
    · rfl
    · obtain rfl : e = 0 := by omega
      rfl
  exact isIntegral_finite (by simp [one]) (by simp [one])

/-- So is one whose significand is a multiple of the power of two that its last bit is a part of. -/
theorem isIntegral_of_dvd (negative : Bool) {m : Nat} {e : Int} (multiple : 2 ^ (-e).toNat ∣ m) :
    (finite negative m e).isIntegral = true := by
  by_cases whole : 0 ≤ e
  · exact isIntegral_of_nonneg negative m whole
  · have parts : scale m 1 (-e) = (m, 2 ^ (-e).toNat) := by
      simp only [scale, one_mul, Nat.pow_eq, ite_eq_right_iff]
      omega
    exact isIntegral_finite (by simpa [parts] using multiple) (by simp [parts])

/-- What an integer is rounded to at a negative exponent is the integer. -/
theorem roundHalfEven_scale_one (n : Nat) {e : Int} (fractional : e < 0) :
    roundHalfEven (scale n 1 e).1 (scale n 1 e).2 = n * 2 ^ (-e).toNat := by
  have exact := roundHalfEven_mul_right (n * 2 ^ (-e).toNat) 1 Nat.one_pos
  simpa [scale, fractional] using exact

/-- A significand that is a multiple of a power of two is still one after a carry. -/
theorem dvd_of_carried {r m : Nat} {e k : Int} (multiple : 2 ^ (-e).toNat ∣ r)
    (carried : (if r = Nat.pow 2 53 then (Nat.pow 2 52, e + 1) else (r, e)) = (m, k)) :
    2 ^ (-k).toNat ∣ m := by
  split at carried
  · next full =>
    obtain ⟨rfl, rfl⟩ := Prod.mk.inj carried
    rw [full, Nat.pow_eq, Nat.pow_dvd_pow_iff_le_right (by omega)] at multiple
    rw [Nat.pow_eq, Nat.pow_dvd_pow_iff_le_right (by omega)]
    omega
  · obtain ⟨rfl, rfl⟩ := Prod.mk.inj carried
    exact multiple

/-- The double nearest to an integer is whole, unless it is infinite. -/
theorem isIntegral_ofRatio_one {negative : Bool} {n : Nat} {x : Binary64}
    (nearest : ofRatio negative n 1 = x) (finite : x.isFinite = true) : x.isIntegral = true := by
  unfold ofRatio at nearest
  split at nearest
  · subst nearest
    exact isIntegral_of_dvd negative (Nat.dvd_zero _)
  · extract_lets e at nearest
    split at nearest
    next a d parts =>
    extract_lets r at nearest
    have multiple : 2 ^ (-e).toNat ∣ r := by
      by_cases fractional : e < 0
      · have exact := roundHalfEven_scale_one n fractional
        rw [parts] at exact
        exact Dvd.intro_left n exact.symm
      · rw [Int.toNat_of_nonpos (by omega)]
        exact Nat.one_dvd _
    split at nearest
    next m k carried =>
    split at nearest
    · subst nearest
      simp [isFinite] at finite
    · subst nearest
      exact isIntegral_of_dvd negative (dvd_of_carried multiple carried)

theorem isIntegral_ofRat_intCast {n : Int} (finite : (ofRat n).isFinite = true) :
    (ofRat n).isIntegral = true :=
  isIntegral_ofRatio_one rfl finite

theorem isFinite_of_isIntegral {x : Binary64} (whole : x.isIntegral = true) :
    x.isFinite = true := by
  cases x <;> simp_all [isIntegral, toRat?, isFinite]

/-- A double is whole if its exact value is an integer, which is its integer part then. -/
theorem isIntegral_and_integerPart_iff {x : Binary64} {n : Int} :
    x.isIntegral = true ∧ integerPart (x.toRat?.getD 0) = n ↔ x.toRat? = some (n : Rat) := by
  unfold isIntegral
  cases exact : x.toRat? with
  | none => simp
  | some q =>
    simp only [Option.getD_some, Option.some.injEq]
    constructor
    · rintro ⟨whole, rfl⟩
      exact eq_integerPart_of_isInt whole
    · rintro rfl
      simp [Rat.isInt]

end Binary64

namespace Value

/-- The exact value of a real number. Truth values, decimals and complex numbers are none. -/
def real? : Value → Option Rat
  | int n | machineInt _ n => some n
  | float x | machineFloat x => x.toRat?
  | machineReal _ x => x.toRat?
  | fraction q => some q
  | _ => Option.none

/-- The exact value of a number that is asked only by its nearest double whether it is whole. -/
def rounded? : Value → Option Rat
  | machineReal _ x => x.toRat?
  | fraction q => some q
  | _ => Option.none

/-- Whether a value is an integer, exactly. -/
def IsExactly (value : Value) (n : Int) : Prop := value.real? = some (n : Rat)

/-- Whether a value is a number that is not whole and loses its fractional part, since its nearest
double is whole. -/
def IsCutTo (value : Value) (n : Int) : Prop :=
  ∃ q, value.rounded? = some q ∧ q.isInt = false ∧ (Binary64.ofRat q).isIntegral = true ∧
    n = integerPart q

/-- Whether a value is a fraction whose nearest double is infinite. -/
def IsBeyondDoubles (value : Value) : Prop :=
  ∃ q, value = fraction q ∧ (Binary64.ofRat q).isFinite = false

/-- Whether a value is a machine number whose nearest double is infinite. -/
def IsOverlong (value : Value) : Prop :=
  ∃ type q digits, value = machineReal type (.finite q digits) ∧
    (Binary64.ofRat q).isFinite = false

/-- Whether a value counts as an integer. -/
def CountsAs (value : Value) (n : Int) : Prop :=
  value.IsExactly n ∧ ¬value.IsOverlong ∨ value.IsCutTo n

variable {value : Value} {n : Int} {what : String}

/-- What is not whole and has a whole double is cut to its integer part, and what is whole is its
integer part. -/
theorem isIntegral_and_integerPart_ofRat_iff {q : Rat} :
    (Binary64.ofRat q).isIntegral = true ∧ integerPart q = n ↔
      q = n ∧ (Binary64.ofRat q).isFinite = true ∨
        q.isInt = false ∧ (Binary64.ofRat q).isIntegral = true ∧ n = integerPart q := by
  constructor
  · rintro ⟨whole, rfl⟩
    cases exact : q.isInt with
    | false => exact .inr ⟨rfl, whole, rfl⟩
    | true => exact .inl ⟨eq_integerPart_of_isInt exact, Binary64.isFinite_of_isIntegral whole⟩
  · rintro (⟨rfl, finite⟩ | ⟨-, whole, rfl⟩)
    · exact ⟨Binary64.isIntegral_ofRat_intCast finite, integerPart_intCast n⟩
    · exact ⟨whole, rfl⟩

/-- Whether a fraction counts as an integer is asked of its nearest double. -/
theorem asInteger_fraction_eq_ok {q : Rat} :
    (fraction q).asInteger what = .ok n ↔
      (Binary64.ofRat q).isIntegral = true ∧ integerPart q = n := by
  cases whole : (Binary64.ofRat q).isIntegral with
  | true => simp [asInteger, whole, Binary64.isFinite_of_isIntegral whole]
  | false =>
    simp only [asInteger, whole]
    split <;> simp

/-- **Which integer a value counts as.** -/
theorem asInteger_eq_ok_iff :
    value.asInteger what = .ok n ↔ ¬value.IsBeyondDoubles ∧ value.CountsAs n := by
  cases value with
  | fraction q =>
    rw [asInteger_fraction_eq_ok, isIntegral_and_integerPart_ofRat_iff]
    cases finite : (Binary64.ofRat q).isFinite with
    | true =>
      simp [IsBeyondDoubles, CountsAs, IsExactly, IsOverlong, IsCutTo, real?, rounded?, finite]
    | false =>
      have broken : (Binary64.ofRat q).isIntegral ≠ true := fun whole =>
        absurd (Binary64.isFinite_of_isIntegral whole) (by simp [finite])
      simp [IsBeyondDoubles, finite, broken]
  | machineReal type x =>
    cases x with
    | notANumber | infinite =>
      simp [asInteger, MachineReal.toBinary64, Binary64.isIntegral, Binary64.toRat?,
        IsBeyondDoubles, CountsAs, IsExactly, IsCutTo, real?, rounded?, MachineReal.toRat?]
    | finite q digits =>
      have read : (machineReal type (.finite q digits)).asInteger what = .ok n ↔
          (Binary64.ofRat q).isIntegral = true ∧ integerPart q = n := by
        cases whole : (Binary64.ofRat q).isIntegral <;>
          simp [asInteger, MachineReal.toBinary64, MachineReal.toRat?, whole]
      rw [read, isIntegral_and_integerPart_ofRat_iff]
      simp [IsBeyondDoubles, CountsAs, IsExactly, IsOverlong, IsCutTo, real?, rounded?,
        MachineReal.toRat?]
  | float x | machineFloat x =>
    rw [CountsAs, IsExactly, real?, ← Binary64.isIntegral_and_integerPart_iff]
    cases whole : x.isIntegral <;>
      simp [asInteger, whole, IsBeyondDoubles, IsOverlong, IsCutTo, rounded?]
  | _ =>
    simp [asInteger, IsBeyondDoubles, CountsAs, IsOverlong, IsCutTo, IsExactly, real?, rounded?]

/-- **How a value is refused**: for what it is, if that can be written, or as a fraction that is too
large. -/
theorem failsOnly_asInteger {P : Fault → Prop} (large : value.IsBeyondDoubles → P .numberTooLarge)
    (other : P (Fault.raised (.notInteger what value))) : FailsOnly P (value.asInteger what) := by
  cases value with
  | fraction q =>
    simp only [asInteger]
    split
    · next infinite => exact (FailsOnly.throw_iff _).2 (large ⟨q, rfl, by simpa using infinite⟩)
    · split <;> simp [other]
  | float x | machineFloat x | machineReal type x =>
    simp only [asInteger]
    split <;> simp [other]
  | _ => simp [asInteger, other]

end Value

end IntegerProgram
