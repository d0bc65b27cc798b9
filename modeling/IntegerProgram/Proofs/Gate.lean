import IntegerProgram.Proofs.Gated
import IntegerProgram.Proofs.Key

/-!
# Gates with other values than integers

A gate may be active at any value that equals zero or one, such as a truth value or a double. It
says what the gate with that integer says, and it has the same literal. So a model with such gates
may be taken for the one in which they have integers.

## Main definitions

* `Gate.plain`, `Model.plain`: a gate with an integer, a model with such gates.

## Main statements

* `Constraint.isSatisfied_plain`: a constraint with such a gate says the same of a point.
* `GatedProgram.ofModel_plain`: the model with such gates has the same gated program.
-/
namespace IntegerProgram

namespace Measure

/-- Nothing but zero is as large as zero. -/
theorem compareFinite_zero_iff {q : Rat} {e : Int} : compareFinite 0 0 q e = .eq ↔ q = 0 := by
  have sign : q.num.sign = 0 ↔ q = 0 := by rw [Int.sign_eq_zero_iff_zero, Rat.num_eq_zero]
  by_cases zero : q = 0
  · subst zero
    simp [compareFinite]
  · have other : ¬(0 : Rat).num.sign = q.num.sign := by
      intro same
      exact zero (sign.1 same.symm)
    rw [compareFinite, if_neg other]
    simp only [zero, iff_false]
    intro same
    exact other (Std.LawfulEqOrd.eq_of_compare same)

theorem compare?_zero_iff {m : Measure} :
    (finite 0).compare? m = some .eq ↔ ∃ e, m = finite 0 e := by
  cases m with
  | undefined => simp [compare?]
  | infinite s => cases s <;> simp [compare?]
  | finite q e => simp [compare?, compareFinite_zero_iff]

/-- What is as large as zero is not as large as one. -/
theorem compare?_one_ne {m : Measure} (zero : (finite 0).compare? m = some .eq) :
    (finite 1).compare? m ≠ some .eq := by
  obtain ⟨e, rfl⟩ := compare?_zero_iff.1 zero
  simp [compare?, compareFinite, compare, compareOfLessAndEq]

end Measure

/-- A double is the key zero if it is as large as zero. -/
theorem Binary64.key_eq_zero_iff (machine : Bool) (x : Binary64) :
    x.key machine = .number 0 ↔ (Measure.finite 0).compare? x.measure = some .eq := by
  rw [Measure.compare?_zero_iff]
  cases x with
  | notANumber object => simp [key, measure]
  | infinite s => simp [key, measure]
  | finite s m e => simp [key, measure, toRat?]

theorem MachineReal.key_eq_zero_iff (type : RealType) (x : MachineReal) :
    x.key type = .number 0 ↔ (Measure.finite 0).compare? x.measure = some .eq := by
  rw [Measure.compare?_zero_iff]
  cases x with
  | notANumber object => simp [key, measure]
  | infinite s => simp [key, measure]
  | finite q digits =>
    have exact : (Binary64.ofRat 0).toRat? = some 0 := by decide +kernel
    rw [key]
    split
    · simp [measure]
    · rename_i inexact
      have other : q ≠ 0 := fun zero => inexact (zero ▸ exact)
      simp [measure, other]

namespace Decimal

theorem strip_ne_zero {c : Nat} (positive : c ≠ 0) (e : Int) (fuel : Nat) :
    (strip c e fuel).1 ≠ 0 := by
  induction fuel generalizing c e with
  | zero => exact positive
  | succ fuel ih =>
    rw [strip]
    split
    · exact ih (by omega) (e + 1)
    · exact positive

theorem scaled_eq_zero_iff {s : Bool} {c : Nat} {e : Int} : scaled s c e = 0 ↔ c = 0 := by
  have power (n : Nat) : Nat.pow 10 n ≠ 0 := Nat.pos_iff_ne_zero.1 (Nat.pow_pos (Nat.succ_pos 9))
  have size : (if e < 0 then mkRat c (Nat.pow 10 (-e).toNat)
      else mkRat (c * Nat.pow 10 e.toNat) 1) = 0 ↔ c = 0 := by
    split
    · rw [Rat.mkRat_eq_zero (power _), Int.natCast_eq_zero]
    · rw [Rat.mkRat_eq_zero Nat.one_ne_zero, Int.mul_eq_zero, Int.natCast_eq_zero,
        Int.natCast_eq_zero]
      simp only [power, or_false]
  cases s
  · exact size
  · rw [scaled, if_pos rfl, ← Rat.num_eq_zero, Rat.neg_num, Int.neg_eq_zero, Rat.num_eq_zero]
    exact size

/-- A decimal is the key zero if it is as large as zero. -/
theorem key?_eq_zero_iff (d : Decimal) :
    d.key? = some (.number 0) ↔ (Measure.finite 0).compare? d.measure = some .eq := by
  rw [Measure.compare?_zero_iff]
  cases d with
  | notANumber s signaling payload object => simp [key?, measure]
  | infinite s => simp [key?, measure]
  | finite s c e =>
    simp only [measure, Measure.finite.injEq, scaled_eq_zero_iff]
    by_cases zero : c = 0
    · simp [key?, zero]
    · have digits : (stripped c e).1 ≠ 0 := strip_ne_zero zero e _
      simp only [key?, zero, if_false]
      split <;> simp [scaled_eq_zero_iff, digits]

end Decimal

namespace Value

/-- An integer equals a number that is as large, and what is no real number if it is the same key.
-/
theorem equals_int_eq {v : Value} (n : Int) (plain : v.isSignaling = false) :
    (int n).equals v = .ok (match v.measure? (int 0) with
      | some m => (Measure.finite n).compare? m = some .eq
      | Option.none => (int n).isSameKey v) := by
  have own : (int n).isSignaling = false := rfl
  cases v with
  | int m =>
    rw [equals_int]
    simp only [measure?, Measure.compare?, Measure.compareFinite_int]
    simp
  | _ => simp [equals, equalsPlain, own, plain, measure?, machineMeasure, isUndefinedComplex]

/-- A real number is the key zero if it is as large as zero. -/
theorem isSameKey_zero_iff {v : Value} {m : Measure} (real : v.measure? (int 0) = some m) :
    v.isSameKey (int 0) = true ↔ (Measure.finite 0).compare? m = some .eq := by
  have zero : v.isSameKey (int 0) = true ↔ v.key? = some (.number 0) := by
    unfold isSameKey
    cases v.key? <;> simp [key?]
  rw [zero]
  cases v with
  | decimal d =>
    obtain rfl := Option.some.inj real
    exact d.key?_eq_zero_iff
  | float x | machineFloat x =>
    obtain rfl := Option.some.inj real
    simpa only [key?, Option.some.injEq] using x.key_eq_zero_iff _
  | machineReal type x =>
    obtain rfl := Option.some.inj real
    simpa only [key?, Option.some.injEq] using x.key_eq_zero_iff type
  | bool b | machineBool b | int n | machineInt w n | fraction q =>
    obtain rfl := Option.some.inj real
    simp [key?, machineMeasure, Measure.compare?_zero_iff]
  | _ => simp [measure?] at real

/-- What is no real number is not the key zero and the key one. -/
theorem isSameKey_one_of_zero {v : Value} (zero : (int 0).isSameKey v = true) :
    (int 1).isSameKey v = false := by
  unfold isSameKey at zero ⊢
  cases key : v.key? with
  | none => simp [key] at zero
  | some k =>
    obtain rfl : Key.number 0 = k := by simpa [key, key?] using zero
    simp [key?]

end Value

/-- A value at which a gate can be active equals zero and not one, or one and not zero. -/
theorem Model.equals_of_isSwitch {v : Value} (switch : isSwitch v = .ok true) :
    (Value.int 0).equals v = .ok (v.isSameKey (.int 0)) ∧
      (Value.int 1).equals v = .ok !v.isSameKey (.int 0) := by
  have plain : v.isSignaling = false := by
    cases v with
    | decimal d =>
      cases signaling : d.isSignaling with
      | false => exact signaling
      | true =>
        -- comparing such a decimal fails, so no gate is active at it
        simp [isSwitch, Value.equals, Value.equalsPlain, Value.isSignaling, signaling,
          Value.isNumber] at switch
    | _ => rfl
  have zero : (Value.int 0).equals v = .ok (v.isSameKey (.int 0)) := by
    rw [Value.equals_int_eq 0 plain]
    cases real : v.measure? (.int 0) with
    | none => simp [Value.isSameKey_comm]
    | some m => simp only [Rat.intCast_zero, ← Value.isSameKey_zero_iff real, Bool.decide_eq_true]
  refine ⟨zero, ?_⟩
  cases same : v.isSameKey (.int 0) with
  | false =>
    rw [same] at zero
    simpa [isSwitch, zero] using switch
  | true =>
    rw [Value.equals_int_eq 1 plain]
    cases real : v.measure? (.int 0) with
    | none =>
      rw [Value.isSameKey_comm] at same
      simp [Value.isSameKey_one_of_zero same]
    | some m => simp [Measure.compare?_one_ne ((Value.isSameKey_zero_iff real).1 same)]

/-- The gate with the integer that its value equals, if it can be active at all. -/
def Gate.plain (g : Gate) : Gate :=
  { g with activeWhen := .int (if g.activeWhen.isSameKey (.int 0) then 0 else 1) }

/-- The constraint with an integer for the value of its gate. -/
def Constraint.plain (c : Constraint) : Constraint := { c with gate := c.gate.map Gate.plain }

/-- The model with integers for the values of all gates. -/
def Model.plain (m : Model) : Model := { m with constraints := m.constraints.map Constraint.plain }

/-- The gate with an integer has the same literal. -/
theorem Gate.literal_plain (g : Gate) : g.plain.literal = g.literal := by
  have number (n : Int) : (Value.int n).isSameKey (.int 0) = decide (n = 0) := by
    simp [Value.isSameKey, Value.key?]
  simp only [literal, plain, number]
  cases g.activeWhen.isSameKey (.int 0) <;> rfl

/-- The gate with an integer is active where the gate is. -/
theorem Gate.isActive_plain {g : Gate} (switch : Model.isSwitch g.activeWhen = .ok true)
    {x : Point} (bit : x g.indicator.index = 0 ∨ x g.indicator.index = 1) :
    g.plain.isActive x.valuation = g.isActive x.valuation := by
  obtain ⟨zero, one⟩ := Model.equals_of_isSwitch switch
  cases same : g.activeWhen.isSameKey (.int 0) <;>
    rcases bit with off | on <;>
    simp_all [isActive, plain, Value.equals_int]

/-- A constraint says the same of a point with an integer for the value of its gate. -/
theorem Constraint.isSatisfied_plain {c : Constraint} {x : Point}
    (switch : ∀ g, c.gate = some g → Model.isSwitch g.activeWhen = .ok true)
    (bit : ∀ g, c.gate = some g → x g.indicator.index = 0 ∨ x g.indicator.index = 1) :
    c.plain.isSatisfied x.valuation = c.isSatisfied x.valuation := by
  cases gated : c.gate with
  | none => simp [isSatisfied, plain, gated]
  | some g =>
    have active := Gate.isActive_plain (switch g gated) (bit g gated)
    simp [isSatisfied, plain, gated, active]

namespace GatedProgram

theorem Rule.ofConstraint?_plain (c : Constraint) : ofConstraint? c.plain = ofConstraint? c := by
  have literals : c.plain.gate.map Gate.literal = c.gate.map Gate.literal := by
    cases gated : c.gate <;> simp [Constraint.plain, gated, Gate.literal_plain]
  rw [ofConstraint?, ofConstraint?, literals]
  rfl

/-- The model with integers for the values of all gates has the same program. -/
theorem ofModel_plain (m : Model) : ofModel m.plain = ofModel m := by
  have rules : m.plain.constraints.mapM Rule.ofConstraint? =
      m.constraints.mapM Rule.ofConstraint? := by
    rw [Model.plain, List.mapM_map]
    exact mapM_congr fun c _ => Rule.ofConstraint?_plain c
  rw [ofModel, ofModel, rules]
  rfl

end GatedProgram

end IntegerProgram
