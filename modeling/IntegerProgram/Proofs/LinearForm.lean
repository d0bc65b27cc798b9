import IntegerProgram.Proofs.Verification
import IntegerProgram.Proofs.WeightedSum

/-!
# Bounds of linear forms

The bounds of a form with integer coefficients enclose its values under all valuations that keep to
the bounds of its variables. They are values themselves if each variable with a weight occurs once:
each of them can then be set to the end that its sign asks for. A valuation tells variables apart by
their indexes, so two variables with one index move together.

## Main statements

* `LinearForm.bounds_exact`: the bounds enclose the values, and are attained.
* `LinearForm.not_bounds_exact`: the bounds are not attained where variables share an index.
-/
namespace IntegerProgram

namespace LinearForm

/-- **The bounds of a form are sound and tight.** The form has a value between its bounds under
every valuation that keeps to the bounds of its variables. If different variables of the form have
different indexes, and none with a weight occurs twice, then each of the bounds is the value under a
valuation of this kind. -/
theorem bounds_exact (s : WeightedSum) (nonempty : ∀ v ∈ s.vars, v.lower ≤ v.upper) :
    ∃ low high, (whole s).bounds = .ok (low, high) ∧
      (∀ (values : Valuation) (x : Point), values.IsAt x s.vars → x.IsWithin s.vars →
        ∃ n, (whole s).evaluate values = .ok n ∧ low ≤ n ∧ n ≤ high) ∧
      ((∀ v ∈ s.vars, ∀ w ∈ s.vars, v.index = w.index → v = w) → s.nonzero.vars.Nodup →
        ∀ n, n = low ∨ n = high →
          ∃ x : Point, x.IsWithin s.vars ∧ (whole s).evaluate x.valuation = .ok n) := by
  refine ⟨s.low, s.high, rfl, ?_, ?_⟩
  · intro values x at_ within
    refine ⟨s.value x, at_.evaluate fun _ hv => hv, ?_⟩
    exact WeightedSum.value_mem_bounds within
  · intro distinct single n attained
    obtain ⟨inside, within⟩ := Point.exists_isWithin nonempty distinct
    have own : ∀ v ∈ s.nonzero.vars, v ∈ s.vars := fun _ => WeightedSum.mem_vars_of_mem_nonzero
    have bounds : s.nonzero.low = s.low ∧ s.nonzero.high = s.high :=
      Prod.mk.inj (WeightedSum.bounds_nonzero s)
    obtain ⟨y, admitted, value⟩ : ∃ y : Point, y.IsWithin s.vars ∧ s.nonzero.value y = n := by
      rcases attained with rfl | rfl
      · rw [← bounds.1]
        exact WeightedSum.exists_value_eq_low distinct within own single nonempty
      · rw [← bounds.2]
        exact WeightedSum.exists_value_eq_high distinct within own single nonempty
    refine ⟨y, admitted, ?_⟩
    rw [evaluate, WeightedSum.evaluate_valuation, ← WeightedSum.value_nonzero, value]

/-- A weight of each sign, and none on a variable that already has one. -/
theorem bounds_exact_signs :
    ∃ s : WeightedSum, s.coefficients = [2, -3, 0] ∧ (whole s).bounds = .ok (-9, 6) ∧
      ∀ n, n = -9 ∨ n = 6 →
        ∃ x : Point, x.IsWithin s.vars ∧ (whole s).evaluate x.valuation = .ok n := by
  let v : Variable := ⟨⟨0, 0⟩, 0, "x", 0, 3, none⟩
  let w : Variable := ⟨⟨0, 1⟩, 1, "y", 0, 3, none⟩
  let s : WeightedSum := ⟨[(v, 2), (w, -3), (v, 0)]⟩
  obtain ⟨low, high, bounds, -, attained⟩ := bounds_exact s (by decide)
  obtain ⟨rfl, rfl⟩ : (-9, 6) = (low, high) := Except.ok.inj bounds
  exact ⟨s, rfl, bounds, attained (by decide) (by decide)⟩

/-- Two variables with one index cancel out, though each of them has two values. -/
theorem not_bounds_exact :
    ¬ ∀ s : WeightedSum, (∀ v ∈ s.vars, v.lower ≤ v.upper) → s.nonzero.vars.Nodup →
      ∀ low high, (whole s).bounds = .ok (low, high) → ∀ n, n = low ∨ n = high →
        ∃ x : Point, x.IsWithin s.vars ∧ (whole s).evaluate x.valuation = .ok n := by
  intro attained
  let v : Variable := ⟨⟨0, 0⟩, 0, "x", 0, 1, none⟩
  let w : Variable := ⟨⟨1, 0⟩, 0, "y", 0, 1, none⟩
  obtain ⟨x, -, value⟩ :=
    attained ⟨[(v, 1), (w, -1)]⟩ (by decide) (by decide) (-1) 1 rfl 1 (.inr rfl)
  rw [evaluate, WeightedSum.evaluate_valuation] at value
  have cancels : 1 * x 0 + (-1 * x 0 + 0) = 1 := Except.ok.inj value
  omega

end LinearForm

end IntegerProgram
