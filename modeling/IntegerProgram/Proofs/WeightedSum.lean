import IntegerProgram.Proofs.Attempt
import IntegerProgram.WeightedSum.Parallel
import Mathlib.Logic.Function.Basic

/-!
# Weighted sums at points

The value of a sum depends on the values of its variables only, and lies within the bounds of the
sum wherever these lie within theirs. The bounds are values if no variable repeats. A sum that is
made from parallel lists has what they list.

## Main statements

* `WeightedSum.low_le_value`, `WeightedSum.value_le_high`: the bounds enclose the value.
* `WeightedSum.exists_value_eq_low`, `WeightedSum.exists_value_eq_high`: the bounds are attained.
* `WeightedSum.bounds_nonzero`, `WeightedSum.value_nonzero`: terms without weight do not count.
* `WeightedSum.ofParallel_eq_ok`: the sum of two lists.
-/
namespace IntegerProgram

/-- Which operation asks for an integer matters only for the fault. -/
theorem Value.asInteger_eq_ok {value : Value} {n : Int} (what what' : String) :
    value.asInteger what = .ok n ↔ value.asInteger what' = .ok n := by
  cases value <;> simp only [asInteger]
  all_goals (repeat' split) <;> simp

namespace WeightedSum

variable {s : WeightedSum} {x y : Point}

@[simp] theorem vars_mk (terms : List (Variable × Int)) :
    (⟨terms⟩ : WeightedSum).vars = terms.map (·.1) := rfl

/-- The value of a sum is that of its variables. -/
theorem value_congr (same : ∀ v ∈ s.vars, x v.index = y v.index) : s.value x = s.value y := by
  obtain ⟨terms⟩ := s
  induction terms with
  | nil => rfl
  | cons t rest ih =>
    simp only [vars_mk, List.map_cons, List.forall_mem_cons] at same ih
    rw [value_cons, value_cons, same.1, ih same.2]

/-- A product lies between the products with the bounds of the other factor. -/
theorem mul_mem_termBounds {t : Variable × Int} {n : Int} (least : t.1.lower ≤ n)
    (greatest : n ≤ t.1.upper) : (termBounds t).1 ≤ t.2 * n ∧ t.2 * n ≤ (termBounds t).2 := by
  simp only [termBounds]
  rcases Int.le_total 0 t.2 with positive | negative
  · have low := Int.mul_le_mul_of_nonneg_left least positive
    have high := Int.mul_le_mul_of_nonneg_left greatest positive
    omega
  · have low := Int.mul_le_mul_of_nonpos_left negative least
    have high := Int.mul_le_mul_of_nonpos_left negative greatest
    omega

/-- The bounds of a sum enclose its value wherever its variables lie within their bounds. -/
theorem value_mem_bounds (within : ∀ v ∈ s.vars, v.admits (x v.index) = true) :
    s.low ≤ s.value x ∧ s.value x ≤ s.high := by
  obtain ⟨terms⟩ := s
  induction terms with
  | nil => simp [low, high]
  | cons t rest ih =>
    simp only [vars_mk, List.map_cons, List.forall_mem_cons] at within ih
    obtain ⟨first, others⟩ := within
    simp only [Variable.admits, Bool.and_eq_true, decide_eq_true_eq] at first
    have term := mul_mem_termBounds (t := t) first.1 first.2
    have tail := ih others
    simp only [low, high, List.foldr_cons, value_cons] at tail ⊢
    omega

/-- **The least value of a sum is none of its values exceeds downwards.** -/
theorem low_le_value (within : ∀ v ∈ s.vars, v.admits (x v.index) = true) : s.low ≤ s.value x :=
  (value_mem_bounds within).1

/-- **The greatest value of a sum is none of its values exceeds upwards.** -/
theorem value_le_high (within : ∀ v ∈ s.vars, v.admits (x v.index) = true) : s.value x ≤ s.high :=
  (value_mem_bounds within).2

section Attained

variable {vs : List Variable} (distinct : ∀ v ∈ vs, ∀ w ∈ vs, v.index = w.index → v = w)
  (inside : ∀ v ∈ vs, v.admits (x v.index) = true) (own : ∀ v ∈ s.vars, v ∈ vs)
  (single : s.vars.Nodup)

include distinct inside own single

/-- A sum in which no variable repeats has every value that its terms can have one by one. -/
theorem exists_value_eq {bound : Variable × Int → Int}
    (attained : ∀ t ∈ s.terms, ∃ n, t.1.admits n = true ∧ t.2 * n = bound t) :
    ∃ y : Point, (∀ v ∈ vs, v.admits (y v.index) = true) ∧
      s.value y = s.terms.foldr (fun t rest => bound t + rest) 0 := by
  obtain ⟨terms⟩ := s
  induction terms with
  | nil => exact ⟨x, inside, rfl⟩
  | cons t rest ih =>
    simp only [vars_mk, List.map_cons, List.forall_mem_cons, List.nodup_cons] at own single attained
    obtain ⟨y, within, value⟩ := ih own.2 single.2 attained.2
    obtain ⟨n, admitted, first⟩ := attained.1
    -- setting the first variable leaves the values of the others as they are
    have others : ∀ v ∈ (⟨rest⟩ : WeightedSum).vars,
        Function.update y t.1.index n v.index = y v.index := by
      intro v hv
      apply Function.update_of_ne
      intro same
      exact single.1 (distinct v (own.2 v hv) t.1 own.1 same ▸ hv)
    refine ⟨Function.update y t.1.index n, ?_, ?_⟩
    · intro v hv
      by_cases same : v.index = t.1.index
      · obtain rfl := distinct v hv t.1 own.1 same
        rwa [Function.update_self]
      · rw [Function.update_of_ne same]
        exact within v hv
    · rw [value_cons, Function.update_self, first, value_congr others, value, List.foldr_cons]

variable (nonempty : ∀ v ∈ vs, v.lower ≤ v.upper)

include nonempty

/-- **The least value of a sum is attained** if no variable repeats. -/
theorem exists_value_eq_low :
    ∃ y : Point, (∀ v ∈ vs, v.admits (y v.index) = true) ∧ s.value y = s.low := by
  apply exists_value_eq distinct inside own single
  intro t ht
  have ordered := nonempty t.1 (own t.1 (List.mem_map_of_mem ht))
  rcases Int.le_total (t.2 * t.1.lower) (t.2 * t.1.upper) with least | least
  · exact ⟨t.1.lower, by simpa [Variable.admits] using ordered, (Int.min_eq_left least).symm⟩
  · exact ⟨t.1.upper, by simpa [Variable.admits] using ordered, (Int.min_eq_right least).symm⟩

/-- **The greatest value of a sum is attained** if no variable repeats. -/
theorem exists_value_eq_high :
    ∃ y : Point, (∀ v ∈ vs, v.admits (y v.index) = true) ∧ s.value y = s.high := by
  apply exists_value_eq distinct inside own single
  intro t ht
  have ordered := nonempty t.1 (own t.1 (List.mem_map_of_mem ht))
  rcases Int.le_total (t.2 * t.1.lower) (t.2 * t.1.upper) with greatest | greatest
  · exact ⟨t.1.upper, by simpa [Variable.admits] using ordered, (Int.max_eq_right greatest).symm⟩
  · exact ⟨t.1.lower, by simpa [Variable.admits] using ordered, (Int.max_eq_left greatest).symm⟩

end Attained

section Nonzero

/-- The terms of a sum that have a weight. -/
def nonzero (s : WeightedSum) : WeightedSum := ⟨s.terms.filter (·.2 ≠ 0)⟩

variable {t : Variable × Int} {rest : List (Variable × Int)}

theorem nonzero_cons_of_zero (zero : t.2 = 0) : nonzero ⟨t :: rest⟩ = nonzero ⟨rest⟩ := by
  simp [nonzero, zero]

theorem nonzero_cons_of_ne (weighs : t.2 ≠ 0) :
    nonzero ⟨t :: rest⟩ = ⟨t :: (nonzero ⟨rest⟩).terms⟩ := by
  simp [nonzero, weighs]

theorem mem_vars_of_mem_nonzero {v : Variable} (hv : v ∈ s.nonzero.vars) : v ∈ s.vars := by
  obtain ⟨t, ht, rfl⟩ := List.mem_map.1 hv
  exact List.mem_map_of_mem (List.mem_of_mem_filter ht)

/-- Terms without weight add nothing to the value. -/
@[simp] theorem value_nonzero (s : WeightedSum) (x : Point) : s.nonzero.value x = s.value x := by
  obtain ⟨terms⟩ := s
  induction terms with
  | nil => rfl
  | cons t rest ih =>
    by_cases zero : t.2 = 0
    · rw [nonzero_cons_of_zero zero, ih, value_cons, zero, Int.zero_mul, Int.zero_add]
    · rw [nonzero_cons_of_ne zero, value_cons, value_cons, ih]

/-- Terms without weight add nothing to the bounds. -/
@[simp] theorem bounds_nonzero (s : WeightedSum) : s.nonzero.bounds = s.bounds := by
  obtain ⟨terms⟩ := s
  induction terms with
  | nil => rfl
  | cons t rest ih =>
    simp only [bounds, low, high, Prod.mk.injEq] at ih ⊢
    by_cases zero : t.2 = 0
    · have none : termBounds t = (0, 0) := by simp [termBounds, zero]
      simp [nonzero_cons_of_zero zero, ih, none]
    · simp [nonzero_cons_of_ne zero, ih]

end Nonzero

theorem term_eq_ok {context : Value} {v : Variable} {c : Value} {t : Variable × Int} :
    term context v c = .ok t ↔
      context.obstacle? = none ∧ t.1 = v ∧ c.asInteger "" = .ok t.2 := by
  obtain ⟨w, n⟩ := t
  rw [term, check_bind_eq_ok, Value.requireText_eq_ok]
  simp only [bind_eq_ok, pure_eq_ok, Except.ok.injEq, Prod.mk.injEq]
  constructor
  · rintro ⟨writable, k, integer, rfl, rfl⟩
    exact ⟨writable, rfl, (Value.asInteger_eq_ok _ _).1 integer⟩
  · rintro ⟨writable, rfl, integer⟩
    exact ⟨writable, n, (Value.asInteger_eq_ok _ _).1 integer, rfl, rfl⟩

theorem mapM_term_eq_ok {context : Value} {vs : List Variable} {cs : List Value}
    {terms : List (Variable × Int)} (same : vs.length = cs.length) :
    ((vs.zip cs).mapM fun t => term context t.1 t.2) = .ok terms ↔
      (cs ≠ [] → context.obstacle? = none) ∧ vs = terms.map (·.1) ∧
        List.Forall₂ (fun c n => c.asInteger "" = .ok n) cs (terms.map (·.2)) := by
  induction vs generalizing cs terms with
  | nil =>
    obtain rfl : cs = [] := List.length_eq_zero_iff.1 same.symm
    cases terms <;> simp
  | cons v vs ih =>
    obtain ⟨c, cs, rfl⟩ := List.exists_cons_of_length_eq_add_one same.symm
    rw [List.zip_cons_cons, List.mapM_cons]
    simp only [bind_eq_ok, pure_eq_ok, Except.ok.injEq, term_eq_ok, ih (Nat.succ.inj same)]
    constructor
    · rintro ⟨t, ⟨writable, rfl, first⟩, rest, ⟨-, rfl, others⟩, rfl⟩
      exact ⟨fun _ => writable, rfl, .cons first others⟩
    · rintro ⟨writable, own, integers⟩
      have writable := writable (List.cons_ne_nil c cs)
      cases terms with
      | nil => simp at own
      | cons t rest =>
        obtain ⟨rfl, rfl⟩ : v = t.1 ∧ vs = rest.map (·.1) := by simpa using own
        obtain ⟨first, others⟩ := List.forall₂_cons.1 integers
        exact ⟨t, ⟨writable, rfl, first⟩, rest, ⟨fun _ => writable, rfl, others⟩, rfl⟩

/-- **A sum of parallel lists has the variables of the one and the integers of the other.** A term
can be made only where the context can be written. -/
theorem ofParallel_eq_ok {vs : List Variable} {cs : List Value} {context : Value} :
    ofParallel vs cs context = .ok s ↔ (cs ≠ [] → context.obstacle? = none) ∧
      vs = s.vars ∧ List.Forall₂ (fun c n => c.asInteger "" = .ok n) cs s.coefficients := by
  obtain ⟨terms⟩ := s
  by_cases same : vs.length = cs.length
  · simp [ofParallel, same, bind_eq_ok, mapM_term_eq_ok same, coefficients, vars]
  · simp only [ofParallel, ne_eq, same, not_false_eq_true, if_true, throw_eq_error, error_bind,
      reduceCtorEq, false_iff]
    rintro ⟨-, rfl, integers⟩
    apply same
    rw [integers.length_eq]
    simp [vars, coefficients]

end WeightedSum

end IntegerProgram
