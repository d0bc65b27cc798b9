import IntegerProgram.Program.Rows.Point
import IntegerProgram.Proofs.Model

/-!
# Rows say what constraints say

Where constants are kept as they are, the rows of constraints have a point with choices of side just
if the constraints hold there. A relaxed row is void where its relaxation is not zero, since the
multiple of the relaxation is the most by which the sum can overshoot; and a choice of side stands
for one half of a disequality.

## Main definitions

* `RowProgram.Extends`: a program with more rows, and what these say.
* `RowProgram.IsFeasible`: a program that some choice of sides satisfies at a point.

## Main statements

* `RowProgram.relaxed_extends`: what a relaxed row says.
* `RowProgram.add_isFeasible_iff`: what the rows of a constraint say.
* `RowProgram.ofConstraints_isFeasible_iff`: what those of a list of constraints say.
-/
namespace IntegerProgram

@[simp] theorem valueTerms_append (a b : List (Column × Int)) :
    valueTerms (a ++ b) = valueTerms a ++ valueTerms b := by
  simp [valueTerms]

namespace RowProgram

/-- Terms over the variables of a model and its first sides. -/
def IsScoped {α : Type} (n : Nat) (terms : List (Column × α)) : Prop :=
  ∀ t ∈ terms, ∀ k, t.1 = .side k → k < n

/-- A choice of every side. -/
def IsChoice (side : Nat → Int) : Prop := ∀ k, side k = 0 ∨ side k = 1

/-- The program with more rows. -/
def append (p : RowProgram) (rows : List Row) : RowProgram := { p with rows := p.rows ++ rows }

/-- A program that has more rows than another: those say something of the choice of sides at a
point, and only of the first sides. -/
def Extends (n : Nat) (x : Point) (p : RowProgram) (φ : (Nat → Int) → Prop) (q : RowProgram) :
    Prop :=
  ∃ rows, q = p.append rows ∧ (∀ r ∈ rows, IsScoped n r.terms) ∧
    ∀ side, IsChoice side → ((∀ r ∈ rows, r.Holds (Column.value x side)) ↔ φ side)

/-- A relaxation over the variables of a model and its first sides, which is never negative. -/
structure IsRelaxation (n : Nat) (x : Point) (r : AffineForm) : Prop where
  inScope : IsScoped n r.terms
  nonneg : ∀ side, IsChoice side → 0 ≤ r.value (Column.value x side)

/-- The value of a relaxation, which is zero if there is none. -/
def slack (relax : Option AffineForm) (y : Column → Int) : Int := relax.elim 0 (·.value y)

variable {n : Nat} {x : Point} {p q : RowProgram} {φ ψ : (Nat → Int) → Prop}

section Scope

variable {a b : List (Column × Int)} {k : Int}

theorem IsScoped.valueTerms (H : IsScoped n a) : IsScoped n (valueTerms a) := by
  intro t ht
  obtain ⟨u, hu, rfl⟩ := List.mem_map.1 ht
  exact H u hu

theorem IsScoped.scaleTerms (H : IsScoped n a) : IsScoped n (scaleTerms k a) := by
  intro t ht
  obtain ⟨u, hu, rfl⟩ := List.mem_map.1 ht
  exact H u hu

theorem IsScoped.append (H : IsScoped n a) (K : IsScoped n b) : IsScoped n (a ++ b) := by
  intro t ht
  rcases List.mem_append.1 ht with first | second
  · exact H t first
  · exact K t second

/-- The columns of a sum are variables of the model. -/
theorem isScoped_columns (s : WeightedSum) : IsScoped n s.columns := by
  intro t ht k side
  simp only [WeightedSum.columns, List.mem_map] at ht
  obtain ⟨u, -, rfl⟩ := ht
  simp at side

/-- A row says the same of values that agree on its columns. -/
theorem Row.holds_congr {r : Row} {y z : Column → Int} (same : ∀ t ∈ r.terms, y t.1 = z t.1) :
    r.Holds y ↔ r.Holds z := by
  have sum : columnsValue r.wholeTerms y = columnsValue r.wholeTerms z := by
    obtain ⟨terms, rel, rhs⟩ := r
    simp only [Row.wholeTerms] at same ⊢
    induction terms with
    | nil => rfl
    | cons t rest ih =>
      rw [List.forall_mem_cons] at same
      rw [List.map_cons, columnsValue_cons, columnsValue_cons, same.1, ih same.2]
  rw [Row.Holds, Row.Holds, sum]

/-- A row over the first sides says the same of choices that agree on these. -/
theorem Row.holds_of_agree {r : Row} (H : IsScoped n r.terms) {side other : Nat → Int}
    (same : ∀ k < n, side k = other k) :
    r.Holds (Column.value x side) ↔ r.Holds (Column.value x other) := by
  apply holds_congr
  intro t ht
  cases column : t.1 with
  | structural i => rfl
  | side k => exact same k (H t ht k column)

end Scope

namespace Extends

theorem refl (p : RowProgram) (always : ∀ side, IsChoice side → φ side) : Extends n x p φ p := by
  refine ⟨[], by simp [append], by simp, ?_⟩
  intro side choice
  simp [always side choice]

theorem congr (H : Extends n x p φ q) (same : ∀ side, IsChoice side → (φ side ↔ ψ side)) :
    Extends n x p ψ q := by
  obtain ⟨rows, whole, inScope, holds⟩ := H
  exact ⟨rows, whole, inScope, fun side choice => (holds side choice).trans (same side choice)⟩

theorem trans {p₁ : RowProgram} (H : Extends n x p φ p₁) (K : Extends n x p₁ ψ q) :
    Extends n x p (fun side => φ side ∧ ψ side) q := by
  obtain ⟨rows, rfl, inScope, holds⟩ := H
  obtain ⟨more, rfl, inScope', holds'⟩ := K
  refine ⟨rows ++ more, by simp [append], List.forall_mem_append.2 ⟨inScope, inScope'⟩, ?_⟩
  intro side choice
  rw [List.forall_mem_append, holds side choice, holds' side choice]

/-- One more row. -/
theorem push {terms : List (Column × Int)} (rel : Relation) (rhs : Int)
    (inScope : IsScoped n terms) :
    Extends n x p (fun side => (⟨valueTerms terms, rel, rhs⟩ : Row).Holds (Column.value x side))
      (p.push ⟨valueTerms terms, rel, rhs⟩) := by
  refine ⟨[⟨valueTerms terms, rel, rhs⟩], rfl, ?_, ?_⟩
  · rw [List.forall_mem_singleton]
    exact inScope.valueTerms
  · intro side choice
    rw [List.forall_mem_singleton]

end Extends

/-- A sum that can overshoot by no more than `bound` is relaxed by a positive multiple of what is
zero or at least one. -/
theorem relaxed_le_iff {sum rhs bound r : Int} (positive : 0 < bound) (nonneg : 0 ≤ r)
    (enclosed : sum ≤ rhs + bound) : sum ≤ rhs + bound * r ↔ (r = 0 → sum ≤ rhs) := by
  by_cases zero : r = 0
  · simp [zero]
  · have multiple : bound * 1 ≤ bound * r := Int.mul_le_mul_of_nonneg_left (by omega) (by omega)
    constructor
    · exact fun _ off => absurd off zero
    · intro _
      omega

/-- **A relaxed row binds where its relaxation is zero.** -/
theorem relaxed_extends {f : LinearForm} {k rhs bound : Int} {terms : List (Column × Int)}
    {r : AffineForm} (inScope : IsScoped n terms) (R : IsRelaxation n x r)
    (enclosed : ∀ side, columnsValue terms (Column.value x side) ≤ rhs + bound)
    (ran : relaxed pure p f k (valueTerms terms) rhs bound r = .ok q) :
    Extends n x p (fun side => r.value (Column.value x side) = 0 →
      columnsValue terms (Column.value x side) ≤ rhs) q := by
  rw [relaxed] at ran
  split at ran
  · next void =>
    obtain rfl : p = q := by simpa using ran
    apply Extends.refl
    intro side choice open_
    have := enclosed side
    omega
  · next positive =>
    split at ran
    · simp [check_bind_eq_ok] at ran
    · simp only [pure_eq_ok, ok_bind, Except.ok.injEq, ← valueTerms_append] at ran
      subst ran
      apply (Extends.push .le _ (inScope.append (R.inScope.scaleTerms (k := -bound)))).congr
      intro side choice
      rw [← relaxed_le_iff (by omega) (R.nonneg side choice) (enclosed side)]
      simp only [Row.Holds, wholeTerms_valueTerms, columnsValue_append, columnsValue_scaleTerms,
        AffineForm.value, Int.mul_add, Int.neg_mul]
      omega

theorem columnsOf_whole {s : WeightedSum} {terms : List (Column × Value)}
    (made : columnsOf (.whole s) = .ok terms) : terms = valueTerms s.columns := by
  simp only [columnsOf, bind_eq_ok, pure_eq_ok, Except.ok.injEq] at made
  obtain ⟨-, -, rfl⟩ := made
  rfl

section Bounded

variable {s : WeightedSum} {k : Int} {relax : Option AffineForm}
  (inside : ∀ v ∈ s.vars, v.admits (x v.index) = true)
  (R : ∀ r, relax = some r → IsRelaxation n x r)

include inside R

/-- **What the row of an upper bound says.** -/
theorem atMost_extends (ran : atMost pure p (.whole s) k relax = .ok q) :
    Extends n x p (fun side => slack relax (Column.value x side) = 0 → s.value x ≤ k) q := by
  simp only [atMost, bind_eq_ok] at ran
  obtain ⟨terms, made, ran⟩ := ran
  obtain rfl := columnsOf_whole made
  cases relax with
  | none =>
    obtain rfl : p.push ⟨valueTerms s.columns, .le, k⟩ = q := by simpa using ran
    apply (Extends.push .le k (isScoped_columns s)).congr
    intro side choice
    simp [Row.Holds, wholeTerms_valueTerms, columnsValue_columns, slack]
  | some r =>
    simp only [LinearForm.bounds, pure_eq_ok, ok_bind, WeightedSum.bounds] at ran
    have high := WeightedSum.value_le_high inside
    apply (relaxed_extends (isScoped_columns s) (R r rfl) ?_ ran).congr
    · intro side choice
      rw [columnsValue_columns]
      rfl
    · intro side
      rw [columnsValue_columns]
      omega

/-- **What the row of a lower bound says.** -/
theorem atLeast_extends (ran : atLeast pure p (.whole s) k relax = .ok q) :
    Extends n x p (fun side => slack relax (Column.value x side) = 0 → k ≤ s.value x) q := by
  simp only [atLeast, bind_eq_ok] at ran
  obtain ⟨terms, made, ran⟩ := ran
  obtain rfl := columnsOf_whole made
  cases relax with
  | none =>
    obtain rfl : p.push ⟨valueTerms s.columns, .ge, k⟩ = q := by simpa using ran
    apply (Extends.push .ge k (isScoped_columns s)).congr
    intro side choice
    simp [Row.Holds, wholeTerms_valueTerms, columnsValue_columns, slack]
  | some r =>
    simp only [negateColumns_valueTerms, LinearForm.bounds, pure_eq_ok, ok_bind,
      WeightedSum.bounds] at ran
    have low := WeightedSum.low_le_value inside
    apply (relaxed_extends (isScoped_columns s).scaleTerms (R r rfl) ?_ ran).congr
    · intro side choice
      rw [columnsValue_scaleTerms, columnsValue_columns]
      refine imp_congr_right fun _ => ?_
      omega
    · intro side
      rw [columnsValue_scaleTerms, columnsValue_columns]
      omega

/-- **What the rows of an equation say.** -/
theorem equal_extends (ran : equal pure p (.whole s) k relax = .ok q) :
    Extends n x p (fun side => slack relax (Column.value x side) = 0 → s.value x = k) q := by
  cases relax with
  | none =>
    simp only [equal, bind_eq_ok] at ran
    obtain ⟨terms, made, ran⟩ := ran
    obtain rfl := columnsOf_whole made
    obtain rfl : p.push ⟨valueTerms s.columns, .eq, k⟩ = q := by simpa using ran
    apply (Extends.push .eq k (isScoped_columns s)).congr
    intro side choice
    simp [Row.Holds, wholeTerms_valueTerms, columnsValue_columns, slack]
  | some r =>
    simp only [equal, bind_eq_ok] at ran
    obtain ⟨middle, below, above⟩ := ran
    apply ((atMost_extends inside R below).trans (atLeast_extends inside R above)).congr
    intro side choice
    rw [← imp_and]
    refine imp_congr_right fun _ => ?_
    omega

end Bounded

section Relaxation

variable {r t : AffineForm} {side : Nat → Int}

theorem IsRelaxation.mono {m : Nat} (R : IsRelaxation n x r) (more : n ≤ m) :
    IsRelaxation m x r :=
  ⟨fun u hu k column => Nat.lt_of_lt_of_le (R.inScope u hu k column) more, R.nonneg⟩

theorem IsRelaxation.add (R : IsRelaxation n x r) (T : IsRelaxation n x t) :
    IsRelaxation n x (r.add t) := by
  refine ⟨R.inScope.append T.inScope, ?_⟩
  intro side choice
  have first := R.nonneg side choice
  have second := T.nonneg side choice
  rw [AffineForm.value_add]
  omega

theorem isRelaxation_side {d : Nat} (first : d < n) :
    IsRelaxation n x (.ofColumn (.side d)) := by
  refine ⟨by simpa [IsScoped, AffineForm.ofColumn] using first, ?_⟩
  intro side choice
  rw [AffineForm.value_ofColumn]
  have : Column.value x side (.side d) = side d := rfl
  have := choice d
  omega

theorem isRelaxation_complement_side {d : Nat} (first : d < n) :
    IsRelaxation n x (.complement (.side d)) := by
  refine ⟨by simpa [IsScoped, AffineForm.complement] using first, ?_⟩
  intro side choice
  rw [AffineForm.value_complement]
  have : Column.value x side (.side d) = side d := rfl
  have := choice d
  omega

/-- A relaxation by a form besides the one that is there. -/
def relaxedBy (relax : Option AffineForm) (t : AffineForm) : AffineForm :=
  relax.elim t fun r => r.add t

theorem IsRelaxation.relaxedBy {relax : Option AffineForm}
    (R : ∀ r, relax = some r → IsRelaxation n x r) (T : IsRelaxation n x t) :
    IsRelaxation n x (relaxedBy relax t) := by
  cases relax with
  | none => exact T
  | some r => exact (R r rfl).add T

theorem slack_relaxedBy (relax : Option AffineForm) (t : AffineForm) (y : Column → Int) :
    slack (some (relaxedBy relax t)) y = slack relax y + t.value y := by
  cases relax <;> simp [slack, relaxedBy]

theorem slack_nonneg {relax : Option AffineForm} (R : ∀ r, relax = some r → IsRelaxation n x r)
    (choice : IsChoice side) : 0 ≤ slack relax (Column.value x side) := by
  cases relax with
  | none => exact Int.le_refl 0
  | some r => exact (R r rfl).nonneg side choice

end Relaxation

/-- **What the rows of a disequality say.** A new side chooses which half is meant. -/
theorem different_extends {s : WeightedSum} {k : Int} {relax : Option AffineForm}
    (inside : ∀ v ∈ s.vars, v.admits (x v.index) = true)
    (R : ∀ r, relax = some r → IsRelaxation p.sides x r)
    (ran : different pure p (.whole s) k relax = .ok q) :
    (q = p ∧ s.value x ≠ k) ∨
      Extends (p.sides + 1) x { p with sides := p.sides + 1 } (fun side =>
        (slack relax (Column.value x side) + side p.sides = 0 → s.value x ≤ k - 1) ∧
          (slack relax (Column.value x side) + (1 - side p.sides) = 0 → k + 1 ≤ s.value x)) q := by
  simp only [different, LinearForm.bounds, WeightedSum.bounds, pure_eq_ok, ok_bind] at ran
  split at ran
  · right
    have R' : ∀ r, relax = some r → IsRelaxation (p.sides + 1) x r :=
      fun r given => (R r given).mono (Nat.le_succ _)
    obtain ⟨middle, below, above⟩ := bind_eq_ok.1 ran
    have lower : ∀ r, some (relaxedBy relax (.ofColumn (.side p.sides))) = some r →
        IsRelaxation (p.sides + 1) x r := by
      rintro r ⟨⟩
      exact IsRelaxation.relaxedBy R' (isRelaxation_side (Nat.lt_succ_self _))
    have upper : ∀ r, some (relaxedBy relax (.complement (.side p.sides))) = some r →
        IsRelaxation (p.sides + 1) x r := by
      rintro r ⟨⟩
      exact IsRelaxation.relaxedBy R' (isRelaxation_complement_side (Nat.lt_succ_self _))
    apply ((atMost_extends inside lower below).trans (atLeast_extends inside upper above)).congr
    intro side choice
    simp only [slack_relaxedBy, AffineForm.value_ofColumn, AffineForm.value_complement]
    rfl
  · next beyond =>
    left
    obtain rfl : p = q := by simpa using ran
    have low := WeightedSum.low_le_value inside
    have high := WeightedSum.value_le_high inside
    exact ⟨rfl, by omega⟩

section Gates

variable {g : Gate} {vs : List Variable}

/-- The relaxation of a gate at a point: zero where the gate is open, and one elsewhere. -/
theorem relaxation_value (G : g.IsOver vs)
    (switch : x g.indicator.index = 0 ∨ x g.indicator.index = 1) (side : Nat → Int) :
    (relaxation g).value (Column.value x side) = if g.IsOpen x then 0 else 1 := by
  have own : Column.value x side (.structural g.indicator.index) = x g.indicator.index := rfl
  rcases G.switch with zero | one
  · have other : g.activeWhen.isSameKey (.int 1) = false := by
      rw [zero]
      simp [Value.isSameKey, Value.key?]
    rcases switch with off | on
    · simp [relaxation, other, own, Gate.isOpen_iff x zero, off]
    · simp [relaxation, other, own, Gate.isOpen_iff x zero, on]
  · have same : g.activeWhen.isSameKey (.int 1) = true := by
      rw [one]
      simp [Value.isSameKey, Value.key?]
    rcases switch with off | on
    · simp [relaxation, same, own, Gate.isOpen_iff x one, off]
    · simp [relaxation, same, own, Gate.isOpen_iff x one, on]

theorem isRelaxation_relaxation (G : g.IsOver vs)
    (switch : x g.indicator.index = 0 ∨ x g.indicator.index = 1) :
    IsRelaxation n x (relaxation g) := by
  constructor
  · intro t ht k side
    simp only [relaxation, AffineForm.ofColumn, AffineForm.complement] at ht
    split at ht <;> simp_all
  · intro side choice
    rw [relaxation_value G switch]
    split <;> omega

end Gates

/-- Some choice of sides satisfies the program at a point. -/
def IsFeasible (p : RowProgram) (x : Point) : Prop := ∃ side, p.Admits (Column.value x side)

/-- Rows mention no sides but those of the program. -/
def InScope (p : RowProgram) : Prop := ∀ r ∈ p.rows, IsScoped p.sides r.terms

theorem InScope.isFeasible_iff (S : p.InScope) :
    p.IsFeasible x ↔ p.impossible = false ∧
      ∃ side, IsChoice side ∧ ∀ r ∈ p.rows, r.Holds (Column.value x side) := by
  constructor
  · rintro ⟨side, possible, choice, rows⟩
    -- the sides that the program does not have may be chosen at will
    refine ⟨possible, fun k => if k < p.sides then side k else 0, ?_, ?_⟩
    · intro k
      by_cases known : k < p.sides
      · have chosen : side k = 0 ∨ side k = 1 := choice k known
        simpa [known] using chosen
      · simp [known]
    · intro r hr
      refine (Row.holds_of_agree (S r hr) fun k known => ?_).1 (rows r hr)
      simp [known]
  · rintro ⟨possible, side, choice, rows⟩
    exact ⟨side, possible, fun k _ => choice k, rows⟩

/-- Rows that say the same of all choices of side restrict the points. -/
theorem Extends.isFeasible_iff {P : Prop} (S : p.InScope)
    (H : Extends p.sides x p (fun _ => P) q) :
    q.InScope ∧ (q.IsFeasible x ↔ p.IsFeasible x ∧ P) := by
  obtain ⟨rows, rfl, inScope, holds⟩ := H
  have S' : (p.append rows).InScope := List.forall_mem_append.2 ⟨S, inScope⟩
  refine ⟨S', ?_⟩
  rw [S.isFeasible_iff, S'.isFeasible_iff]
  simp only [append, List.forall_mem_append]
  constructor
  · rintro ⟨possible, side, choice, old, new⟩
    exact ⟨⟨possible, side, choice, old⟩, (holds side choice).1 new⟩
  · rintro ⟨⟨possible, side, choice, old⟩, said⟩
    exact ⟨possible, side, choice, old, (holds side choice).2 said⟩

/-- Rows with a side of their own restrict the points to those for which it can be chosen. -/
theorem Extends.isFeasible_iff_of_side {P : Prop} (S : p.InScope)
    (H : Extends (p.sides + 1) x { p with sides := p.sides + 1 } φ q)
    (sound : ∀ side, IsChoice side → φ side → P)
    (complete : P → ∀ side, IsChoice side →
      ∃ d : Int, (d = 0 ∨ d = 1) ∧ φ (Function.update side p.sides d)) :
    q.InScope ∧ (q.IsFeasible x ↔ p.IsFeasible x ∧ P) := by
  obtain ⟨rows, rfl, inScope, holds⟩ := H
  have S' : ({ p with sides := p.sides + 1 }.append rows).InScope := by
    refine List.forall_mem_append.2 ⟨?_, inScope⟩
    intro r hr t ht k column
    exact Nat.lt_succ_of_lt (S r hr t ht k column)
  refine ⟨S', ?_⟩
  rw [S.isFeasible_iff, S'.isFeasible_iff]
  simp only [append, List.forall_mem_append]
  constructor
  · rintro ⟨possible, side, choice, old, new⟩
    exact ⟨⟨possible, side, choice, old⟩, sound side choice ((holds side choice).1 new)⟩
  · rintro ⟨⟨possible, side, choice, old⟩, said⟩
    obtain ⟨d, chosen, met⟩ := complete said side choice
    have choice' : IsChoice (Function.update side p.sides d) := by
      intro k
      by_cases new : k = p.sides
      · simpa [new] using chosen
      · simpa [new] using choice k
    refine ⟨possible, Function.update side p.sides d, choice', ?_, (holds _ choice').2 met⟩
    intro r hr
    refine (Row.holds_of_agree (S r hr) fun k known => ?_).1 (old r hr)
    rw [Function.update_of_ne (Nat.ne_of_lt known)]

/-- **What the rows of a comparison say**, where the relaxation has the same value for all choices
of side. -/
theorem compare_isFeasible_iff {s : WeightedSum} {op : Comparison} {k d : Int}
    {relax : Option AffineForm} (S : p.InScope)
    (inside : ∀ v ∈ s.vars, v.admits (x v.index) = true)
    (R : ∀ r, relax = some r → IsRelaxation p.sides x r)
    (fixed : ∀ side, slack relax (Column.value x side) = d)
    (ran : compare pure p (.whole s) op k relax = .ok q) :
    q.InScope ∧ (q.IsFeasible x ↔ p.IsFeasible x ∧ (d = 0 → op.holds (s.value x) k = true)) := by
  cases op with
  | lt =>
    apply Extends.isFeasible_iff S ((atMost_extends inside R ran).congr _)
    intro side choice
    simp only [fixed, Comparison.holds, decide_eq_true_eq]
    refine imp_congr_right fun _ => ?_
    omega
  | le =>
    apply Extends.isFeasible_iff S ((atMost_extends inside R ran).congr _)
    intro side choice
    simp only [fixed, Comparison.holds, decide_eq_true_eq]
  | gt =>
    apply Extends.isFeasible_iff S ((atLeast_extends inside R ran).congr _)
    intro side choice
    simp only [fixed, Comparison.holds, decide_eq_true_eq]
    refine imp_congr_right fun _ => ?_
    omega
  | ge =>
    apply Extends.isFeasible_iff S ((atLeast_extends inside R ran).congr _)
    intro side choice
    simp only [fixed, Comparison.holds, decide_eq_true_eq]
  | eq =>
    apply Extends.isFeasible_iff S ((equal_extends inside R ran).congr _)
    intro side choice
    simp only [fixed, Comparison.holds, decide_eq_true_eq]
  | ne =>
    rcases different_extends inside R ran with ⟨rfl, differs⟩ | extended
    · refine ⟨S, ?_⟩
      simp [Comparison.holds, differs]
    · apply extended.isFeasible_iff_of_side S
      · intro side choice
        have chosen := choice p.sides
        simp only [fixed, Comparison.holds, decide_eq_true_eq]
        omega
      · intro differs side choice
        simp only [Comparison.holds, decide_eq_true_eq] at differs
        refine ⟨if s.value x ≤ k - 1 then 0 else 1, by split <;> simp, ?_⟩
        have nonneg : 0 ≤ d := by
          rw [← fixed side]
          exact slack_nonneg R choice
        simp only [fixed, Function.update_self]
        split <;> omega

/-- A gate has the same relaxation for all choices of side: zero just where it is open. -/
theorem exists_slack {c : Constraint} {vs : List Variable} (C : c.IsOver vs)
    (inside : ∀ v ∈ vs, v.admits (x v.index) = true) :
    ∃ d : Int, (d = 0 ↔ ∀ g, c.gate = some g → g.IsOpen x) ∧ (d = 0 ∨ d = 1) ∧
      ∀ side, slack (c.gate.map relaxation) (Column.value x side) = d := by
  cases gated : c.gate with
  | none => exact ⟨0, by simp, .inl rfl, fun side => rfl⟩
  | some g =>
    have G := C.gate g gated
    refine ⟨if g.IsOpen x then 0 else 1, ?_, ?_, ?_⟩
    · by_cases isOpen : g.IsOpen x <;> simp [isOpen]
    · split <;> simp
    · exact relaxation_value G (G.switch_of_admits inside)

/-- A sum without terms that cannot compare as stated forbids that its gate is open. -/
theorem forbid_isFeasible_iff {relax : Option AffineForm} {d : Int} (S : p.InScope)
    (R : ∀ r, relax = some r → IsRelaxation p.sides x r)
    (fixed : ∀ side, slack relax (Column.value x side) = d) (switch : d = 0 ∨ d = 1) :
    (p.forbid relax).InScope ∧ ((p.forbid relax).IsFeasible x ↔ p.IsFeasible x ∧ d ≠ 0) := by
  cases relax with
  | none =>
    obtain rfl : 0 = d := fixed fun _ => 0
    have S' : (p.forbid none).InScope := S
    refine ⟨S', ?_⟩
    rw [S'.isFeasible_iff]
    simp [forbid]
  | some r =>
    apply Extends.isFeasible_iff S ((Extends.push .eq (1 - r.constant) (R r rfl).inScope).congr _)
    intro side choice
    have value : r.value (Column.value x side) = d := fixed side
    simp only [Row.Holds, wholeTerms_valueTerms]
    rw [AffineForm.value] at value
    omega

/-- **What the rows of a constraint say**: that it holds. -/
theorem add_isFeasible_iff {c : Constraint} {vs : List Variable} (S : p.InScope)
    (C : c.IsOver vs) (inside : ∀ v ∈ vs, v.admits (x v.index) = true)
    (ran : add pure p c = .ok q) :
    q.InScope ∧ (q.IsFeasible x ↔ p.IsFeasible x ∧ c.Holds x) := by
  obtain ⟨d, open_, switch, fixed⟩ := exists_slack C inside
  obtain ⟨s, whole, own⟩ := C.whole
  obtain ⟨op, known⟩ := C.known
  have R : ∀ r, c.gate.map relaxation = some r → IsRelaxation p.sides x r := by
    intro r given
    obtain ⟨g, gated, rfl⟩ := Option.map_eq_some_iff.1 given
    exact isRelaxation_relaxation (C.gate g gated) ((C.gate g gated).switch_of_admits inside)
  have holds : c.Holds x ↔ (d = 0 → op.holds (s.value x) c.rhs = true) := by
    rw [Constraint.Holds, open_, known, whole, LinearForm.value_whole]
    rfl
  rw [holds]
  obtain ⟨terms⟩ := s
  cases terms with
  | nil =>
    have decided : (Operator.known op).holds (.whole ⟨[]⟩) c.rhs (fun _ => none) =
        .ok (op.holds 0 c.rhs) := rfl
    have ran : (if op.holds 0 c.rhs then p else p.forbid (c.gate.map relaxation)) = q := by
      simp only [add, whole, known, LinearForm.terms, List.map_nil, decided, ok_bind] at ran
      split at ran <;> simp_all
    rw [WeightedSum.value_nil]
    subst ran
    cases said : op.holds 0 c.rhs with
    | true => simpa using S
    | false =>
      have forbidden := forbid_isFeasible_iff S R fixed switch
      simpa using forbidden
  | cons t rest =>
    have ran : compare pure p (.whole ⟨t :: rest⟩) op c.rhs (c.gate.map relaxation) = .ok q := by
      simpa [add, whole, known, LinearForm.terms] using ran
    exact compare_isFeasible_iff S (fun v hv => inside v (own v hv)) R fixed ran

/-- What the rows of more constraints say. -/
theorem foldlM_isFeasible_iff {cs : List Constraint} {vs : List Variable} (S : p.InScope)
    (C : ∀ c ∈ cs, c.IsOver vs) (inside : ∀ v ∈ vs, v.admits (x v.index) = true)
    (ran : cs.foldlM (add pure) p = .ok q) :
    q.InScope ∧ (q.IsFeasible x ↔ p.IsFeasible x ∧ ∀ c ∈ cs, c.Holds x) := by
  induction cs generalizing p with
  | nil =>
    obtain rfl : p = q := by simpa using ran
    simpa using S
  | cons c cs ih =>
    rw [List.foldlM_cons, bind_eq_ok] at ran
    obtain ⟨next, first, rest⟩ := ran
    rw [List.forall_mem_cons] at C
    obtain ⟨S₁, step⟩ := add_isFeasible_iff S C.1 inside first
    obtain ⟨S₂, steps⟩ := ih S₁ C.2 rest
    refine ⟨S₂, ?_⟩
    rw [steps, step, List.forall_mem_cons, and_assoc]

/-- **What the rows of constraints say**: that all of them hold. -/
theorem ofConstraints_isFeasible_iff {cs : List Constraint} {vs : List Variable}
    (C : ∀ c ∈ cs, c.IsOver vs) (inside : ∀ v ∈ vs, v.admits (x v.index) = true)
    (ran : ofConstraints pure cs = .ok p) :
    p.InScope ∧ (p.IsFeasible x ↔ ∀ c ∈ cs, c.Holds x) := by
  have S : ({} : RowProgram).InScope := by simp [InScope]
  have empty : ({} : RowProgram).IsFeasible x := ⟨fun _ => 0, rfl, by simp, by simp⟩
  obtain ⟨S', feasible⟩ := foldlM_isFeasible_iff S C inside ran
  exact ⟨S', by simpa [empty] using feasible⟩

section Held

variable {f : LinearForm} {k : Int} {relax : Option AffineForm}

/-- A constant that is small enough to be held as it is, also when a relaxation is added. -/
def IsSmall (k : Int) : Prop := k.natAbs + 2 * bigMLimit.natAbs < Nat.pow 2 53

theorem IsSmall.held {k : Int} (small : IsSmall k) : held k = .ok k := by
  apply held_of_lt
  rw [IsSmall] at small
  omega

theorem relaxed_held {terms : List (Column × Value)} {rhs bound : Int} {r : AffineForm}
    (small : IsSmall rhs) (constant : 0 ≤ r.constant ∧ r.constant ≤ 2) :
    relaxed held p f k terms rhs bound r = relaxed pure p f k terms rhs bound r := by
  simp only [relaxed, small.held, pure_eq_ok, ok_bind]
  split
  · rfl
  · split
    · rfl
    · have least : 0 ≤ bound * r.constant := Int.mul_nonneg (by omega) constant.1
      have most : bound * r.constant ≤ bigMLimit * 2 :=
        Int.mul_le_mul (by omega) constant.2 constant.1 (by decide)
      have kept : held (rhs + bound * r.constant) = .ok (rhs + bound * r.constant) := by
        apply held_of_lt
        rw [IsSmall] at small
        omega
      rw [kept]
      rfl

theorem atMost_held (small : IsSmall k)
    (constant : ∀ r, relax = some r → 0 ≤ r.constant ∧ r.constant ≤ 2) :
    atMost held p f k relax = atMost pure p f k relax := by
  cases relax with
  | none => simp only [atMost, small.held, pure_eq_ok]
  | some r => simp only [atMost, relaxed_held small (constant r rfl)]

theorem atLeast_held (small : IsSmall k)
    (constant : ∀ r, relax = some r → 0 ≤ r.constant ∧ r.constant ≤ 2) :
    atLeast held p f k relax = atLeast pure p f k relax := by
  have small' : IsSmall (-k) := by
    rw [IsSmall] at small ⊢
    omega
  cases relax with
  | none => simp only [atLeast, small.held, pure_eq_ok]
  | some r => simp only [atLeast, relaxed_held small' (constant r rfl)]

theorem relaxation_constant (g : Gate) :
    0 ≤ (relaxation g).constant ∧ (relaxation g).constant ≤ 1 := by
  rw [relaxation]
  split <;> simp [AffineForm.complement, AffineForm.ofColumn]

theorem equal_held (small : IsSmall k)
    (constant : ∀ r, relax = some r → 0 ≤ r.constant ∧ r.constant ≤ 2) :
    equal held p f k relax = equal pure p f k relax := by
  cases relax with
  | none => simp only [equal, small.held, pure_eq_ok]
  | some r => simp only [equal, atMost_held small constant, atLeast_held small constant]

theorem different_held (below : IsSmall (k - 1)) (above : IsSmall (k + 1))
    (constant : ∀ r, relax = some r → 0 ≤ r.constant ∧ r.constant ≤ 1) :
    different held p f k relax = different pure p f k relax := by
  have lower : ∀ r, some (relaxedBy relax (.ofColumn (.side p.sides))) = some r →
      0 ≤ r.constant ∧ r.constant ≤ 2 := by
    rintro r ⟨⟩
    cases relax with
    | none => simp [relaxedBy, AffineForm.ofColumn]
    | some r =>
      have := constant r rfl
      simp only [relaxedBy, AffineForm.ofColumn, AffineForm.add, Option.elim_some]
      omega
  have upper : ∀ r, some (relaxedBy relax (.complement (.side p.sides))) = some r →
      0 ≤ r.constant ∧ r.constant ≤ 2 := by
    rintro r ⟨⟩
    cases relax with
    | none => simp [relaxedBy, AffineForm.complement]
    | some r =>
      have := constant r rfl
      simp only [relaxedBy, AffineForm.complement, AffineForm.add, Option.elim_some]
      omega
  simp only [relaxedBy] at lower upper
  simp only [different, atMost_held below lower, atLeast_held above upper]

theorem compare_held (op : Comparison) (small : IsSmall (k.natAbs + 1))
    (constant : ∀ r, relax = some r → 0 ≤ r.constant ∧ r.constant ≤ 1) :
    compare held p f op k relax = compare pure p f op k relax := by
  have same : IsSmall k := by
    rw [IsSmall] at small ⊢
    omega
  have below : IsSmall (k - 1) := by
    rw [IsSmall] at small ⊢
    omega
  have above : IsSmall (k + 1) := by
    rw [IsSmall] at small ⊢
    omega
  have constant' : ∀ r, relax = some r → 0 ≤ r.constant ∧ r.constant ≤ 2 := by
    intro r given
    have := constant r given
    omega
  cases op with
  | lt => exact atMost_held below constant'
  | le => exact atMost_held same constant'
  | gt => exact atLeast_held above constant'
  | ge => exact atLeast_held same constant'
  | eq => exact equal_held same constant'
  | ne => exact different_held below above constant

theorem add_held {c : Constraint} (small : IsSmall (c.rhs.natAbs + 1)) :
    add held p c = add pure p c := by
  have constant : ∀ r, c.gate.map relaxation = some r → 0 ≤ r.constant ∧ r.constant ≤ 1 := by
    intro r given
    obtain ⟨g, -, rfl⟩ := Option.map_eq_some_iff.1 given
    exact relaxation_constant g
  have compared (op : Comparison) := compare_held (p := p) (f := c.sum) op small constant
  simp only [add, compared]

/-- **Small constants are held as they are**, those that relaxations add included. -/
theorem ofConstraints_held {cs : List Constraint}
    (small : ∀ c ∈ cs, IsSmall (c.rhs.natAbs + 1)) :
    ofConstraints held cs = ofConstraints pure cs := by
  rw [ofConstraints, ofConstraints]
  generalize ({} : RowProgram) = p
  induction cs generalizing p with
  | nil => rfl
  | cons c cs ih =>
    rw [List.forall_mem_cons] at small
    rw [List.foldlM_cons, List.foldlM_cons, add_held small.1]
    exact bind_congr fun q => ih small.2 q

end Held

/-- **The rows of a model are exact** if its constants are held as they are: at a point within all
bounds every constraint is satisfied just if every row holds for some choice of sides. -/
theorem ofConstraints_exact {m : Model} (H : m.IsWellFormed)
    (translated : ofConstraints held m.constraints = .ok p)
    (unaltered : ofConstraints held m.constraints = ofConstraints pure m.constraints)
    (inside : ∀ v ∈ m.vars, v.admits (x v.index) = true) :
    (∀ c ∈ m.constraints, c.isSatisfied x.valuation = .ok true) ↔
      p.impossible = false ∧ ∃ side : Nat → Int, (∀ n < p.sides, side n = 0 ∨ side n = 1) ∧
        ∀ r ∈ p.rows, r.Holds (Column.value x side) := by
  rw [unaltered] at translated
  have exact := (ofConstraints_isFeasible_iff H.constraints inside translated).2
  have satisfied : (∀ c ∈ m.constraints, c.isSatisfied x.valuation = .ok true) ↔
      ∀ c ∈ m.constraints, c.Holds x :=
    forall₂_congr fun c hc => (H.constraints c hc).isSatisfied_iff x
  rw [satisfied, ← exact]
  constructor
  · rintro ⟨side, possible, choice, rows⟩
    exact ⟨possible, side, choice, rows⟩
  · rintro ⟨possible, side, choice, rows⟩
    exact ⟨side, possible, choice, rows⟩

/-- A gated disequality, which takes a side. -/
theorem ofConstraints_exact_gated :
    ∃ (m : Model) (p : RowProgram) (x : Point), m.IsWellFormed ∧
      ofConstraints held m.constraints = .ok p ∧ p.sides = 1 ∧
      ((∀ c ∈ m.constraints, c.isSatisfied x.valuation = .ok true) ↔
        p.impossible = false ∧ ∃ side : Nat → Int, (∀ n < p.sides, side n = 0 ∨ side n = 1) ∧
          ∀ r ∈ p.rows, r.Holds (Column.value x side)) := by
  let v : Variable := ⟨⟨0, 0⟩, 0, "x", 0, 3, none⟩
  let b : Variable := ⟨⟨0, 1⟩, 1, "b", 0, 1, none⟩
  let c : Constraint := ⟨.whole ⟨[(v, 1)]⟩, .known .ne, 2, some ⟨b, .int 1⟩, .text ""⟩
  have wellFormed : Model.IsWellFormed { vars := [v, b], constraints := [c] } := by
    refine ⟨?_, by simp [v, b], by simp [v, b], ?_⟩
    · rintro (_ | _ | i) w ⟨⟩
      · rfl
      · rfl
    · rw [List.forall_mem_singleton]
      refine ⟨⟨_, rfl, by simp⟩, ⟨_, rfl⟩, ?_⟩
      rintro g ⟨⟩
      exact ⟨by simp, by decide, .inr rfl⟩
  have unaltered : ofConstraints held [c] = ofConstraints pure [c] :=
    ofConstraints_held (List.forall_mem_singleton.2 (show 3 + 2000000 < Nat.pow 2 53 by decide))
  have sides : (ofConstraints held [c]).map (·.sides) = .ok 1 := by
    simp only [c, v, b]
    rfl
  cases translated : ofConstraints held [c] with
  | error fault => simp [translated, Except.map] at sides
  | ok p =>
    refine ⟨_, p, fun _ => 1, wellFormed, translated, ?_, ?_⟩
    · simpa [translated, Except.map] using sides
    · exact ofConstraints_exact wellFormed translated unaltered (by simp [v, b, Variable.admits])

/-- The smallest integer that no double is. -/
theorem held_uneven : held 9007199254740993 = .ok 9007199254740992 := by
  have altered : significant 9007199254740993 = 9007199254740992 := by decide
  rw [held, altered, if_pos (by decide)]
  rfl

/-- An integer that is beyond all doubles. -/
theorem held_huge : held (Int.ofNat (Nat.pow 10 400)) = .error .numberTooLarge := by
  have long : ¬ (significant (Int.ofNat (Nat.pow 10 400))).natAbs.log2 < 1024 := by
    decide +kernel
  rw [held, if_neg long]
  rfl

/-- Without the condition that constants are held as they are, the rows need not be exact: one may
be satisfied only by points that do not satisfy its constraint. -/
theorem not_ofConstraints_exact :
    ¬ ∀ (m : Model) (p : RowProgram) (x : Point), m.IsWellFormed →
      ofConstraints held m.constraints = .ok p → (∀ v ∈ m.vars, v.admits (x v.index) = true) →
      ((∀ c ∈ m.constraints, c.isSatisfied x.valuation = .ok true) ↔
        p.impossible = false ∧ ∃ side : Nat → Int, (∀ n < p.sides, side n = 0 ∨ side n = 1) ∧
          ∀ r ∈ p.rows, r.Holds (Column.value x side)) := by
  intro exact
  let v : Variable := ⟨⟨0, 0⟩, 0, "x", 0, 18014398509481984, none⟩
  let c : Constraint := ⟨.whole ⟨[(v, 1)]⟩, .known .eq, 9007199254740993, none, .text ""⟩
  have wellFormed : Model.IsWellFormed { vars := [v], constraints := [c] } := by
    refine ⟨?_, by simp [v], by simp [v], ?_⟩
    · intro i w found
      obtain ⟨rfl, rfl⟩ : i = 0 ∧ w = v := by simpa [List.getElem?_singleton, eq_comm] using found
      rfl
    · rw [List.forall_mem_singleton]
      exact ⟨⟨_, rfl, by simp⟩, ⟨_, rfl⟩, by simp [c]⟩
  have one : held 1 = .ok 1 := held_of_lt (by decide)
  have translated : ofConstraints held [c] =
      .ok { rows := [⟨[(.structural 0, .int 1)], .eq, 9007199254740992⟩] } := by
    simp [ofConstraints, add, c, v, LinearForm.terms, compare, equal, columnsOf, one, held_uneven,
      WeightedSum.columns, valueTerms, push]
  have satisfied : c.isSatisfied (Point.valuation fun _ => 9007199254740993) = .ok true := by
    rw [(wellFormed.constraints c (List.mem_singleton_self c)).isSatisfied_iff]
    simp [c, v, Constraint.Holds, Operator.Relates, Comparison.holds]
  obtain ⟨-, side, -, rows⟩ := (exact _ _ (fun _ => 9007199254740993) wellFormed translated
    (by simp [v, Variable.admits])).1 (by simpa using satisfied)
  have row := rows _ (List.mem_singleton_self _)
  simp [Row.Holds, Row.wholeTerms, Column.value] at row

end RowProgram

end IntegerProgram
