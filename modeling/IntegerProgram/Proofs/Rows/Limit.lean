import IntegerProgram.Proofs.Fault
import IntegerProgram.Proofs.Gated.Exact
import IntegerProgram.Proofs.Rows

/-!
# Which models have no program of rows

A row is relaxed by the most by which its sum can overshoot within the bounds of the variables. If
no variable repeats in the sum then some point overshoots by as much, so a model is refused for such
a multiple just if one of the inequalities that have to be relaxed is missed by more than the limit
at a point within all bounds. The only other way to be refused is a number that no double is as
large as; that comes first, since the sum of a row is made before its multiple is looked at. And a
refusal that cannot be written, since its numbers have too many digits, comes about as that.

## Main definitions

* `Inequality`: one of the inequalities that a comparison is made of.
* `Constraint.Relaxes`: the inequalities of a constraint that have to be relaxed.
* `Model.Overshoots`: an inequality of a model that a point misses by more than the limit.
* `Constraint.Emits`: the rows of a constraint.

## Main statements

* `RowProgram.ofModel_refused_iff`: which models are refused, and the multiples in the rows of the
  others.
-/
namespace IntegerProgram

/-! ## What has to be relaxed -/

/-- That a sum is at most, or at least, a number. -/
inductive Inequality where
  | atMost (s : WeightedSum) (k : Int)
  | atLeast (s : WeightedSum) (k : Int)
  deriving DecidableEq, Inhabited, Repr

namespace Inequality

/-- The sum of an inequality. -/
def sum : Inequality → WeightedSum
  | atMost s _ | atLeast s _ => s

/-- The number that the sum is compared with. -/
def constant : Inequality → Int
  | atMost _ k | atLeast _ k => k

/-- By how much a point misses an inequality. -/
def excess : Inequality → Point → Int
  | atMost s k, x => s.value x - k
  | atLeast s k, x => k - s.value x

/-- The most by which an inequality can be missed, taken from the bounds of its sum. -/
def reach : Inequality → Int
  | atMost s k => s.high - k
  | atLeast s k => k - s.low

/-- The terms of the row of an inequality, which is to be at most a number. -/
def terms : Inequality → List (Column × Int)
  | atMost s _ => s.columns
  | atLeast s _ => scaleTerms (-1) s.columns

/-- A point within the bounds misses an inequality by no more than that. -/
theorem excess_le_reach {i : Inequality} {x : Point}
    (within : ∀ v ∈ i.sum.vars, v.admits (x v.index) = true) : i.excess x ≤ i.reach := by
  cases i with
  | atMost s k =>
    have := WeightedSum.value_le_high within
    exact Int.sub_le_sub_right this k
  | atLeast s k =>
    have := WeightedSum.low_le_value within
    exact Int.sub_le_sub_left this k

/-- What is wrong with an inequality that can be missed by too much. -/
def fault (i : Inequality) : Fault :=
  .bigM (.whole i.sum) i.constant i.reach RowProgram.bigMLimit

/-- What keeps it from being told: something in the sum, the number or the multiple. -/
def obstacle? (i : Inequality) : Option Obstacle :=
  i.sum.obstacle? <|> Obstacle.ofInt? i.constant <|> Obstacle.ofInt? i.reach

/-- The refusal of an inequality that can be missed by too much. -/
def refusal (i : Inequality) : Fault := (i.obstacle?.map Obstacle.fault).getD i.fault

theorem refusal_of_none {i : Inequality} (writable : i.obstacle? = none) : i.refusal = i.fault := by
  rw [refusal, writable]
  rfl

theorem refusal_ne_numberTooLarge (i : Inequality) : i.refusal ≠ .numberTooLarge := by
  cases obstacle : i.obstacle? with
  | none => simp [refusal, obstacle, fault]
  | some o => cases o <;> simp [refusal, obstacle, Obstacle.fault]

/-- The sum is shown before the number and the multiple. -/
theorem refuse_eq (i : Inequality) :
    (do
      (LinearForm.whole i.sum).requireShown
      throw (.raised i.fault) : Except Fault RowProgram) = .error i.refusal := by
  cases shown : i.sum.obstacle? with
  | some o => simp [LinearForm.requireShown, shown, refusal, obstacle?]
  | none =>
    simp [LinearForm.requireShown, shown, refusal, obstacle?, Fault.raised, Fault.obstacle?, fault]

end Inequality

/-- The inequalities that a comparison is made of, where it has to be relaxed. -/
def Comparison.sides (op : Comparison) (s : WeightedSum) (k : Int) : List Inequality :=
  match op with
  | .lt => [.atMost s (k - 1)]
  | .le => [.atMost s k]
  | .gt => [.atLeast s (k + 1)]
  | .ge => [.atLeast s k]
  | .eq => [.atMost s k, .atLeast s k]
  | .ne => [.atMost s (k - 1), .atLeast s (k + 1)]

theorem Comparison.sum_of_mem_sides {op : Comparison} {s : WeightedSum} {k : Int} {i : Inequality}
    (side : i ∈ op.sides s k) : i.sum = s := by
  cases op with
  | lt | le | gt | ge =>
    obtain rfl := List.mem_singleton.1 side
    rfl
  | eq | ne =>
    rcases List.mem_pair.1 side with rfl | rfl
    · rfl
    · rfl

/-- The inequalities that rows relax to state a comparison: all of them under a gate, and those of a
disequality with a number between the bounds of the sum. -/
def Comparison.relaxedSides (op : Comparison) (gated : Bool) (s : WeightedSum) (k : Int) :
    List Inequality :=
  if op = .ne then if s.low ≤ k ∧ k ≤ s.high then op.sides s k else []
  else if gated then op.sides s k else []

/-- The inequalities that the rows of a constraint relax. Without a term there are no such rows. -/
def Constraint.relaxedSides (c : Constraint) : List Inequality :=
  match c.sum, c.operator with
  | .whole ⟨t :: rest⟩, .known op => op.relaxedSides c.gate.isSome ⟨t :: rest⟩ c.rhs
  | _, _ => []

theorem Constraint.mem_relaxedSides_whole {s : WeightedSum} {op : Comparison} {k : Int}
    {gate : Option Gate} {description : Value} {i : Inequality} :
    i ∈ (⟨.whole s, .known op, k, gate, description⟩ : Constraint).relaxedSides ↔
      s.terms ≠ [] ∧ i ∈ op.relaxedSides gate.isSome s k := by
  obtain ⟨_ | ⟨t, rest⟩⟩ := s <;> simp [relaxedSides]

/-- The inequalities of a constraint that have to be relaxed: those of a gated constraint, and those
of a disequality with a number between two values that its sum has within the bounds. -/
inductive Constraint.Relaxes (vs : List Variable) : Constraint → Inequality → Prop where
  | gated {s : WeightedSum} {op : Comparison} {k : Int} {g : Gate} {description : Value}
      {i : Inequality} (nonempty : s.terms ≠ []) (other : op ≠ .ne) (side : i ∈ op.sides s k) :
      Relaxes vs ⟨.whole s, .known op, k, some g, description⟩ i
  | different {s : WeightedSum} {k : Int} {gate : Option Gate} {description : Value}
      {i : Inequality} (nonempty : s.terms ≠ [])
      (between : ∃ y z : Point, y.IsWithin vs ∧ z.IsWithin vs ∧ s.value y ≤ k ∧ k ≤ s.value z)
      (side : i ∈ Comparison.ne.sides s k) :
      Relaxes vs ⟨.whole s, .known .ne, k, gate, description⟩ i

/-- What is relaxed is an inequality of the sum of the constraint, which has a gate or is a
disequality. -/
theorem Constraint.Relaxes.sum_eq {vs : List Variable} {c : Constraint} {i : Inequality}
    (relaxes : c.Relaxes vs i) :
    c.sum = .whole i.sum ∧ (c.gate ≠ none ∨ c.operator = .known .ne) := by
  cases relaxes with
  | gated nonempty other side => simp [Comparison.sum_of_mem_sides side]
  | different nonempty between side => simp [Comparison.sum_of_mem_sides side]

namespace RowProgram

/-- A number that doubles need not be as large as. -/
def IsLarge (n : Int) : Prop := Nat.pow 2 1000 < n.natAbs

/-- A form that relaxes by one of its columns or by one minus it. -/
structure IsUnit (r : AffineForm) : Prop where
  nonempty : r.terms ≠ []
  unit : ∀ t ∈ r.terms, t.2 = 1 ∨ t.2 = -1
  constant : 0 ≤ r.constant ∧ r.constant ≤ 2

/-- A row of an inequality that is relaxed by the most by which it can be missed, which is at least
one and within the limit. -/
def Row.IsRelaxed (row : Row) (i : Inequality) : Prop :=
  1 ≤ i.reach ∧ i.reach ≤ bigMLimit ∧ ∃ r : AffineForm, IsUnit r ∧ row.relation = .le ∧
    row.terms = valueTerms (i.terms ++ scaleTerms (-i.reach) r.terms)

end RowProgram

open RowProgram in
/-- The rows of a constraint: the comparison itself where there is no gate, the gate alone where
there is no term, and the inequalities that have to be relaxed. -/
inductive Constraint.Emits (vs : List Variable) (c : Constraint) (row : Row) : Prop where
  | plain {s : WeightedSum} (whole : c.sum = .whole s) (ungated : c.gate = none)
      (terms : row.terms = valueTerms s.columns)
  | forbids {g : Gate} (gated : c.gate = some g) (empty : c.sum.terms = [])
      (terms : row.terms = valueTerms (relaxation g).terms)
  | relaxed {i : Inequality} (side : c.Relaxes vs i) (row : row.IsRelaxed i)

namespace RowProgram

/-! ## How attempts to add rows end -/

/-- How an attempt to add rows ends that has to relax some inequalities: all of these are within the
limit and there are more rows, or one of them is not, or there is a large number. -/
inductive Ends (sides : List Inequality) (large : Prop) (emits : Row → Prop) (p : RowProgram) :
    Except Fault RowProgram → Prop where
  | added {q : RowProgram} {rows : List Row} (small : ∀ i ∈ sides, i.reach ≤ bigMLimit)
      (more : q.rows = p.rows ++ rows) (each : ∀ row ∈ rows, emits row) :
      Ends sides large emits p (.ok q)
  | limit {i : Inequality} (side : i ∈ sides) (exceeds : bigMLimit < i.reach) :
      Ends sides large emits p (.error i.refusal)
  | tooLarge (number : large) : Ends sides large emits p (.error .numberTooLarge)

variable {p : RowProgram} {as bs : List Inequality} {large : Prop} {emits : Row → Prop}
  {r : Except Fault RowProgram} {s : WeightedSum} {k : Int} {op : Comparison}
  {relax : Option AffineForm}

namespace Ends

/-- One attempt after another relaxes the inequalities of both. -/
theorem bind {f : RowProgram → Except Fault RowProgram} (first : Ends as large emits p r)
    (next : ∀ q, Ends bs large emits q (f q)) : Ends (as ++ bs) large emits p (r >>= f) := by
  cases first with
  | limit side exceeds =>
    rw [error_bind]
    exact .limit (List.mem_append_left _ side) exceeds
  | tooLarge number =>
    rw [error_bind]
    exact .tooLarge number
  | @added q rows small more each =>
    rw [ok_bind]
    generalize returned : f q = r
    have second := next q
    rw [returned] at second
    cases second with
    | limit side exceeds => exact .limit (List.mem_append_right _ side) exceeds
    | tooLarge number => exact .tooLarge number
    | added small' more' each' =>
      refine .added (List.forall_mem_append.2 ⟨small, small'⟩) ?_
        (List.forall_mem_append.2 ⟨each, each'⟩)
      rw [more', more, List.append_assoc]

theorem mono {emits' : Row → Prop} (E : Ends as large emits p r)
    (wider : ∀ row, emits row → emits' row) : Ends as large emits' p r := by
  cases E with
  | limit side exceeds => exact .limit side exceeds
  | tooLarge number => exact .tooLarge number
  | added small more each => exact .added small more fun row hrow => wider row (each row hrow)

/-- What starts from a program with the same rows adds the same. -/
theorem of_rows_eq {q : RowProgram} (E : Ends as large emits q r) (same : q.rows = p.rows) :
    Ends as large emits p r := by
  cases E with
  | limit side exceeds => exact .limit side exceeds
  | tooLarge number => exact .tooLarge number
  | added small more each => exact .added small (same ▸ more) each

/-- Nothing is relaxed, and no row is added. -/
theorem idle {q : RowProgram} (same : q.rows = p.rows) : Ends [] large emits p (.ok q) :=
  .added (by simp) (same.trans (List.append_nil _).symm) (by simp)

end Ends

/-- Whether a fault tells of a number that no double is as large as, with what is known then. -/
def IsTooLarge (large : Prop) (fault : Fault) : Prop := fault = .numberTooLarge ∧ large

/-- What begins with a check goes on, unless the check finds a large number. -/
theorem Ends.check {α : Type} {c : Except Fault α} {f : α → Except Fault RowProgram}
    (F : FailsOnly (IsTooLarge large) c)
    (next : ∀ a, c = .ok a → Ends as large emits p (f a)) :
    Ends as large emits p (c >>= f) := by
  cases checked : c with
  | ok a =>
    rw [ok_bind]
    exact next a checked
  | error fault =>
    obtain ⟨rfl, number⟩ := F fault checked
    rw [error_bind]
    exact .tooLarge number

/-! ## Numbers that doubles hold -/

section Held

variable {n m : Int}

/-- Rounding adds at most one bit to a number. -/
theorem log2_significant_lt {size bits : Nat} (positive : 0 < bits) (small : n.natAbs ≤ size)
    (room : 2 * size < Nat.pow 2 bits) : (significant n).natAbs.log2 < bits := by
  by_cases zero : (significant n).natAbs = 0
  · rwa [zero, Nat.log2_zero]
  · rw [Nat.log2_lt zero, ← Nat.pow_eq]
    have := natAbs_significant_le n
    omega

/-- Doubles are as large as twice any number that is not large, with some room. -/
theorem exists_held (small : n.natAbs ≤ Nat.pow 2 1002) : ∃ m, held n = .ok m := by
  obtain ⟨bits, room, positive, all⟩ :
      ∃ bits, 2 * Nat.pow 2 1002 < Nat.pow 2 bits ∧ 0 < bits ∧ bits = 1024 :=
    ⟨1024, by decide +kernel, by decide, rfl⟩
  have short : (significant n).natAbs.log2 < 1024 := all ▸ log2_significant_lt positive small room
  exact ⟨significant n, by rw [held, if_pos short]; rfl⟩

/-- Holding a number at most doubles it. -/
theorem natAbs_le_of_held (kept : held n = .ok m) : m.natAbs ≤ 2 * n.natAbs := by
  rw [held] at kept
  split at kept
  · obtain rfl := Except.ok.inj kept
    exact natAbs_significant_le n
  · simp at kept

theorem failsOnly_held_large (number : Nat.pow 2 1002 < n.natAbs → large) :
    FailsOnly (IsTooLarge large) (held n) := by
  rcases Nat.lt_or_ge (Nat.pow 2 1002) n.natAbs with beyond | small
  · unfold held
    split
    · simp
    · simp [IsTooLarge, number beyond]
  · obtain ⟨m, kept⟩ := exists_held small
    exact .of_eq_ok kept

/-- A number that is not large is held, and so is its double with the multiples of a relaxation
added. -/
theorem failsOnly_held_of_isLarge (number : IsLarge n → large) :
    FailsOnly (IsTooLarge large) (held n) := by
  apply failsOnly_held_large
  intro beyond
  have more : Nat.pow 2 1000 ≤ Nat.pow 2 1002 := by decide +kernel
  exact number (Nat.lt_of_le_of_lt more beyond)

theorem failsOnly_held_add {k d : Int} (number : IsLarge k → large) (kept : held k = .ok n)
    (small : d.natAbs ≤ 2 * bigMLimit.natAbs) : FailsOnly (IsTooLarge large) (held (n + d)) := by
  apply failsOnly_held_large
  intro beyond
  apply number
  have size := natAbs_le_of_held kept
  have added := Int.natAbs_add_le n d
  have room : 2 * Nat.pow 2 1000 + 2 * bigMLimit.natAbs ≤ Nat.pow 2 1002 := by decide +kernel
  by_contra modest
  have bounded : k.natAbs ≤ Nat.pow 2 1000 := Nat.le_of_not_lt modest
  omega

theorem failsOnly_columnsOf_large (number : ∀ t ∈ s.terms, IsLarge t.2 → large) :
    FailsOnly (IsTooLarge large) (columnsOf (.whole s)) := by
  refine .bind (.forM fun t ht => ?_) fun _ _ => by simp
  exact (failsOnly_held_of_isLarge (number t ht)).bind fun _ _ => by simp

end Held

/-! ## Adding rows -/

/-- A form that relaxes and a choice of side relax together. -/
theorem isUnit_relaxedBy {f : AffineForm} (unit : ∀ r, relax = some r → IsUnit r ∧ r.constant ≤ 1)
    (side : IsUnit f) (constant : f.constant ≤ 1) : IsUnit (relaxedBy relax f) := by
  cases relax with
  | none => exact side
  | some r =>
    obtain ⟨gate, least⟩ := unit r rfl
    have first := gate.constant
    have second := side.constant
    refine ⟨?_, List.forall_mem_append.2 ⟨gate.unit, side.unit⟩, ?_⟩
    · simp [relaxedBy, AffineForm.add, side.nonempty]
    · simp only [relaxedBy, AffineForm.add, Option.elim_some]
      omega

theorem isUnit_ofColumn (c : Column) : IsUnit (.ofColumn c) := by
  constructor <;> simp [AffineForm.ofColumn]

theorem isUnit_complement (c : Column) : IsUnit (.complement c) := by
  constructor <;> simp [AffineForm.complement]

section Sum

variable (coefficients : ∀ t ∈ s.terms, IsLarge t.2 → large)

/-- A row that is relaxed by a multiple of a form. -/
theorem ends_relaxed {i : Inequality} {f : AffineForm} (unit : IsUnit f) {rhs : Int}
    (emitted : ∀ row : Row, row.IsRelaxed i → emits row) (number : IsLarge rhs → large) :
    Ends [i] large emits p
      (relaxed held p (.whole i.sum) i.constant (valueTerms i.terms) rhs i.reach f) := by
  rw [relaxed]
  split
  · next void =>
    refine .added ?_ (List.append_nil _).symm (by simp)
    rw [List.forall_mem_singleton, bigMLimit]
    omega
  · next positive =>
    split
    · next exceeds =>
      rw [← Inequality.fault, i.refuse_eq]
      exact .limit List.mem_cons_self exceeds
    · next within =>
      refine .check (failsOnly_held_of_isLarge number) fun n kept => ?_
      have small : (i.reach * f.constant).natAbs ≤ 2 * bigMLimit.natAbs := by
        have := unit.constant
        rw [Int.natAbs_mul, Nat.mul_comm]
        exact Nat.mul_le_mul (by omega) (by omega)
      refine .check (failsOnly_held_add number kept small) fun m _ => ?_
      refine .added (List.forall_mem_singleton.2 (by omega)) rfl (List.forall_mem_singleton.2 ?_)
      apply emitted
      exact ⟨by omega, by omega, f, unit, rfl, (valueTerms_append _ _).symm⟩

include coefficients

/-- A row that is not relaxed. -/
theorem ends_plain (rel : Relation) (number : IsLarge k → large)
    (emitted : ∀ row : Row, row.terms = valueTerms s.columns → emits row) :
    Ends [] large emits p (do return p.push ⟨← columnsOf (.whole s), rel, ← held k⟩) := by
  refine .check (failsOnly_columnsOf_large coefficients) fun terms made => ?_
  obtain rfl := columnsOf_whole made
  refine .check (failsOnly_held_of_isLarge number) fun n _ => ?_
  exact .added (by simp) rfl (List.forall_mem_singleton.2 (emitted _ rfl))

/-- An upper bound that is relaxed. -/
theorem ends_atMost {f : AffineForm} (unit : IsUnit f) (number : IsLarge k → large)
    (emitted : ∀ row : Row, row.IsRelaxed (.atMost s k) → emits row) :
    Ends [.atMost s k] large emits p (atMost held p (.whole s) k (some f)) := by
  refine .check (failsOnly_columnsOf_large coefficients) fun terms made => ?_
  obtain rfl := columnsOf_whole made
  exact ends_relaxed unit emitted number

/-- A lower bound that is relaxed. -/
theorem ends_atLeast {f : AffineForm} (unit : IsUnit f) (number : IsLarge k → large)
    (emitted : ∀ row : Row, row.IsRelaxed (.atLeast s k) → emits row) :
    Ends [.atLeast s k] large emits p (atLeast held p (.whole s) k (some f)) := by
  refine .check (failsOnly_columnsOf_large coefficients) fun terms made => ?_
  obtain rfl := columnsOf_whole made
  simp only [negateColumns_valueTerms, ok_bind]
  have opposite : IsLarge (-k) → large := by
    rw [IsLarge, Int.natAbs_neg]
    exact number
  exact ends_relaxed (i := .atLeast s k) unit emitted opposite

/-- Both halves of a disequality, each relaxed by the choice of the other. -/
theorem ends_different (unit : ∀ f, relax = some f → IsUnit f ∧ f.constant ≤ 1)
    (less : IsLarge (k - 1) → large) (more : IsLarge (k + 1) → large)
    (emitted : ∀ i ∈ Comparison.ne.relaxedSides relax.isSome s k, ∀ row : Row, row.IsRelaxed i →
      emits row) :
    Ends (Comparison.ne.relaxedSides relax.isSome s k) large emits p
      (different held p (.whole s) k relax) := by
  simp only [Comparison.relaxedSides, if_true] at emitted ⊢
  simp only [different, LinearForm.bounds, WeightedSum.bounds, pure_eq_ok, ok_bind]
  split
  · next between =>
    simp only [between, and_self, if_true, Comparison.sides, List.forall_mem_cons] at emitted
    have below : IsUnit (relaxedBy relax (.ofColumn (.side p.sides))) :=
      isUnit_relaxedBy unit (isUnit_ofColumn _) (by simp [AffineForm.ofColumn])
    have above : IsUnit (relaxedBy relax (.complement (.side p.sides))) :=
      isUnit_relaxedBy unit (isUnit_complement _) (Int.le_refl 1)
    -- a column is taken for the choice before the first row is added
    have first : Ends [.atMost s (k - 1)] large emits p
        (atMost held { p with sides := p.sides + 1 } (.whole s) (k - 1)
          (some (relaxedBy relax (.ofColumn (.side p.sides))))) :=
      (ends_atMost coefficients below less emitted.1).of_rows_eq rfl
    exact first.bind fun q => ends_atLeast coefficients above more emitted.2.1
  · exact .idle rfl

/-- **How adding the rows of a comparison ends.** -/
theorem ends_compare (op : Comparison) (unit : ∀ f, relax = some f → IsUnit f ∧ f.constant ≤ 1)
    (number : ∀ n, (n - k).natAbs ≤ 1 → IsLarge n → large)
    (plain : relax = none → ∀ row : Row, row.terms = valueTerms s.columns → emits row)
    (emitted : ∀ i ∈ op.relaxedSides relax.isSome s k, ∀ row : Row, row.IsRelaxed i → emits row) :
    Ends (op.relaxedSides relax.isSome s k) large emits p
      (compare held p (.whole s) op k relax) := by
  have same : IsLarge k → large := number k (by simp)
  have less : IsLarge (k - 1) → large := number (k - 1) (by omega)
  have more : IsLarge (k + 1) → large := number (k + 1) (by omega)
  cases relax with
  | none =>
    cases op with
    | lt => exact ends_plain coefficients .le less (plain rfl)
    | le => exact ends_plain coefficients .le same (plain rfl)
    | gt => exact ends_plain coefficients .ge more (plain rfl)
    | ge => exact ends_plain coefficients .ge same (plain rfl)
    | eq => exact ends_plain coefficients .eq same (plain rfl)
    | ne => exact ends_different coefficients unit less more emitted
  | some f =>
    have gate : IsUnit f := (unit f rfl).1
    cases op with
    | lt => exact ends_atMost coefficients gate less (emitted _ List.mem_cons_self)
    | le => exact ends_atMost coefficients gate same (emitted _ List.mem_cons_self)
    | gt => exact ends_atLeast coefficients gate more (emitted _ List.mem_cons_self)
    | ge => exact ends_atLeast coefficients gate same (emitted _ List.mem_cons_self)
    | eq =>
      have first := emitted (.atMost s k) (by simp [Comparison.relaxedSides, Comparison.sides])
      have second := emitted (.atLeast s k) (by simp [Comparison.relaxedSides, Comparison.sides])
      exact (ends_atMost coefficients gate same first).bind fun q =>
        ends_atLeast coefficients gate same second
    | ne => exact ends_different coefficients unit less more emitted

end Sum

theorem isUnit_relaxation (g : Gate) : IsUnit (relaxation g) := by
  rw [relaxation]
  split
  · exact isUnit_complement _
  · exact isUnit_ofColumn _

variable {c : Constraint} {vs : List Variable}

/-- **How adding the rows of a constraint ends.** -/
theorem ends_add (integral : c.IsIntegral) (relaxes : ∀ i ∈ c.relaxedSides, c.Relaxes vs i)
    (coefficients : ∀ s, c.sum = .whole s → ∀ t ∈ s.terms, IsLarge t.2 → large)
    (number : ∀ n, (n - c.rhs).natAbs ≤ 1 → IsLarge n → large) :
    Ends c.relaxedSides large (c.Emits vs) p (add held p c) := by
  obtain ⟨s, whole⟩ := integral.whole
  obtain ⟨op, known⟩ := integral.known
  obtain ⟨sum, operator, k, gate, description⟩ := c
  obtain rfl : sum = .whole s := whole
  obtain rfl : operator = .known op := known
  obtain ⟨terms⟩ := s
  cases terms with
  | nil =>
    have decided : (Operator.known op).holds (.whole ⟨[]⟩) k (fun _ => none) =
        .ok (op.holds 0 k) := rfl
    simp only [add, LinearForm.terms, List.map_nil, decided, ok_bind]
    cases op.holds 0 k with
    | true => exact .idle rfl
    | false =>
      cases gate with
      | none => exact .idle rfl
      | some g =>
        exact .added (by simp [Constraint.relaxedSides]) rfl
          (List.forall_mem_singleton.2 (.forbids rfl rfl rfl))
  | cons t rest =>
    -- the gate relaxes the comparison, if there is one
    have unit : ∀ f, gate.map relaxation = some f → IsUnit f ∧ f.constant ≤ 1 := by
      intro f given
      obtain ⟨g, -, rfl⟩ := Option.map_eq_some_iff.1 given
      exact ⟨isUnit_relaxation g, (relaxation_constant g).2⟩
    have same : (gate.map relaxation).isSome = gate.isSome := Option.isSome_map ..
    change Ends (op.relaxedSides gate.isSome ⟨t :: rest⟩ k) large _ p
      (compare held p (.whole ⟨t :: rest⟩) op k (gate.map relaxation))
    rw [← same]
    refine ends_compare (coefficients _ rfl) op unit number ?_ ?_
    · intro ungated row terms
      exact .plain rfl (Option.map_eq_none_iff.1 ungated) terms
    · rw [same]
      intro i hi row relaxed
      exact .relaxed (relaxes i hi) relaxed

/-- **How adding the rows of constraints ends**: one after the other is added, until one is refused.
-/
theorem ends_foldlM {cs : List Constraint} (integral : ∀ c ∈ cs, c.IsIntegral)
    (relaxes : ∀ c ∈ cs, ∀ i ∈ c.relaxedSides, c.Relaxes vs i)
    (coefficients : ∀ c ∈ cs, ∀ s, c.sum = .whole s → ∀ t ∈ s.terms, IsLarge t.2 → large)
    (number : ∀ c ∈ cs, ∀ n, (n - c.rhs).natAbs ≤ 1 → IsLarge n → large) :
    Ends (cs.flatMap Constraint.relaxedSides) large (fun row => ∃ c ∈ cs, c.Emits vs row) p
      (cs.foldlM (add held) p) := by
  induction cs generalizing p with
  | nil => exact .idle rfl
  | cons c cs ih =>
    rw [List.forall_mem_cons] at integral relaxes coefficients number
    rw [List.flatMap_cons, List.foldlM_cons]
    have first := ends_add (p := p) integral.1 relaxes.1 coefficients.1 number.1
    refine (first.mono fun row emits => ⟨c, List.mem_cons_self, emits⟩).bind fun q => ?_
    refine (ih integral.2 relaxes.2 coefficients.2 number.2).mono ?_
    rintro row ⟨d, hd, emits⟩
    exact ⟨d, List.mem_cons_of_mem _ hd, emits⟩

end RowProgram

/-! ## The program of a model -/

/-- The numbers of a model that its program of rows holds. -/
inductive Model.HasNumber (m : Model) : Int → Prop where
  | lower {v : Variable} (hv : v ∈ m.vars) : HasNumber m v.lower
  | upper {v : Variable} (hv : v ∈ m.vars) : HasNumber m v.upper
  | rhs {c : Constraint} (hc : c ∈ m.constraints) : HasNumber m c.rhs
  | coefficient {c : Constraint} {s : WeightedSum} {t : Variable × Int} (hc : c ∈ m.constraints)
      (whole : c.sum = .whole s) (ht : t ∈ s.terms) : HasNumber m t.2
  | objective {o : Objective} {s : WeightedSum} {t : Variable × Int} (given : m.objective = some o)
      (whole : o.sum = .whole s) (ht : t ∈ s.terms) : HasNumber m t.2

/-- Whether an inequality has to be relaxed and is missed by more than the limit at a point within
all bounds. -/
def Model.Overshoots (m : Model) (i : Inequality) : Prop :=
  ∃ c ∈ m.constraints, c.Relaxes m.vars i ∧
    ∃ x : Point, x.IsWithin m.vars ∧ RowProgram.bigMLimit < i.excess x

/-- One of the numbers has more than a thousand bits. -/
def Model.HasLargeNumber (m : Model) : Prop := ∃ n, m.HasNumber n ∧ Nat.pow 2 1000 ≤ n.natAbs

namespace RowProgram

variable {m : Model}

/-- **How making the program of a model ends.** -/
theorem ends_ofModel (S : m.IsSound) (M : m.IsIntegral)
    (relaxes : ∀ c ∈ m.constraints, ∀ i ∈ c.relaxedSides, c.Relaxes m.vars i) :
    Ends (m.constraints.flatMap Constraint.relaxedSides) m.HasLargeNumber
      (fun row => ∃ c ∈ m.constraints, c.Emits m.vars row) {} (ofModel m) := by
  have large (n : Int) (listed : m.HasNumber n) (isLarge : IsLarge n) : m.HasLargeNumber := by
    rw [IsLarge] at isLarge
    exact ⟨n, listed, by omega⟩
  refine .check (.forM fun v hv => ?_) fun _ _ => ?_
  · rw [requireHeldBounds, S.declared v hv]
    refine (failsOnly_held_of_isLarge (large _ (.lower hv))).bind fun _ _ => ?_
    exact (failsOnly_held_of_isLarge (large _ (.upper hv))).bind fun _ _ => by simp
  rw [← List.append_nil (m.constraints.flatMap _)]
  refine (ends_foldlM M.constraints relaxes ?_ ?_).bind fun q => ?_
  · intro c hc s whole t ht
    exact large _ (.coefficient hc whole ht)
  · intro c hc n near isLarge
    refine ⟨c.rhs, .rhs hc, ?_⟩
    rw [IsLarge] at isLarge
    omega
  refine .check ?_ fun _ _ => .idle rfl
  cases given : m.objective with
  | none => simp
  | some o =>
    obtain ⟨s, whole⟩ := M.objective o given
    rw [Option.mapM_some, whole]
    refine .map (failsOnly_columnsOf_large fun t ht => ?_) _
    exact large _ (.objective given whole ht)

/-! ## Points that miss an inequality by the most -/

section Attained

variable (H : m.IsWellFormed) {s : WeightedSum} (own : ∀ v ∈ s.vars, v ∈ m.vars)
  (single : s.vars.Nodup)

include H own single

theorem exists_value_eq_low : ∃ y : Point, y.IsWithin m.vars ∧ s.value y = s.low := by
  obtain ⟨x, inside⟩ := H.exists_within
  exact WeightedSum.exists_value_eq_low (fun v hv w hw => H.eq_of_index_eq hv hw) inside own single
    H.nonempty

theorem exists_value_eq_high : ∃ y : Point, y.IsWithin m.vars ∧ s.value y = s.high := by
  obtain ⟨x, inside⟩ := H.exists_within
  exact WeightedSum.exists_value_eq_high (fun v hv w hw => H.eq_of_index_eq hv hw) inside own single
    H.nonempty

/-- A sum has values on both sides of a number within the bounds if its least and its greatest value
are. -/
theorem exists_between_iff {k : Int} :
    (∃ y z : Point, y.IsWithin m.vars ∧ z.IsWithin m.vars ∧ s.value y ≤ k ∧ k ≤ s.value z) ↔
      s.low ≤ k ∧ k ≤ s.high := by
  constructor
  · rintro ⟨y, z, below, above, least, greatest⟩
    have low := WeightedSum.low_le_value fun v hv => below v (own v hv)
    have high := WeightedSum.value_le_high fun v hv => above v (own v hv)
    omega
  · rintro ⟨least, greatest⟩
    obtain ⟨y, below, low⟩ := exists_value_eq_low H own single
    obtain ⟨z, above, high⟩ := exists_value_eq_high H own single
    exact ⟨y, z, below, above, by omega, by omega⟩

end Attained

/-- An inequality is missed by as much as can be taken from the bounds. -/
theorem exists_excess_eq_reach (H : m.IsWellFormed) {i : Inequality}
    (own : ∀ v ∈ i.sum.vars, v ∈ m.vars) (single : i.sum.vars.Nodup) :
    ∃ x : Point, x.IsWithin m.vars ∧ i.excess x = i.reach := by
  cases i with
  | atMost s k =>
    obtain ⟨x, inside, value⟩ := exists_value_eq_high H own single
    exact ⟨x, inside, congrArg (· - k) value⟩
  | atLeast s k =>
    obtain ⟨x, inside, value⟩ := exists_value_eq_low H own single
    exact ⟨x, inside, congrArg (k - ·) value⟩

/-- The inequalities that rows relax are those that have to be relaxed. -/
theorem mem_relaxedSides_iff (H : m.IsWellFormed) {c : Constraint} (integral : c.IsIntegral)
    (own : ∀ v ∈ c.sum.vars, v ∈ m.vars)
    (single : c.gate ≠ none ∨ c.operator = .known .ne → c.sum.vars.Nodup) {i : Inequality} :
    i ∈ c.relaxedSides ↔ c.Relaxes m.vars i := by
  obtain ⟨s, whole⟩ := integral.whole
  obtain ⟨op, known⟩ := integral.known
  obtain ⟨sum, operator, k, gate, description⟩ := c
  obtain rfl : sum = .whole s := whole
  obtain rfl : operator = .known op := known
  simp only [LinearForm.vars_whole] at own single
  constructor
  · intro side
    obtain ⟨nonempty, side⟩ := Constraint.mem_relaxedSides_whole.1 side
    rw [Comparison.relaxedSides] at side
    by_cases other : op = .ne
    · subst other
      rw [if_pos rfl] at side
      split at side
      · next between =>
        exact .different nonempty ((exists_between_iff H own (single (.inr rfl))).2 between) side
      · simp at side
    · rw [if_neg other] at side
      cases gate with
      | none => simp at side
      | some g => exact .gated nonempty other side
  · intro relaxes
    apply Constraint.mem_relaxedSides_whole.2
    cases relaxes with
    | gated nonempty other side =>
      refine ⟨nonempty, ?_⟩
      rwa [Comparison.relaxedSides, if_neg other]
    | different nonempty between side =>
      refine ⟨nonempty, ?_⟩
      rwa [Comparison.relaxedSides, if_pos rfl,
        if_pos ((exists_between_iff H own (single (.inr rfl))).1 between)]

/-- An inequality that has to be relaxed can be missed by more than the limit just if it is at some
point within all bounds. -/
theorem exists_excess_iff (H : m.IsWellFormed) {c : Constraint} (own : ∀ v ∈ c.sum.vars, v ∈ m.vars)
    (single : c.gate ≠ none ∨ c.operator = .known .ne → c.sum.vars.Nodup) {i : Inequality}
    (relaxes : c.Relaxes m.vars i) :
    (∃ x : Point, x.IsWithin m.vars ∧ bigMLimit < i.excess x) ↔ bigMLimit < i.reach := by
  obtain ⟨sum, relaxed⟩ := relaxes.sum_eq
  have single := single relaxed
  rw [sum, LinearForm.vars_whole] at own single
  constructor
  · rintro ⟨x, inside, exceeds⟩
    exact Int.lt_of_lt_of_le exceeds (Inequality.excess_le_reach fun v hv => inside v (own v hv))
  · intro exceeds
    obtain ⟨x, inside, most⟩ := exists_excess_eq_reach H own single
    exact ⟨x, inside, most ▸ exceeds⟩

/-- **Which models have no program of rows.** A model in which no variable repeats where sums are
relaxed is refused for its multiples just if one of the inequalities that have to be relaxed is
missed by more than the limit at a point within all bounds, unless a number of more than a thousand
bits is beyond all doubles. This is a fault of the configuration if it can be written. In the rows
of a program every multiple is at least one and within the limit. -/
theorem ofModel_refused_iff (S : m.IsSound) (M : m.IsIntegral)
    (single : ∀ c ∈ m.constraints, c.gate ≠ none ∨ c.operator = .known .ne → c.sum.vars.Nodup) :
    (ofModel m ≠ .error .numberTooLarge →
      ((∃ fault, ofModel m = .error fault) ↔ ∃ i, m.Overshoots i)) ∧
      (∀ fault, ofModel m = .error fault → fault = .numberTooLarge ∧ m.HasLargeNumber ∨
        ∃ i, m.Overshoots i ∧ fault = i.refusal ∧
          (i.obstacle? = none → fault.kind = .configuration)) ∧
      ∀ p, ofModel m = .ok p → ∀ row ∈ p.rows, ∃ c ∈ m.constraints, c.Emits m.vars row := by
  have H := S.plain M
  have relaxes (c) (hc : c ∈ m.constraints) (i) : i ∈ c.relaxedSides ↔ c.Relaxes m.vars i :=
    mem_relaxedSides_iff H (M.constraints c hc) (S.sums c hc) (single c hc)
  have exceeds (i : Inequality) : m.Overshoots i ↔
      i ∈ m.constraints.flatMap Constraint.relaxedSides ∧ bigMLimit < i.reach := by
    constructor
    · rintro ⟨c, hc, side, missed⟩
      exact ⟨List.mem_flatMap.2 ⟨c, hc, (relaxes c hc i).2 side⟩,
        (exists_excess_iff H (S.sums c hc) (single c hc) side).1 missed⟩
    · rintro ⟨side, reach⟩
      obtain ⟨c, hc, side⟩ := List.mem_flatMap.1 side
      have side := (relaxes c hc i).1 side
      exact ⟨c, hc, side, (exists_excess_iff H (S.sums c hc) (single c hc) side).2 reach⟩
  simp only [exceeds]
  have ended := ends_ofModel S M fun c hc i => (relaxes c hc i).1
  generalize ofModel m = r at ended ⊢
  cases ended with
  | added small more each =>
    refine ⟨fun _ => ⟨by simp, ?_⟩, by simp, ?_⟩
    · rintro ⟨i, side, reach⟩
      exact absurd reach (Int.not_lt.2 (small i side))
    · rintro p ⟨⟩ row hrow
      rw [more, List.nil_append] at hrow
      exact each row hrow
  | @limit i side reach =>
    refine ⟨fun _ => ⟨fun _ => ⟨i, side, reach⟩, fun _ => ⟨_, rfl⟩⟩, ?_, by simp⟩
    rintro fault ⟨⟩
    refine .inr ⟨i, ⟨side, reach⟩, rfl, fun writable => ?_⟩
    rw [Inequality.refusal_of_none writable]
    rfl
  | tooLarge number =>
    refine ⟨fun possible => absurd rfl possible, ?_, by simp⟩
    rintro fault ⟨⟩
    exact .inl ⟨rfl, number⟩

section Multiple

/-- The variable of which there is a multiple. -/
def factor : Variable := ⟨⟨0, 0⟩, 0, "x", 0, 1, none⟩

/-- The indicator of the gate. -/
def enabler : Variable := ⟨⟨0, 1⟩, 1, "b", 0, 1, none⟩

/-- A model in which a multiple of a variable has to be zero or less while a gate is active. -/
def gatedMultiple (k : Int) : Model where
  vars := [factor, enabler]
  constraints :=
    [⟨.whole ⟨[(factor, k)]⟩, .known .le, 0, some ⟨enabler, .int 1⟩, .text "x if b"⟩]

variable (k : Int)

theorem isSound_gatedMultiple : (gatedMultiple k).IsSound := by
  constructor
  · rintro (_ | _ | i) v ⟨⟩
    · rfl
    · rfl
  · simp [gatedMultiple, factor, enabler]
  · simp [gatedMultiple, factor, enabler]
  · simp [gatedMultiple]
  · simp only [gatedMultiple, List.forall_mem_singleton]
    rintro g ⟨⟩
    exact ⟨by simp, by decide, by simp [Model.isSwitch, Value.equals_int]⟩
  · simp [gatedMultiple]
  · simp [gatedMultiple]

theorem isIntegral_gatedMultiple : (gatedMultiple k).IsIntegral := by
  constructor
  · simp only [gatedMultiple, List.forall_mem_singleton]
    exact ⟨⟨_, rfl⟩, ⟨_, rfl⟩⟩
  · simp [gatedMultiple]

theorem nodup_gatedMultiple : ∀ c ∈ (gatedMultiple k).constraints,
    c.gate ≠ none ∨ c.operator = .known .ne → c.sum.vars.Nodup := by
  simp [gatedMultiple, WeightedSum.vars]

/-- The one inequality is missed by the multiple itself, and by no more. -/
theorem overshoots_gatedMultiple_iff (nonneg : 0 ≤ k) {i : Inequality} :
    (gatedMultiple k).Overshoots i ↔ i = .atMost ⟨[(factor, k)]⟩ 0 ∧ bigMLimit < k := by
  simp only [Model.Overshoots, gatedMultiple, List.mem_singleton, exists_eq_left]
  constructor
  · rintro ⟨relaxes, x, within, exceeds⟩
    cases relaxes with
    | gated nonempty other side =>
      obtain rfl := List.mem_singleton.1 side
      have inside : factor.lower ≤ x factor.index ∧ x factor.index ≤ factor.upper := by
        simpa [Variable.admits] using within factor List.mem_cons_self
      have value : 0 ≤ x 0 ∧ x 0 ≤ 1 := inside
      have most : k * x 0 ≤ k * 1 := Int.mul_le_mul_of_nonneg_left value.2 nonneg
      simp only [Inequality.excess, WeightedSum.value_cons, WeightedSum.value_nil, factor]
        at exceeds
      exact ⟨rfl, by omega⟩
  · rintro ⟨rfl, exceeds⟩
    refine ⟨.gated (by simp) (by simp) List.mem_cons_self, fun _ => 1, ?_, ?_⟩
    · intro v hv
      simp only [List.mem_cons, List.not_mem_nil, or_false] at hv
      rcases hv with rfl | rfl <;> decide
    · simpa [Inequality.excess] using exceeds

theorem hasNumber_gatedMultiple {k n : Int} (listed : (gatedMultiple k).HasNumber n) :
    n = 0 ∨ n = 1 ∨ n = k := by
  cases listed with
  | lower hv =>
    rcases List.mem_pair.1 hv with rfl | rfl
    · exact .inl rfl
    · exact .inl rfl
  | upper hv =>
    rcases List.mem_pair.1 hv with rfl | rfl
    · exact .inr (.inl rfl)
    · exact .inr (.inl rfl)
  | rhs hc =>
    obtain rfl := List.mem_singleton.1 hc
    exact .inl rfl
  | coefficient hc whole ht =>
    obtain rfl := List.mem_singleton.1 hc
    obtain rfl := LinearForm.whole.inj whole
    obtain rfl := List.mem_singleton.1 ht
    exact .inr (.inr rfl)
  | objective given => simp [gatedMultiple] at given

/-- A multiple at the limit is taken, and one beyond it is refused. -/
theorem ofModel_refused_iff_atLimit :
    (∃ fault, ofModel (gatedMultiple 1000001) = .error fault ∧ fault.kind = .configuration) ∧
      ∃ p, ofModel (gatedMultiple 1000000) = .ok p := by
  have sound (k : Int) (small : k.natAbs < Nat.pow 2 1000) :=
    ofModel_refused_iff (isSound_gatedMultiple k) (isIntegral_gatedMultiple k)
      (nodup_gatedMultiple k)
  have possible {k : Int} (small : k.natAbs < Nat.pow 2 1000) :
      ofModel (gatedMultiple k) ≠ .error .numberTooLarge := by
    intro failed
    rcases (sound k small).2.1 _ failed with ⟨-, n, listed, isLarge⟩ | ⟨i, -, same, -⟩
    · rcases hasNumber_gatedMultiple listed with rfl | rfl | rfl
      · exact absurd isLarge (by decide +kernel)
      · exact absurd isLarge (by decide +kernel)
      · exact absurd isLarge (Nat.not_le.2 small)
    · exact i.refusal_ne_numberTooLarge same.symm
  constructor
  · obtain ⟨limited, refused, -⟩ := sound 1000001 (by decide +kernel)
    obtain ⟨fault, failed⟩ := (limited (possible (by decide +kernel))).2
      ⟨_, (overshoots_gatedMultiple_iff _ (by decide)).2 ⟨rfl, by decide⟩⟩
    refine ⟨fault, failed, ?_⟩
    rcases refused fault failed with ⟨rfl, -⟩ | ⟨i, overshoots, -, configuration⟩
    · exact absurd failed (possible (by decide +kernel))
    · obtain ⟨rfl, -⟩ := (overshoots_gatedMultiple_iff _ (by decide)).1 overshoots
      exact configuration (by decide +kernel)
  · obtain ⟨limited, -⟩ := sound 1000000 (by decide +kernel)
    cases made : ofModel (gatedMultiple 1000000) with
    | ok p => exact ⟨p, rfl⟩
    | error fault =>
      obtain ⟨i, overshoots⟩ := (limited (possible (by decide +kernel))).1 ⟨fault, made⟩
      exact absurd ((overshoots_gatedMultiple_iff _ (by decide)).1 overshoots).2 (by decide)

/-- A number that no double is as large as is found before its multiple is looked at. -/
theorem not_ofModel_refused_iff :
    ¬ ∀ m : Model, m.IsSound → m.IsIntegral →
      (∀ c ∈ m.constraints, c.gate ≠ none ∨ c.operator = .known .ne → c.sum.vars.Nodup) →
      ((∃ fault, ofModel m = .error fault ∧ fault.kind = .configuration) ↔
        ∃ i, m.Overshoots i) := by
  intro refused
  obtain ⟨k, beyond, exceeds⟩ : ∃ k, held k = .error .numberTooLarge ∧ bigMLimit < k :=
    ⟨_, held_huge, by decide +kernel⟩
  have nonneg : 0 ≤ k := Int.le_of_lt (Int.lt_trans (by decide) exceeds)
  have failed : ofModel (gatedMultiple k) = .error .numberTooLarge := by
    have zero : held 0 = .ok 0 := held_of_lt (by decide)
    have one : held 1 = .ok 1 := held_of_lt (by decide)
    simp [ofModel, ofConstraints, gatedMultiple, add, LinearForm.terms, compare, atMost, columnsOf,
      beyond, requireHeldBounds, zero, one, factor, enabler]
  obtain ⟨fault, same, configuration⟩ := (refused _ (isSound_gatedMultiple k)
    (isIntegral_gatedMultiple k) (nodup_gatedMultiple k)).2
    ⟨_, (overshoots_gatedMultiple_iff k nonneg).2 ⟨rfl, exceeds⟩⟩
  rw [failed] at same
  obtain rfl := Except.error.inj same
  exact absurd configuration (by decide)

end Multiple

end RowProgram

end IntegerProgram
