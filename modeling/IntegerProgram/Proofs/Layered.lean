import IntegerProgram.Proofs.Implication
import Mathlib.Data.List.Induction
import Mathlib.Logic.Function.Basic

/-!
# Implications that build on earlier ones

An implication may mention the indicators of earlier implications, but its own indicator comes after
every variable that it or an earlier one mentions. So the values of the other variables settle those
of all indicators, one after the other, and in one way only.

## Main definitions

* `IsLayered`: implications of which each has a new indicator.
* `settle`: a point with the indicators set in order.

## Main statements

* `IsLayered.settle_indicator`: at a settled point every indicator tells the truth.
* `eq_of_truth`: no other point with the same values of the other variables is like this.
-/
namespace IntegerProgram

/-- The variables of an implication besides its indicator. -/
def Implication.inputs (i : Implication) : List Variable :=
  i.premise.sum.vars ++ i.consequence.sum.vars

/-- Implications of which each has an indicator that comes after all variables that it and the
earlier ones mention. -/
structure IsLayered (is : List Implication) : Prop where
  own : ∀ i ∈ is, ∀ v ∈ i.inputs, v.index < i.indicator.index
  earlier : is.Pairwise fun i j =>
    i.indicator.index < j.indicator.index ∧ ∀ v ∈ i.inputs, v.index < j.indicator.index

/-- The point at which an indicator has been set to the truth of its consequence. -/
def settleOne (x : Point) (i : Implication) : Point :=
  Function.update x i.indicator.index (i.truth x)

/-- The point at which all indicators have been set, in order, to the truth of their consequences.
-/
def settle (is : List Implication) (x : Point) : Point := is.foldl settleOne x

variable {is : List Implication} {i : Implication} {x y z : Point}

theorem Implication.IsOver.inputs {vs : List Variable} (H : i.IsOver vs) :
    ∀ v ∈ i.inputs, v ∈ vs := by
  intro v hv
  rcases List.mem_append.1 hv with premise | consequence
  · exact H.premise v premise
  · exact H.consequence v consequence

theorem IsLayered.nil : IsLayered [] := ⟨by simp, .nil⟩

/-- An implication over given variables may follow, with an indicator that comes after them all. -/
theorem IsLayered.snoc {vs : List Variable} (L : IsLayered is) (covered : ∀ j ∈ is, j.IsOver vs)
    (inputs : ∀ v ∈ i.inputs, v ∈ vs) (after : ∀ v ∈ vs, v.index < i.indicator.index) :
    IsLayered (is ++ [i]) := by
  refine ⟨?_, List.pairwise_append.2 ⟨L.earlier, List.pairwise_singleton _ _, ?_⟩⟩
  · intro j hj v hv
    rcases List.mem_append.1 hj with old | new
    · exact L.own j old v hv
    · obtain rfl := List.mem_singleton.1 new
      exact after v (inputs v hv)
  · intro j hj k hk
    obtain rfl := List.mem_singleton.1 hk
    exact ⟨after _ (covered j hj).indicator, fun v hv => after v ((covered j hj).inputs v hv)⟩

theorem Implication.truth_congr (same : ∀ v ∈ i.inputs, x v.index = y v.index) :
    i.truth x = i.truth y := by
  have consequence : i.consequence.holds x = i.consequence.holds y :=
    LinearRelation.holds_congr fun v hv => same v (List.mem_append_right _ hv)
  rw [truth, truth, consequence]

@[simp] theorem settle_nil (x : Point) : settle [] x = x := rfl

@[simp] theorem settle_append (is js : List Implication) (x : Point) :
    settle (is ++ js) x = settle js (settle is x) :=
  List.foldl_append

@[simp] theorem settle_singleton (i : Implication) (x : Point) : settle [i] x = settleOne x i := rfl

theorem settleOne_of_ne {n : Int} (other : n ≠ i.indicator.index) : settleOne x i n = x n :=
  Function.update_of_ne other _ _

/-- Settling sets nothing but indicators. -/
theorem settle_of_notMem {n : Int} (other : ∀ i ∈ is, i.indicator.index ≠ n) :
    settle is x n = x n := by
  induction is generalizing x with
  | nil => rfl
  | cons i is ih =>
    rw [List.forall_mem_cons] at other
    have rest := ih (x := settleOne x i) other.2
    rw [settleOne_of_ne (Ne.symm other.1)] at rest
    exact rest

/-- **At a settled point every indicator tells the truth of its consequence.** -/
theorem IsLayered.settle_indicator (L : IsLayered is) :
    ∀ i ∈ is, settle is x i.indicator.index = i.truth (settle is x) := by
  induction is using List.reverseRecOn with
  | nil => simp
  | append_singleton is j ih =>
    obtain ⟨own, earlier⟩ := L
    rw [List.pairwise_append] at earlier
    obtain ⟨among, -, last⟩ := earlier
    have before := ih ⟨fun i hi => own i (List.mem_append_left _ hi), among⟩
    rw [settle_append, settle_singleton]
    intro i hi
    -- what the last indicator is set to is seen by no implication
    have unseen : i.truth (settleOne (settle is x) j) = i.truth (settle is x) := by
      apply Implication.truth_congr
      intro v hv
      apply settleOne_of_ne
      rcases List.mem_append.1 hi with old | new
      · exact Int.ne_of_lt ((last i old j (List.mem_singleton_self j)).2 v hv)
      · obtain rfl := List.mem_singleton.1 new
        exact Int.ne_of_lt (own i hi v hv)
    rw [unseen]
    rcases List.mem_append.1 hi with old | new
    · rw [settleOne_of_ne (Int.ne_of_lt (last i old j (List.mem_singleton_self j)).1)]
      exact before i old
    · obtain rfl := List.mem_singleton.1 new
      exact Function.update_self ..

/-- **Where all indicators tell the truth, they are determined by the other variables.** -/
theorem eq_of_truth {vs : List Variable}
    (own : ∀ i ∈ is, ∀ v ∈ i.inputs, v.index < i.indicator.index)
    (inputs : ∀ i ∈ is, ∀ v ∈ i.inputs, v ∈ vs) (bounded : ∀ v ∈ vs, 0 ≤ v.index)
    (same : ∀ v ∈ vs, (∀ i ∈ is, i.indicator.index ≠ v.index) → y v.index = z v.index)
    (truthY : ∀ i ∈ is, y i.indicator.index = i.truth y)
    (truthZ : ∀ i ∈ is, z i.indicator.index = i.truth z) :
    ∀ v ∈ vs, y v.index = z v.index := by
  suffices below : ∀ n : Nat, ∀ v ∈ vs, v.index < n → y v.index = z v.index by
    intro v hv
    exact below (v.index.toNat + 1) v hv (by omega)
  intro n
  induction n with
  | zero =>
    intro v hv less
    have := bounded v hv
    omega
  | succ n ih =>
    intro v hv less
    by_cases indicator : ∃ i ∈ is, i.indicator.index = v.index
    · obtain ⟨i, hi, index⟩ := indicator
      rw [← index, truthY i hi, truthZ i hi]
      apply Implication.truth_congr
      intro w hw
      have := own i hi w hw
      exact ih w (inputs i hi w hw) (by omega)
    · exact same v hv (by simpa using indicator)

end IntegerProgram
