import IntegerProgram.Proofs.Answer
import Mathlib.Algebra.Order.Ring.Rat
import Mathlib.Tactic.Linarith

/-!
# Reading an answer back

A solver of rows answers with numbers that need not be whole, and only for the variables that occur.
If the numbers are near a point at which the rows hold then they are rounded to it, and the
variables that do not occur can have any values within their bounds: the constraints say nothing of
them. So what is read passes the check of all bounds and constraints.

## Main definitions

* `Value.IsNear`: a number that is nearer to an integer than half a unit.
* `RowProgram.Answer.IsNear`: an answer near a point.
* `Valuation.Completes`: values of a solution that agrees with a point where that is known.

## Main statements

* `nearestInteger_of_abs_sub_lt`: a rational near an integer is rounded to it.
* `RowProgram.Answer.outcome_verified`: what is read from an answer near a point is verified.
-/
namespace IntegerProgram

/-- Rounding leaves a rational within half a unit. -/
theorem nearestInteger_close (q : Rat) :
    2 * (nearestInteger q * q.den) ≤ 2 * q.num + q.den ∧
      2 * q.num ≤ 2 * (nearestInteger q * q.den) + q.den := by
  obtain ⟨above, below⟩ := two_mul_roundHalfEven_le q.num.natAbs q.den q.den_pos
  rw [Nat.mul_assoc] at above below
  have product (r : Nat) : (r : Int) * q.den = (q.den * r : Nat) := by
    rw [Nat.cast_mul, Int.mul_comm]
  simp only [nearestInteger]
  split
  · rw [Int.neg_mul, product]
    omega
  · rw [product]
    omega

/-- **What is nearer to an integer than half a unit is rounded to it.** -/
theorem nearestInteger_of_abs_sub_lt {q : Rat} {n : Int} (near : |q - n| < 1 / 2) :
    nearestInteger q = n := by
  have positive : (0 : Rat) < q.den := Nat.cast_pos.2 q.den_pos
  have scaled : (q - n) * q.den = q.num - n * q.den := by
    rw [sub_mul, Rat.mul_den_eq_num]
  obtain ⟨below, above⟩ := abs_lt.1 near
  -- the distance in units of the denominator
  have less : -(q.den : Int) < 2 * (q.num - n * q.den) := by
    have bound := mul_lt_mul_of_pos_right below positive
    rw [scaled] at bound
    have twice : -(q.den : Rat) < 2 * (q.num - n * q.den) := by linarith
    exact_mod_cast twice
  have more : 2 * (q.num - n * q.den) < q.den := by
    have bound := mul_lt_mul_of_pos_right above positive
    rw [scaled] at bound
    have twice : 2 * ((q.num : Rat) - n * q.den) < q.den := by linarith
    exact_mod_cast twice
  have close := nearestInteger_close q
  have den : (0 : Int) < q.den := Int.natCast_pos.2 q.den_pos
  have apart : (nearestInteger q - n) * q.den < 1 * q.den ∧
      (-1) * q.den < (nearestInteger q - n) * q.den := by
    rw [Int.sub_mul]
    omega
  have least := Int.lt_of_mul_lt_mul_right apart.1 (Int.le_of_lt den)
  have most := Int.lt_of_mul_lt_mul_right apart.2 (Int.le_of_lt den)
  omega

/-- A number that is nearer to an integer than half a unit. -/
inductive Value.IsNear (n : Int) : Value → Prop where
  | float {x : Binary64} {q : Rat} (finite : x.toRat? = some q) (near : |q - n| < 1 / 2) :
      IsNear n (.float x)
  | int : IsNear n (.int n)

/-- Values of a solution of a model that agrees with a point on the columns of a program. -/
structure Valuation.Completes (values : Valuation) (p : RowProgram) (m : Model) (x z : Point) :
    Prop where
  /-- Every variable has an integer. -/
  integers : values.IsAt z m.vars
  /-- It lies within the bounds. -/
  within : z.IsWithin m.vars
  /-- Every constraint is satisfied. -/
  satisfied : ∀ c ∈ m.constraints, c.isSatisfied values = .ok true
  /-- The variables that occur have the values of the point. -/
  written : ∀ v ∈ m.vars, .structural v.index ∈ p.columns → z v.index = x v.index
  /-- The objective does not depend on the others. -/
  objective : ∀ f sense, m.objective = some ⟨f, sense⟩ → ∀ w : Point, w.IsWithin m.vars →
    (∀ v ∈ m.vars, .structural v.index ∈ p.columns → w v.index = x v.index) →
    f.evaluate values = f.evaluate w.valuation

namespace RowProgram

/-- An answer with a point, which gives every variable that occurs a number near its value. -/
structure Answer.IsNear (a : Answer) (p : RowProgram) (x : Point) : Prop where
  code : (statusOf a.code).hasPoint = true
  near : ∀ i, .structural i ∈ p.columns → ∃ value, a.values i = some value ∧ value.IsNear (x i)

variable {p : RowProgram} {a : Answer} {m : Model} {c : Config} {x z w : Point}

/-- A number near an integer is read as it. -/
theorem nearest_of_isNear {n : Int} {value : Value} (near : value.IsNear n) :
    nearest value = .ok n := by
  cases near with
  | int => rfl
  | @float x q finite near =>
    have isFinite : x.isFinite = true := by
      cases x <;> simp_all [Binary64.toRat?, Binary64.isFinite]
    rw [nearest, if_pos isFinite, finite, Option.getD_some, nearestInteger_of_abs_sub_lt near]
    rfl

/-- The value of an objective depends on its variables that occur only. -/
theorem value_congr_of_columns {sum : WeightedSum} {sense : Sense}
    (given : m.objective = some ⟨.whole sum, sense⟩) (made : ofModel m = .ok p)
    (same : ∀ v ∈ sum.vars, .structural v.index ∈ p.columns → z v.index = w v.index) :
    sum.value z = sum.value w := by
  obtain ⟨-, objective⟩ := objective_of_ofModel given made
  rw [← objectiveValue_columns fun _ => 0, ← objectiveValue_columns fun _ => 0]
  refine objectiveValue_congr fun t ht => ?_
  have occurs := mem_columns_of_objective objective ht
  simp only [valueTerms, WeightedSum.columns, List.map_map, List.mem_map] at ht
  obtain ⟨u, hu, rfl⟩ := ht
  exact same u.1 (List.mem_map_of_mem (List.mem_of_mem_filter hu)) occurs

/-- What is read from an answer near a point: the point itself, with values within the bounds for
the variables that do not occur. -/
theorem Answer.IsNear.outcome_eq (H : m.IsWellFormed) (near : a.IsNear p x)
    (possible : p.impossible = false) (side : Nat → Int) (c : Config) :
    ∃ values timedOut, values.IsAt (p.pointOf m (Column.value x side)) m.vars ∧
      a.outcome p m c = do
        return { status := statusOf a.code, timedOut, values, objective := ← a.objective p } := by
  have read := mapM_entry (y := Column.value x side) H fun i occurs => by
    obtain ⟨value, present, close⟩ := near.near i occurs
    exact ⟨value, present, nearest_of_isNear close⟩
  have point := near.code
  refine ⟨_, ?timedOut, Valuation.isAt_ofEntries _ m.vars, ?answered⟩
  case answered =>
    simp only [Answer.outcome, possible, Bool.false_eq_true, if_false, point, if_true, read,
      ok_bind]
    rfl

/-- **What is read from an answer near a point is verified.** Whichever values the solver gives near
a point at which the rows hold, the values that are read make up a solution of the model, with which
the engine answers if it can compute the objective. -/
theorem Answer.outcome_verified (H : m.IsWellFormed)
    (posed : ∀ f sense, m.objective = some ⟨f, sense⟩ →
      ∃ sum : WeightedSum, f = .whole sum ∧ ∀ v ∈ sum.vars, v ∈ m.vars)
    (made : ofModel m = .ok p)
    (unaltered : ofConstraints held m.constraints = ofConstraints pure m.constraints)
    {side : Nat → Int} (feasible : p.Admits (Column.value x side)) (within : x.IsWithin m.vars)
    (near : a.IsNear p x) (c : Config) :
    ∃ values timedOut z, values.Completes p m x z ∧ Session.verify m values = .ok () ∧
      a.outcome p m c = do
        return { status := statusOf a.code, timedOut, values, objective := ← a.objective p } := by
  obtain ⟨values, timedOut, at_, answered⟩ := near.outcome_eq H feasible.possible side c
  have point : p.IsPoint m (Column.value x side) :=
    ⟨fun v hv _ => within v hv, feasible.sides, feasible.rows⟩
  obtain ⟨inner, inside⟩ := point.pointOf H
  have admitted : m.Admits (p.pointOf m (Column.value x side)) :=
    (admits_iff H made unaltered).2 ⟨feasible.possible, _, inner, inside⟩
  have verified := (H.verify_iff at_).2 admitted
  have written (i : Int) (occurs : .structural i ∈ p.columns) :
      p.pointOf m (Column.value x side) i = x i := by
    rw [pointOf, if_pos occurs, Column.value]
  refine ⟨values, timedOut, _, ⟨at_, inside, (Session.verify_eq_ok.1 verified).2,
    fun v _ occurs => written v.index occurs, ?_⟩, verified, answered⟩
  intro f sense given w _ agrees
  obtain ⟨sum, rfl, own⟩ := posed f sense given
  have same : sum.value (p.pointOf m (Column.value x side)) = sum.value w := by
    refine value_congr_of_columns given made fun v hv occurs => ?_
    rw [written _ occurs, agrees v (own v hv) occurs]
  rw [LinearForm.evaluate, LinearForm.evaluate, at_.evaluate own, sum.evaluate_valuation, same]

/-- One variable occurs in a row and is answered with one and three quarters; the other one is kept
from a value that it cannot have anyway. -/
theorem Answer.outcome_verified_dropped :
    ∃ (m : Model) (p : RowProgram) (a : Answer) (values : Valuation) (z : Point),
      ofModel m = .ok p ∧ m.vars.length = 2 ∧ m.constraints.length = 2 ∧ p.rows.length = 1 ∧
        a.values 0 = some (.float (.finite false 7881299347898368 (-52))) ∧
        values.Completes p m (fun i => if i = 0 then 2 else -2) z ∧
        Session.verify m values = .ok () := by
  let x : Variable := ⟨⟨0, 0⟩, 0, "x", 0, 3, none⟩
  let y : Variable := ⟨⟨0, 1⟩, 1, "y", -3, -1, none⟩
  let first : Constraint := ⟨.whole ⟨[(x, 1)]⟩, .known .ge, 2, none, .text ""⟩
  let second : Constraint := ⟨.whole ⟨[(y, 1)]⟩, .known .ne, 5, none, .text ""⟩
  let m : Model := { vars := [x, y], constraints := [first, second] }
  let a : Answer := ⟨2, fun _ => some (.float (.finite false 7881299347898368 (-52)))⟩
  have wellFormed : m.IsWellFormed := by
    refine ⟨?_, by simp [m, x, y], by simp [m, x, y], ?_⟩
    · rintro (_ | _ | i) w ⟨⟩
      · rfl
      · rfl
    · simp only [m, List.forall_mem_cons]
      exact ⟨⟨⟨_, rfl, by simp⟩, ⟨_, rfl⟩, by simp [first]⟩,
        ⟨⟨_, rfl, by simp⟩, ⟨_, rfl⟩, by simp [second]⟩, by simp⟩
  have unaltered : ofConstraints held [first, second] = ofConstraints pure [first, second] := by
    apply ofConstraints_held
    simp only [List.forall_mem_cons]
    exact ⟨show 3 + 2000000 < Nat.pow 2 53 by decide, show 6 + 2000000 < Nat.pow 2 53 by decide,
      by simp⟩
  have made : ofModel m = .ok { rows := [⟨[(.structural 0, .int 1)], .ge, 2⟩] } := by
    have finite (n : Int) (small : n.natAbs < Nat.pow 2 53) : held n = .ok n := held_of_lt small
    simp [ofModel, ofConstraints, m, x, y, first, second, add, LinearForm.terms, compare, atLeast,
      different, columnsOf, requireHeldBounds, finite, WeightedSum.columns, valueTerms, push,
      LinearForm.bounds, WeightedSum.bounds, WeightedSum.low, WeightedSum.high,
      WeightedSum.termBounds]
  have feasible : ({ rows := [⟨[(.structural 0, .int 1)], .ge, 2⟩] } : RowProgram).Admits
      (Column.value (fun i => if i = 0 then 2 else -2) fun _ => 0) := by
    refine ⟨rfl, by simp, ?_⟩
    simp [Row.Holds, Row.wholeTerms, Column.value]
  have near : a.IsNear { rows := [⟨[(.structural 0, .int 1)], .ge, 2⟩] }
      fun i => if i = 0 then 2 else -2 := by
    refine ⟨rfl, fun i occurs => ⟨_, rfl, ?_⟩⟩
    obtain rfl : i = 0 := by simpa [columns] using occurs
    exact .float (q := 7 / 4) (by decide +kernel) (by norm_num)
  obtain ⟨values, -, z, completes, verified, -⟩ := Answer.outcome_verified wellFormed
    (by simp [m]) made unaltered feasible (by simp [m, x, y, Point.IsWithin, Variable.admits]) near
    {}
  exact ⟨m, _, a, values, z, made, rfl, rfl, rfl, rfl, completes, verified⟩

/-- Without the condition that constants are held as they are, a point at which the rows hold may be
read back and found not to satisfy a constraint. -/
theorem Answer.not_outcome_verified :
    ¬ ∀ (m : Model) (p : RowProgram) (a : Answer) (x : Point) (side : Nat → Int) (c : Config)
      (o : Outcome), m.IsWellFormed → m.objective = none → ofModel m = .ok p →
      p.Admits (Column.value x side) → x.IsWithin m.vars → a.IsNear p x →
      a.outcome p m c = .ok o → ∀ con ∈ m.constraints, con.isSatisfied o.values = .ok true := by
  intro verified
  let v : Variable := ⟨⟨0, 0⟩, 0, "x", 0, 18014398509481984, none⟩
  let c : Constraint := ⟨.whole ⟨[(v, 1)]⟩, .known .eq, 9007199254740993, none, .text ""⟩
  let m : Model := { vars := [v], constraints := [c] }
  let p : RowProgram := { rows := [⟨[(.structural 0, .int 1)], .eq, 9007199254740992⟩] }
  let a : Answer := ⟨1, fun _ => some (.int 9007199254740992)⟩
  have wellFormed : m.IsWellFormed := by
    refine ⟨?_, by simp [m, v], by simp [m, v], ?_⟩
    · intro i w found
      obtain ⟨rfl, rfl⟩ : i = 0 ∧ w = v := by
        simpa [m, List.getElem?_singleton, eq_comm] using found
      rfl
    · rw [List.forall_mem_singleton]
      exact ⟨⟨_, rfl, by simp [m]⟩, ⟨_, rfl⟩, by simp [c]⟩
  have made : ofModel m = .ok p := by
    have finite (n : Int) (small : n.natAbs < Nat.pow 2 53) : held n = .ok n := held_of_lt small
    have bound : held 18014398509481984 = .ok 18014398509481984 := by
      have kept : significant 18014398509481984 = 18014398509481984 := by decide
      rw [held, kept, if_pos (by decide)]
      rfl
    simp [ofModel, ofConstraints, m, p, v, c, add, LinearForm.terms, compare, equal, columnsOf,
      requireHeldBounds, finite, bound, held_uneven, WeightedSum.columns, valueTerms, push]
  have feasible : p.Admits (Column.value (fun _ => 9007199254740992) fun _ => 0) := by
    refine ⟨rfl, by simp [p], ?_⟩
    simp [p, Row.Holds, Row.wholeTerms, Column.value]
  have near : a.IsNear p fun _ => 9007199254740992 := ⟨rfl, fun i _ => ⟨_, rfl, .int⟩⟩
  have read := near.outcome_eq wellFormed rfl (fun _ => 0) {}
  obtain ⟨values, timedOut, at_, answered⟩ := read
  have total : a.objective p = .ok .none := rfl
  rw [total] at answered
  have satisfied := verified m p a _ _ {} _ wellFormed rfl made feasible
    (by simp [m, v, Point.IsWithin, Variable.admits]) near answered c (List.mem_singleton_self c)
  rw [(wellFormed.constraints c (List.mem_singleton_self c)).isSatisfied_congr at_,
    (wellFormed.constraints c (List.mem_singleton_self c)).isSatisfied_iff] at satisfied
  simp [c, v, p, Constraint.Holds, Operator.Relates, Comparison.holds, pointOf, Column.value,
    columns] at satisfied

end RowProgram

end IntegerProgram
