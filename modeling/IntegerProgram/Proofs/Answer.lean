import IntegerProgram.Program.Engine
import IntegerProgram.Proofs.Gated
import IntegerProgram.Proofs.Rows
import IntegerProgram.Proofs.Verification

/-!
# Exact answers

A solver is exact if it answers a program with an optimal point, or says that there is none. What
an engine makes of an exact answer is an optimum of the model that the program is of. A solver of
rows knows no columns but those that occur; the others get values of their own, which change nothing
of what the rows say.

## Main definitions

* `Model.IsOptimum`: an optimal point of a model.
* `GatedProgram.IsExact`, `RowProgram.IsExact`: exact answers to programs.
* `Outcome.IsExact`: an outcome that tells of an optimum, or that there is none.
* `Solver.IsExact`: a solver that answers the program of a model exactly.

## Main statements

* `Solver.IsExact.engine`: an engine with an exact solver has an exact outcome.
-/
namespace IntegerProgram

/-- Whether a value of an objective is at least as good as another. -/
def Sense.Prefers : Sense → Int → Int → Prop
  | minimize, a, b => a ≤ b
  | maximize, a, b => b ≤ a

/-- An optimal point of a model. -/
structure Model.IsOptimum (m : Model) (sum : WeightedSum) (sense : Sense) (x : Point) : Prop where
  admits : m.Admits x
  best : ∀ z, m.Admits z → sense.Prefers (sum.value x) (sum.value z)

/-- An exact answer to a gated program. -/
inductive GatedProgram.IsExact (p : GatedProgram) (a : GatedProgram.Answer) : Prop where
  | optimal (x : Point) (admits : p.Admits x)
      (best : ∀ sense terms, p.objective = some (sense, terms) → ∀ z, p.Admits z →
        sense.Prefers (termsValue terms x) (termsValue terms z))
      (status : a.status = some .optimal)
      (values : ∀ i < p.domains.length, a.values[i]? = some (.int (x i)))
  | infeasible (void : ∀ z, ¬p.Admits z) (status : a.status = some .infeasible)

/-- What a solver of rows is asked for: values of columns within the bounds of the variables that
occur, with choices of side, at which every row holds. -/
structure RowProgram.IsPoint (p : RowProgram) (m : Model) (y : Column → Int) : Prop where
  bounds : ∀ v ∈ m.vars, .structural v.index ∈ p.columns →
    v.admits (y (.structural v.index)) = true
  sides : ∀ n < p.sides, y (.side n) = 0 ∨ y (.side n) = 1
  rows : ∀ r ∈ p.rows, r.Holds y

/-- The value of an objective over columns, of which only the whole coefficients count. -/
def RowProgram.objectiveValue (terms : List (Column × Value)) (y : Column → Int) : Int :=
  columnsValue (terms.map fun t => (t.1, t.2.whole)) y

/-- An exact answer to a program of rows. Its numbers are those that are read as integers, and the
objective can be computed with them. -/
inductive RowProgram.IsExact (p : RowProgram) (m : Model) (a : RowProgram.Answer) : Prop where
  | optimal (y : Column → Int) (point : p.IsPoint m y)
      (best : ∀ terms, p.objective = some terms → ∀ z, p.IsPoint m z →
        p.sense.Prefers (objectiveValue terms y) (objectiveValue terms z))
      (code : a.code = 1)
      (values : ∀ i, .structural i ∈ p.columns →
        ∃ value, a.values i = some value ∧ nearest value = .ok (y (.structural i)))
      (total : ∃ value, a.objective p = .ok value)
  | infeasible (void : ∀ z, ¬p.IsPoint m z) (code : a.code = -1)

/-- An outcome that tells of an optimum of a model, or that there is none. -/
inductive Outcome.IsExact (o : Outcome) (m : Model) (sum : WeightedSum) (sense : Sense) : Prop where
  | optimal (x : Point) (optimum : m.IsOptimum sum sense x) (status : o.status = .optimal)
      (values : o.values.IsAt x m.vars)
  | infeasible (void : ∀ z, ¬m.Admits z) (status : o.status = .infeasible)
      (timedOut : o.timedOut = false)

variable {m : Model} {c : Config} {sum : WeightedSum} {sense : Sense}

/-- Entries by variable give each variable its value. -/
theorem Valuation.isAt_ofEntries (x : Point) (vs : List Variable) :
    (Valuation.ofEntries (vs.map fun v => (v.index, .int (x v.index)))).IsAt x vs := by
  intro v hv
  rw [ofEntries]
  cases found : (vs.map fun v => (v.index, Value.int (x v.index))).reverse.find?
      fun e => e.1 = v.index with
  | none =>
    rw [List.find?_eq_none] at found
    have listed := found (v.index, .int (x v.index))
      (List.mem_reverse.2 (List.mem_map_of_mem (f := fun v => (v.index, Value.int (x v.index))) hv))
    simp at listed
  | some e =>
    obtain ⟨w, -, rfl⟩ := List.mem_map.1 (List.mem_reverse.1 (List.mem_of_find?_eq_some found))
    have same : w.index = v.index := by simpa using List.find?_some found
    simp [same]

namespace GatedProgram

variable {p : GatedProgram} {a : GatedProgram.Answer}

/-- The value of a variable in an answer, which lists integers in the order of the variables. -/
theorem valueAt_eq_ok (H : m.IsWellFormed) {x : Point}
    (values : ∀ i < m.vars.length, a.values[i]? = some (.int (x i))) {v : Variable}
    (hv : v ∈ m.vars) : a.valueAt m v.index = .ok (.int (x v.index)) := by
  have place := H.index_nonneg hv
  have own : (v.index.toNat : Int) = v.index := Int.toNat_of_nonneg place.1
  have listed := values v.index.toNat (by omega)
  rw [own] at listed
  rw [Answer.valueAt, H.variableAt?_index hv, placeOf_index H hv, listed]
  rfl

theorem mapM_entry (H : m.IsWellFormed) {x : Point}
    (values : ∀ i < m.vars.length, a.values[i]? = some (.int (x i))) :
    m.vars.mapM (a.entry m) = .ok (m.vars.map fun v => (v.index, .int (x v.index))) := by
  refine mapM_eq_ok_map fun v hv => ?_
  rw [Answer.entry, valueAt_eq_ok H values hv]
  rfl

/-- **What is made of an exact answer to a gated program**: an optimum of the model. -/
theorem IsExact.outcome (H : m.IsWellFormed) (given : m.objective = some ⟨.whole sum, sense⟩)
    (own : ∀ v ∈ sum.vars, v ∈ m.vars) (made : ofModel m = .ok p) (A : p.IsExact a) :
    ∃ o, a.outcome m c = .ok o ∧ o.IsExact m sum sense := by
  obtain ⟨p', made', domains, admits, objective⟩ := exists_ofModel H
  obtain rfl : p' = p := Except.ok.inj (made'.symm.trans made)
  obtain ⟨terms, objective, value⟩ := objective sum sense given own
  cases A with
  | optimal x admitted best status values =>
    have read := mapM_entry (a := a) H (by simpa [domains] using values)
    have outcome : ∃ o, a.outcome m c = .ok o ∧ o.status = .optimal ∧
        o.values = .ofEntries (m.vars.map fun v => (v.index, .int (x v.index))) := by
      simp [Answer.outcome, status, Status.hasPoint, read]
    obtain ⟨o, answered, optimal, listed⟩ := outcome
    refine ⟨o, answered, .optimal x ⟨(admits x).1 admitted, ?_⟩ optimal ?_⟩
    · intro z hz
      rw [← value, ← value]
      exact best sense terms objective z ((admits z).2 hz)
    · rw [listed]
      exact Valuation.isAt_ofEntries x m.vars
  | infeasible void status =>
    refine ⟨_, by simp only [Answer.outcome, status]; rfl, ?_⟩
    refine .infeasible (fun z hz => void z ((admits z).2 hz)) rfl ?_
    cases c.timeLimit <;> rfl

/-- An answer that lists an optimum of the model is exact. -/
theorem IsExact.of_isOptimum (H : m.IsWellFormed) (given : m.objective = some ⟨.whole sum, sense⟩)
    (own : ∀ v ∈ sum.vars, v ∈ m.vars) (made : ofModel m = .ok p) {x : Point}
    (optimum : m.IsOptimum sum sense x) (status : a.status = some .optimal)
    (values : ∀ i < m.vars.length, a.values[i]? = some (.int (x i))) : p.IsExact a := by
  obtain ⟨p', made', domains, admits, objective⟩ := exists_ofModel H
  obtain rfl : p' = p := Except.ok.inj (made'.symm.trans made)
  obtain ⟨terms, objective, value⟩ := objective sum sense given own
  refine .optimal x ((admits x).2 optimum.admits) ?_ status (by simpa [domains] using values)
  intro sense' terms' posed z hz
  obtain ⟨rfl, rfl⟩ := Prod.mk.inj (Option.some.inj (objective.symm.trans posed))
  rw [value, value]
  exact optimum.best z ((admits z).1 hz)

end GatedProgram

/-- The value within the bounds of a variable that is nearest to zero. -/
def Variable.nearestToZero (v : Variable) : Int := min v.upper (max v.lower 0)

theorem Variable.admits_nearestToZero {v : Variable} (nonempty : v.lower ≤ v.upper) :
    v.admits v.nearestToZero = true := by
  have within : v.lower ≤ v.nearestToZero ∧ v.nearestToZero ≤ v.upper := by
    rw [nearestToZero]
    omega
  simpa [admits] using within

namespace RowProgram

variable {p : RowProgram} {a : RowProgram.Answer} {y : Column → Int} {z : Point}

theorem defaultValue_eq_ok {v : Variable} (plain : v.declared = none) :
    defaultValue v = .ok (.int v.nearestToZero) := by
  have less (i j : Int) : (Value.int i).isLess (.int j) = .ok (decide (i < j)) :=
    Value.compares_int i j .lt
  simp only [defaultValue, Variable.declaration, plain, Option.getD_none, Value.ofDatum, less,
    ok_bind, pure_eq_ok, decide_eq_true_eq, Variable.nearestToZero]
  by_cases positive : 0 < v.lower
  · have same : max v.lower 0 = v.lower := by omega
    simp only [positive, if_true, same, less, ok_bind, decide_eq_true_eq]
    split <;> congr <;> omega
  · have same : max v.lower 0 = 0 := by omega
    simp only [positive, if_false, same, less, ok_bind, decide_eq_true_eq]
    split <;> congr <;> omega

/-- The point that values of columns describe. A variable that does not occur has the value within
its bounds that is nearest to zero. -/
def pointOf (p : RowProgram) (m : Model) (y : Column → Int) : Point := fun i =>
  if .structural i ∈ p.columns then y (.structural i)
  else ((m.variableAt? i).map Variable.nearestToZero).getD 0

/-- The point has the values of the columns that occur. -/
theorem value_pointOf {c : Column} (occurs : c ∈ p.columns) :
    Column.value (p.pointOf m y) (fun n => y (.side n)) c = y c := by
  cases c with
  | structural i =>
    rw [Column.value, pointOf, if_pos occurs]
  | side n => rfl

theorem mem_columns_of_row {r : Row} (hr : r ∈ p.rows) {t : Column × Value} (ht : t ∈ r.terms) :
    t.1 ∈ p.columns := by
  rw [columns, List.mem_eraseDups]
  exact List.mem_map_of_mem (List.mem_append_left _ (List.mem_flatMap.2 ⟨r, hr, ht⟩))

theorem mem_columns_of_objective {terms : List (Column × Value)} (given : p.objective = some terms)
    {t : Column × Value} (ht : t ∈ terms) : t.1 ∈ p.columns := by
  rw [columns, List.mem_eraseDups, given]
  exact List.mem_map_of_mem (List.mem_append_right _ ht)

/-- The rows say of the point what they say of the columns. -/
theorem IsPoint.pointOf (H : m.IsWellFormed) (Y : p.IsPoint m y) :
    p.IsPoint m (Column.value (p.pointOf m y) fun n => y (.side n)) ∧
      ∀ v ∈ m.vars, v.admits (p.pointOf m y v.index) = true := by
  refine ⟨⟨?_, Y.sides, ?_⟩, ?_⟩
  · intro v hv occurs
    rw [value_pointOf occurs]
    exact Y.bounds v hv occurs
  · intro r hr
    refine (Row.holds_congr fun t ht => ?_).2 (Y.rows r hr)
    exact value_pointOf (mem_columns_of_row hr ht)
  · intro v hv
    by_cases occurs : Column.structural v.index ∈ p.columns
    · rw [RowProgram.pointOf, if_pos occurs]
      exact Y.bounds v hv occurs
    · rw [RowProgram.pointOf, if_neg occurs, H.variableAt?_index hv]
      exact Variable.admits_nearestToZero (H.nonempty v hv)

/-- Terms have the same value for values that agree on their columns. -/
theorem objectiveValue_congr {terms : List (Column × Value)} {y z : Column → Int}
    (same : ∀ t ∈ terms, y t.1 = z t.1) : objectiveValue terms y = objectiveValue terms z := by
  rw [objectiveValue, objectiveValue]
  induction terms with
  | nil => rfl
  | cons t rest ih =>
    rw [List.forall_mem_cons] at same
    rw [List.map_cons, columnsValue_cons, columnsValue_cons, same.1, ih same.2]

/-- The rows of the program of a model are those of its constraints. -/
theorem rows_of_ofModel (made : ofModel m = .ok p) :
    ∃ q, ofConstraints held m.constraints = .ok q ∧ p.rows = q.rows ∧ p.sides = q.sides ∧
      p.impossible = q.impossible := by
  simp only [ofModel, bind_eq_ok, pure_eq_ok, Except.ok.injEq] at made
  obtain ⟨-, -, q, rows, -, -, rfl⟩ := made
  exact ⟨q, rows, rfl, rfl, rfl⟩

/-- The objective of the program of a model is that of the model. -/
theorem objective_of_ofModel (given : m.objective = some ⟨.whole sum, sense⟩)
    (made : ofModel m = .ok p) :
    p.sense = sense ∧ p.objective = some (valueTerms sum.columns) := by
  simp only [ofModel, given, Option.mapM_some, bind_eq_ok, pure_eq_ok, Except.ok.injEq,
    Option.map_some, Option.getD_some] at made
  obtain ⟨-, -, q, -, objective, listed, rfl⟩ := made
  refine ⟨rfl, ?_⟩
  cases columns : columnsOf (.whole sum) with
  | error fault => simp [columns] at listed
  | ok terms =>
    rw [columns, map_ok, Except.ok.injEq] at listed
    rw [← listed, columnsOf_whole columns]

/-- The objective of the program has the value of the model's. -/
theorem objectiveValue_columns (side : Nat → Int) :
    objectiveValue (valueTerms sum.columns) (Column.value z side) = sum.value z := by
  have whole : (valueTerms sum.columns).map (fun t => (t.1, t.2.whole)) = sum.columns :=
    wholeTerms_valueTerms sum.columns .le 0
  rw [objectiveValue, whole, columnsValue_columns]

/-- A program that is held as it is says of a model what the model says itself. -/
theorem admits_iff (H : m.IsWellFormed) (made : ofModel m = .ok p)
    (unaltered : ofConstraints held m.constraints = ofConstraints pure m.constraints) :
    m.Admits z ↔ p.impossible = false ∧ ∃ side, p.IsPoint m (Column.value z side) ∧
      ∀ v ∈ m.vars, v.admits (z v.index) = true := by
  obtain ⟨q, rows, sameRows, sameSides, sameImpossible⟩ := rows_of_ofModel made
  rw [unaltered] at rows
  constructor
  · rintro ⟨inside, holds⟩
    obtain ⟨side, possible, choice, met⟩ :=
      (ofConstraints_isFeasible_iff H.constraints inside rows).2.2 holds
    refine ⟨sameImpossible ▸ possible, side, ⟨fun v hv _ => inside v hv, ?_, ?_⟩, inside⟩
    · rw [sameSides]
      exact choice
    · rw [sameRows]
      exact met
  · rintro ⟨possible, side, point, inside⟩
    refine ⟨inside, (ofConstraints_isFeasible_iff H.constraints inside rows).2.1 ?_⟩
    exact ⟨side, sameImpossible ▸ possible, sameSides ▸ point.sides, sameRows ▸ point.rows⟩

/-- The values of the model's variables in an answer are those of the point. -/
theorem mapM_entry (H : m.IsWellFormed)
    (values : ∀ i, .structural i ∈ p.columns →
      ∃ value, a.values i = some value ∧ nearest value = .ok (y (.structural i))) :
    m.vars.mapM (a.entry p m) =
      .ok (m.vars.map fun v => (v.index, .int (p.pointOf m y v.index))) := by
  refine mapM_eq_ok_map fun v hv => ?_
  have value : readValue v (a.valueAt p v.index) = .ok (.int (p.pointOf m y v.index)) := by
    by_cases occurs : Column.structural v.index ∈ p.columns
    · obtain ⟨value, present, near⟩ := values v.index occurs
      simp [Answer.valueAt, occurs, present, readValue, near, pointOf]
    · simp [Answer.valueAt, occurs, readValue, defaultValue_eq_ok (H.declared v hv), pointOf,
        H.variableAt?_index hv]
  simp [Answer.entry, H.variableAt?_index hv, value]

/-- **An optimal point of the program is one of the model**, if the program is held as it is. -/
theorem isOptimum_pointOf (H : m.IsWellFormed) (given : m.objective = some ⟨.whole sum, sense⟩)
    (made : ofModel m = .ok p)
    (unaltered : ofConstraints held m.constraints = ofConstraints pure m.constraints)
    (possible : p.impossible = false) (point : p.IsPoint m y)
    (best : ∀ terms, p.objective = some terms → ∀ z, p.IsPoint m z →
      p.sense.Prefers (objectiveValue terms y) (objectiveValue terms z)) :
    m.IsOptimum sum sense (p.pointOf m y) := by
  obtain ⟨wanted, objective⟩ := objective_of_ofModel given made
  obtain ⟨inner, inside⟩ := point.pointOf H
  have value : objectiveValue (valueTerms sum.columns) y = sum.value (p.pointOf m y) := by
    rw [← objectiveValue_columns fun n => y (.side n)]
    refine objectiveValue_congr fun t ht => ?_
    exact (value_pointOf (mem_columns_of_objective objective ht)).symm
  constructor
  · exact (admits_iff H made unaltered).2 ⟨possible, _, inner, inside⟩
  · intro z hz
    obtain ⟨-, side, other, -⟩ := (admits_iff H made unaltered).1 hz
    have better := best _ objective _ other
    rwa [wanted, value, objectiveValue_columns] at better

/-- **What is made of an exact answer to a program of rows**: an optimum of the model. -/
theorem IsExact.outcome (H : m.IsWellFormed) (given : m.objective = some ⟨.whole sum, sense⟩)
    (made : ofModel m = .ok p)
    (unaltered : ofConstraints held m.constraints = ofConstraints pure m.constraints)
    (A : p.IsExact m a) : ∃ o, a.outcome p m c = .ok o ∧ o.IsExact m sum sense := by
  cases impossible : p.impossible with
  | true =>
    -- the answer does not count then
    have void (z : Point) : ¬m.Admits z := by simp [admits_iff H made unaltered, impossible]
    refine ⟨_, by simp only [Answer.outcome, impossible]; rfl, .infeasible void rfl ?_⟩
    cases c.timeLimit <;> rfl
  | false =>
    cases A with
    | optimal y point best code values total =>
      obtain ⟨total, computed⟩ := total
      have read := mapM_entry H values
      have outcome : ∃ o, a.outcome p m c = .ok o ∧ o.status = .optimal ∧
          o.values = .ofEntries (m.vars.map fun v => (v.index, .int (p.pointOf m y v.index))) := by
        simp [Answer.outcome, impossible, code, statusOf, Status.hasPoint, read, computed]
      obtain ⟨o, answered, optimal, listed⟩ := outcome
      refine ⟨o, answered, .optimal (p.pointOf m y) ?_ optimal ?_⟩
      · exact isOptimum_pointOf H given made unaltered impossible point best
      · rw [listed]
        exact Valuation.isAt_ofEntries _ m.vars
    | infeasible void code =>
      have void (z : Point) : ¬m.Admits z := by
        intro admitted
        obtain ⟨-, side, point, -⟩ := (admits_iff H made unaltered).1 admitted
        exact void _ point
      refine ⟨_, by simp only [Answer.outcome, impossible, code]; rfl, .infeasible void rfl ?_⟩
      cases c.timeLimit <;> rfl

end RowProgram

/-- A solver that answers the program of a model exactly. The settings can be used, and the program
of rows is held as it is. -/
inductive Solver.IsExact (s : Solver) (m : Model) (c : Config) : Prop where
  | gated (chosen : Backend.ofName c.backend = .ok .gated)
      (settings : ∃ parameters, GatedProgram.parameters c = .ok parameters)
      (exact : ∀ p, GatedProgram.ofModel m = .ok p → p.IsExact (s.gated p))
  | bigM (p : RowProgram) (chosen : Backend.ofName c.backend = .ok .bigM)
      (settings : ∃ options, RowProgram.options c = .ok options)
      (translated : RowProgram.ofModel m = .ok p)
      (unaltered : RowProgram.ofConstraints RowProgram.held m.constraints =
        RowProgram.ofConstraints pure m.constraints)
      (exact : p.IsExact m (s.rows p m))

/-- All coefficients of a well-formed model are whole. -/
theorem Model.IsWellFormed.requireWhole (H : m.IsWellFormed)
    (given : m.objective = some ⟨.whole sum, sense⟩) : m.requireWhole = .ok () := by
  have whole : (m.constraints.forM fun c => do let _ ← c.sum.asSum) = .ok () := by
    rw [forM_eq_ok]
    intro c hc
    obtain ⟨s, same, -⟩ := (H.constraints c hc).whole
    rw [same]
    rfl
  rw [Model.requireWhole, whole, given]
  rfl

/-- **An engine with an exact solver tells of an optimum**, or that there is none. -/
theorem Solver.IsExact.engine {s : Solver} (S : s.IsExact m c) (H : m.IsWellFormed)
    (given : m.objective = some ⟨.whole sum, sense⟩) (own : ∀ v ∈ sum.vars, v ∈ m.vars) :
    ∃ o, Config.engineWith s m c = .ok o ∧ o.IsExact m sum sense := by
  have whole := H.requireWhole given
  cases S with
  | gated chosen settings exact =>
    obtain ⟨p, made, -⟩ := GatedProgram.exists_ofModel H
    obtain ⟨parameters, set⟩ := settings
    obtain ⟨o, answered, told⟩ := (exact p made).outcome (c := c) H given own made
    refine ⟨o, ?_, told⟩
    simp [Config.engineWith, chosen, Backend.engineWith, Backend.runWith, Backend.runGated, made,
      whole, set, answered]
  | bigM p chosen settings translated unaltered exact =>
    obtain ⟨options, set⟩ := settings
    obtain ⟨o, answered, told⟩ := exact.outcome (c := c) H given translated unaltered
    refine ⟨o, ?_, told⟩
    simp [Config.engineWith, chosen, Backend.engineWith, Backend.runWith, Backend.runBigM,
      translated, whole, set, answered]

end IntegerProgram
