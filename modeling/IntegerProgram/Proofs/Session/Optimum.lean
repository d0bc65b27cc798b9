import IntegerProgram.Proofs.Answer
import IntegerProgram.Proofs.Session.Solution

/-!
# Solves with an exact solver

With an exact solver a session finds an optimal solution of all that it was asked for, or reports
that there is none. Which engine has been chosen makes no difference to that.

## Main definitions

* `Session.IsOptimum`: an optimal solution of a session.

## Main statements

* `Session.Run.solve_exact`: what a solve with an exact solver returns.
-/
namespace IntegerProgram.Session

variable {s t : Session} {log : List Event} {ds : List Demand} {x : Point}
  {keys coefficients : List Value} {sum : WeightedSum} {sense : Sense}
  {ending : Except Fault (List (Value × Value))}

/-- A solution at which a sum has the best value among all solutions. -/
structure IsOptimum (s : Session) (log : List Event) (sum : WeightedSum) (sense : Sense)
    (x : Point) : Prop where
  solution : s.IsSolution log x
  best : ∀ z, s.IsSolution log z → sense.Prefers (sum.value x) (sum.value z)

/-- An objective changes nothing of what a model admits. -/
theorem posed_admits_iff : (s.posed sum sense).model.Admits x ↔ s.model.Admits x :=
  ⟨fun ⟨bounds, holds⟩ => ⟨bounds, holds⟩, fun ⟨bounds, holds⟩ => ⟨bounds, holds⟩⟩

/-- What a session makes of an optimum of its model: values for all keys, which pass the check. -/
theorem IsCoherent.valuesAt_optimal (C : s.IsCoherent) {o : Outcome} (status : o.status = .optimal)
    (admitted : s.model.Admits x) (values : o.values.IsAt x s.model.vars) :
    s.valuesAt o = .ok (s.valuesIn x) := by
  have passed : verify s.model o.values = .ok () := (C.model.verify_iff values).2 admitted
  have read : s.valuesOf o.values = .ok (s.valuesIn x) := valuesOf_eq (C.inStep ▸ values)
  by_cases checks : s.config.verify.isTrue = true
  · simp [valuesAt, status, checks, passed, read]
  · simp [valuesAt, status, checks, read]

/-- **With an exact solver** a solve returns values just if there is a solution; these are an
optimal one, and without a solution it says so. -/
theorem Run.solve_exact (run : Run s log) (solver : Solver)
    (summed : s.sumOf keys coefficients (.text "") = .ok sum)
    (exact : solver.IsExact (s.posed sum sense).model s.config)
    (ran : (Session.solve (Config.engineWith solver) keys coefficients sense).on s = (ending, t)) :
    ((∃ values, ending = .ok values) ↔ ∃ x, s.IsSolution log x) ∧
      (∀ values, ending = .ok values →
        ∃ x, values = s.valuesIn x ∧ s.IsOptimum log sum sense x) ∧
      ((∀ x, ¬s.IsSolution log x) →
        ending = .error (.notOptimal .infeasible s.registry.names)) := by
  obtain ⟨ds, H⟩ := run.explained
  have C : (s.posed sum sense).IsCoherent := H.coherent.of_content (content_posed sum)
  have solves {z : Point} : (s.posed sum sense).model.Admits z ↔ s.IsSolution log z :=
    posed_admits_iff.trans H.isSolution_iff.symm
  have own : ∀ v ∈ sum.vars, v ∈ (s.posed sum sense).model.vars :=
    H.coherent.inStep ▸ mem_vars_of_sumOf summed
  obtain ⟨o, answered, told⟩ := exact.engine C.model rfl own
  obtain rfl : ending = (s.posed sum sense).valuesAt o := by
    rcases solve_cases H.coherent ran with ⟨fault, -, -, unsummed⟩ |
      ⟨sum', summed', ⟨fault, failed, -⟩ | ⟨o', r, answered', concluded, -⟩⟩
    · exact absurd summed (unsummed sum)
    · obtain rfl := Except.ok.inj (summed.symm.trans summed')
      simp [answered] at failed
    · obtain rfl := Except.ok.inj (summed.symm.trans summed')
      obtain rfl := Except.ok.inj (answered.symm.trans answered')
      exact concluded
  cases told with
  | optimal x optimum status values =>
    have returned := C.valuesAt_optimal status optimum.admits values
    rw [returned]
    have solution := solves.1 optimum.admits
    refine ⟨⟨fun _ => ⟨x, solution⟩, fun _ => ⟨_, rfl⟩⟩, ?_, fun none => absurd solution (none x)⟩
    rintro values ⟨⟩
    exact ⟨x, rfl, solution, fun z hz => optimum.best z (solves.2 hz)⟩
  | infeasible void status timedOut =>
    have failed : (s.posed sum sense).valuesAt o =
        .error (.notOptimal .infeasible s.registry.names) := by
      simp [valuesAt, status, failure, timedOut]
      rfl
    rw [failed]
    refine ⟨⟨by simp, ?_⟩, by simp, fun _ => rfl⟩
    rintro ⟨x, solution⟩
    exact absurd (solves.2 solution) (void x)

/-- A session that has a multiple of one key be at least as great as a number, which an engine that
knows only rows solves. -/
def withFloor (k n : Int) : Session :=
  let a : Variable := ⟨⟨0, 0⟩, 0, "a", 0, 3, none⟩
  { config := { backend := .text "cbc" }
    registry := ⟨[(.text "a", a)]⟩
    model := {
      vars := [a]
      constraints := [⟨.whole ⟨[(a, k)]⟩, .known .ge, n, none, .text "floor"⟩] } }

theorem exists_run_withFloor (k n : Int) : ∃ log, Run (withFloor k n) log := by
  have new : Run { config := { backend := .text "cbc" } } [] :=
    .new (show Session.new { backend := .text "cbc" } = .ok _ from rfl)
  have bound := new.next (.bind (.text "a") (.int 0) (.int 3) (.text "a")) none
    (by simp [Request.IsPossible, Value.key?]) rfl
  have enforced := bound.next
    (.enforce [.text "a"] [.int k] (.int n) (.relation .gte) (.text "floor")) none trivial rfl
  exact ⟨_, enforced⟩

/-- The least value of a key that is at least one. -/
theorem Run.solve_exact_least :
    ∃ log sum x, Run (withFloor 1 1) log ∧
      (withFloor 1 1).sumOf [.text "a"] [.int 1] (.text "") = .ok sum ∧
      (withFloor 1 1).IsOptimum log sum .minimize x ∧ x 0 = 1 := by
  obtain ⟨log, run⟩ := exists_run_withFloor 1 1
  let solver : Solver := ⟨GatedProgram.solve, fun _ _ => ⟨1, fun _ => some (.float (.ofInt 1))⟩⟩
  let sum : WeightedSum := ⟨[(⟨⟨0, 0⟩, 0, "a", 0, 3, none⟩, 1)]⟩
  let p : RowProgram :=
    { rows := [⟨[(.structural 0, .int 1)], .ge, 1⟩], objective := some [(.structural 0, .int 1)] }
  have summed : (withFloor 1 1).sumOf [.text "a"] [.int 1] (.text "") = .ok sum := rfl
  have exact :
      solver.IsExact ((withFloor 1 1).posed sum .minimize).model (withFloor 1 1).config := by
    refine .bigM p rfl ⟨_, rfl⟩ rfl rfl (.optimal (fun _ => 1) ⟨?_, ?_, ?_⟩ ?_ rfl ?_ ⟨_, rfl⟩)
    · simp [withFloor, posed, Variable.admits]
    · simp [p]
    · simp [p, RowProgram.Row.Holds, RowProgram.Row.wholeTerms]
    · rintro terms ⟨⟩ z point
      have floor : 1 ≤ z (.structural 0) := by
        simpa [p, RowProgram.Row.Holds, RowProgram.Row.wholeTerms] using point.rows
      simpa [p, Sense.Prefers, RowProgram.objectiveValue] using floor
    · exact fun i _ => ⟨_, rfl, rfl⟩
  obtain ⟨-, optimal, -⟩ := run.solve_exact solver summed exact (Prod.ext rfl rfl)
  obtain ⟨x, values, optimum⟩ := optimal [(.text "a", .int 1)] rfl
  have listed : [(Value.text "a", Value.int 1)] = [(.text "a", .int (x 0))] := values
  exact ⟨log, sum, x, run, summed, optimum, by simpa using listed.symm⟩

/-- A coefficient beyond all doubles has the program of rows refused. -/
theorem ofModel_withFloor {k : Int} {fault : Fault} (beyond : RowProgram.held k = .error fault) :
    RowProgram.ofModel ((withFloor k 0).posed sum sense).model = .error fault := by
  have finite (n : Int) (small : n.natAbs < Nat.pow 2 53) : RowProgram.held n = .ok n :=
    RowProgram.held_of_lt small
  simp [RowProgram.ofModel, RowProgram.ofConstraints, withFloor, posed, RowProgram.add,
    LinearForm.terms, RowProgram.compare, RowProgram.atLeast, RowProgram.columnsOf, beyond,
    RowProgram.requireHeldBounds, finite]

/-- There are integers beyond all doubles. -/
theorem exists_held_eq_error : ∃ k, RowProgram.held k = .error .numberTooLarge :=
  ⟨_, RowProgram.held_huge⟩

/-- Without the condition that the program of rows can be held as it is, there may be a solution
that an exact solver is never asked for. A big multiple need not be in the way. -/
theorem Run.not_solve_exact :
    ¬ ∀ (s t : Session) (log : List Event) (solver : Solver) (keys coefficients : List Value)
      (sum : WeightedSum) (sense : Sense) (ending : Except Fault (List (Value × Value))),
      Run s log → s.sumOf keys coefficients (.text "") = .ok sum →
      Backend.ofName s.config.backend = .ok .bigM →
      (∀ p, RowProgram.ofModel (s.posed sum sense).model = .ok p →
        p.IsExact (s.posed sum sense).model (solver.rows p (s.posed sum sense).model)) →
      (∀ f k bound limit,
        RowProgram.ofModel (s.posed sum sense).model ≠ .error (.bigM f k bound limit)) →
      (Session.solve (Config.engineWith solver) keys coefficients sense).on s = (ending, t) →
      ((∃ values, ending = .ok values) ↔ ∃ x, s.IsSolution log x) := by
  intro exact
  obtain ⟨k, beyond⟩ := exists_held_eq_error
  obtain ⟨log, run⟩ := exists_run_withFloor k 0
  obtain ⟨ds, H⟩ := run.explained
  let sum : WeightedSum := ⟨[(⟨⟨0, 0⟩, 0, "a", 0, 3, none⟩, 1)]⟩
  have refused : RowProgram.ofModel ((withFloor k 0).posed sum .minimize).model =
      .error .numberTooLarge := ofModel_withFloor beyond
  have solution : (withFloor k 0).IsSolution log fun _ => 0 := by
    refine H.isSolution_iff.2 ⟨by simp [withFloor, Variable.admits], ?_⟩
    simp only [withFloor, List.forall_mem_singleton]
    simp [Constraint.Holds, Operator.Relates, Comparison.holds]
  cases ran : (Session.solve (Config.engineWith .search) [.text "a"] [.int 1] .minimize).on
      (withFloor k 0) with
  | mk ending t =>
    obtain ⟨values, returned⟩ := (exact _ t log .search _ _ sum .minimize ending run rfl rfl
      (by simp [refused]) (by simp [refused]) ran).2 ⟨_, solution⟩
    rcases solve_cases H.coherent ran with ⟨fault, failed, -⟩ |
      ⟨sum', summed, ⟨fault, -, failed, -⟩ | ⟨o, r, answered, -⟩⟩
    · simp [failed] at returned
    · simp [failed] at returned
    · obtain rfl : sum = sum' := Except.ok.inj summed
      have chosen : Backend.ofName (withFloor k 0).config.backend = .ok .bigM := rfl
      simp [Config.engineWith, chosen, Backend.engineWith, Backend.runWith, Backend.runBigM,
        refused] at answered

end IntegerProgram.Session
