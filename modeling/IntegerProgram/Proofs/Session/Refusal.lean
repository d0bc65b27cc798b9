import IntegerProgram.Proofs.Refusal
import IntegerProgram.Proofs.Session.Run

/-!
# Solves that are refused

A solve is refused if its arguments, the settings or the program of its model are not in order. The
arguments are checked first, and a solve that they are refused for leaves the session as it was. The
program is made only after the objective has been recorded with its search hint. So a solve that is
refused for a multiple that is too large leaves these behind. So does one whose engine is from a
package that is not installed; where it is, nothing else is refused there.

## Main statements

* `Session.on_solve_absent`: what a solve leaves whose engine is not installed.
* `Session.Run.solve_refused`: what a refused solve leaves, if the engine is installed.
* `Session.Run.not_solve_refused`: a refused solve that changes the session.
-/
namespace IntegerProgram

theorem Registry.failsOnly_resolve (r : Registry) (ref : Value) :
    FailsOnly (fun fault => ¬fault.IsLimit) (r.resolve ref) := by
  have other (f : Fault) (plain : ¬f.IsLimit) :
      FailsOnly (fun fault => ¬fault.IsLimit) (throw f.raised : Except Fault Variable) :=
    (FailsOnly.throw_iff _).2 (Fault.not_isLimit_raised plain)
  unfold resolve
  split
  · next v =>
    have foreign := other (.foreignHandle v) (by simp [Fault.IsLimit])
    split
    · exact foreign
    · exact foreign
    · split
      · simp
      · exact foreign
  · split
    · simp
    · rw [absence]
      split
      · exact (FailsOnly.throw_iff _).2 (by simp [Fault.IsLimit])
      · exact other (.unknownKey ref) (by simp [Fault.IsLimit])

/-- Valid settings name a backend, and are as they were given. -/
theorem Config.validate_eq_ok {c d : Config} (validated : c.validate = .ok d) :
    d = c ∧ ∃ b, Backend.ofName c.backend = .ok b := by
  cases chosen : Backend.ofName? c.backend with
  | none => simp [validate, chosen] at validated
  | some b =>
    refine ⟨?_, b, by simp [Backend.ofName, chosen]⟩
    have workers (passed : (do
        if ← c.workers.isLess (.int 1) then throw (.raised (.tooFewWorkers c.workers))
        return c : Except Fault Config) = .ok d) : d = c := by
      obtain ⟨few, -, passed⟩ := bind_eq_ok.1 passed
      cases few with
      | true => simp at passed
      | false => exact (Except.ok.inj passed).symm
    simp only [validate, chosen, Option.isNone_some, Bool.false_eq_true, if_false] at validated
    split at validated
    · exact workers validated
    · obtain ⟨exceeded, -, validated⟩ := bind_eq_ok.1 validated
      cases exceeded with
      | true => simp at validated
      | false => exact workers validated

namespace Session

variable {s t : Session} {keys coefficients : List Value} {sense : Sense} {o : Outcome}
  {log : List Event} {fault : Fault}

/-- The arguments of a solve are not refused for a multiple. -/
theorem failsOnly_sumOf (s : Session) (keys coefficients : List Value) (context : Value) :
    FailsOnly (fun fault => ¬fault.IsLimit) (s.sumOf keys coefficients context) := by
  have arity (vars : Nat) : ¬(Fault.sumArity vars coefficients.length context).raised.IsLimit :=
    Fault.not_isLimit_raised (by simp [Fault.IsLimit])
  have written : FailsOnly (fun fault => ¬fault.IsLimit) context.requireText := by
    rw [Value.requireText]
    cases context.obstacle? with
    | none => simp
    | some o => cases o <;> simp [Obstacle.fault, Fault.IsLimit]
  unfold sumOf WeightedSum.ofParallel
  split
  · simp [arity]
  · refine (FailsOnly.mapM fun ref _ => s.registry.failsOnly_resolve ref).bind fun vars _ => ?_
    split
    · simp [arity]
    · refine (FailsOnly.mapM fun t _ => written.bind fun _ _ => ?_).bind fun _ _ => by simp
      exact (Value.failsOnly_asInteger (by simp [Fault.IsLimit])
        (Fault.not_isLimit_raised (by simp [Fault.IsLimit]))).bind fun _ _ => by simp

/-- Integers for all variables can be checked, which refuses nothing. -/
theorem failsOnly_verify {m : Model} (H : m.IsWellFormed) {values : Valuation} {x : Point}
    (at_ : values.IsAt x m.vars) : FailsOnly Fault.IsOther (verify m values) := by
  rcases H.verify_cases at_ with ⟨-, passed⟩ | ⟨-, -, fault, failed, kind⟩ | ⟨-, -, b, failed⟩
  · exact .of_eq_ok passed
  · rw [failed, FailsOnly.error_iff, Fault.IsOther, kind]
    rfl
  · rw [failed, FailsOnly.error_iff]
    exact b.isOther_fault

/-- What a session makes of integers for all variables refuses nothing. -/
theorem IsCoherent.failsOnly_valuesAt (C : s.IsCoherent)
    (integers : o.status = .optimal → ∃ x, o.values.IsAt x s.model.vars) :
    FailsOnly Fault.IsOther (s.valuesAt o) := by
  have listed : FailsOnly Fault.IsOther (s.valuesOf o.values) := by
    refine .mapM fun e _ => .bind ?_ fun _ _ => by simp
    unfold Valuation.get
    split <;> simp [Fault.kind]
  by_cases optimal : o.status = .optimal
  · obtain ⟨x, at_⟩ := integers optimal
    by_cases checks : s.config.verify.isTrue = true
    · simp only [valuesAt, optimal, checks, ne_eq, not_true_eq_false, if_false, if_true]
      exact (failsOnly_verify C.model at_).bind fun _ _ => listed
    · simp only [valuesAt, optimal, checks]
      exact listed
  · simp only [valuesAt, ne_eq, optimal, not_false_eq_true, if_true, throw_eq_error, error_bind,
      FailsOnly.error_iff]
    refine Fault.of_raised ?_ Obstacle.isOther_fault
    unfold failure
    split <;> rfl

/-- The settings of a session name a backend. -/
theorem Run.backend_known (run : Run s log) : ∃ b, Backend.ofName s.config.backend = .ok b := by
  induction run with
  | @new config s made =>
    simp only [Session.new, bind_eq_ok, pure_eq_ok, Except.ok.injEq] at made
    obtain ⟨valid, validated, rfl⟩ := made
    obtain ⟨rfl, known⟩ := Config.validate_eq_ok validated
    exact known
  | accept run possible ran ih =>
    obtain ⟨ds, H⟩ := run.explained
    rcases Request.perform_cases H.coherent possible ran with ⟨fault, failed, -⟩ |
      ⟨answer, d, cs, -, A⟩
    · simp at failed
    · rw [A.config]
      exact ih
  | refuse run possible ran ih =>
    obtain ⟨ds, H⟩ := run.explained
    rcases Request.perform_cases H.coherent possible ran with ⟨fault, -, rfl⟩ |
      ⟨answer, d, cs, returned, -⟩
    · exact ih
    · simp at returned
  | solve run engine ran ih =>
    obtain ⟨ds, H⟩ := run.explained
    have same : _ = _ := congrArg (·.config) (solve_content H.coherent ran)
    simp only [content] at same
    rw [same]
    exact ih

/-- **What a solve leaves whose engine is not installed**: the objective, with its search hint. -/
theorem on_solve_absent (C : s.IsCoherent) {sum : WeightedSum}
    (summed : s.sumOf keys coefficients (.text "") = .ok sum) (b : Backend) :
    (Session.solve b.absentEngine keys coefficients sense).on s =
      (.error (.notInstalled b.package.1 b.package.2), s.posed sum sense) := by
  rw [Session.solve, Attempt.on_bind_ok (on_pose C summed), Attempt.on_get_bind]
  exact Attempt.on_bind_error (Attempt.on_liftM _ _)

/-- **What a refused solve leaves**: the session as it was, unless it was refused for a multiple, as
only the backend of rows does. Then the objective is left behind with its search hint. The engine is
one that is installed. -/
theorem Run.solve_refused (run : Run s log) (solver : Solver)
    (refused : fault.kind.isRefusal = true)
    (ran : (Session.solve (Config.engineWith solver) keys coefficients sense).on s =
      (.error fault, t)) :
    (t = s ↔ ¬fault.IsLimit) ∧ (fault.IsLimit → Backend.ofName s.config.backend = .ok .bigM ∧
      ∃ sum, s.sumOf keys coefficients (.text "") = .ok sum ∧ t = s.posed sum sense) := by
  obtain ⟨ds, H⟩ := run.explained
  obtain ⟨b, known⟩ := run.backend_known
  cases named : s.sumOf keys coefficients (.text s!"{sense.name} objective") with
  | error fault' =>
    rw [on_solve_unposed named] at ran
    obtain ⟨same, rfl⟩ := Prod.mk.inj ran
    obtain rfl := Except.error.inj same
    have unlimited := failsOnly_sumOf s keys coefficients _ fault' named
    exact ⟨iff_of_true rfl unlimited, fun limit => absurd limit unlimited⟩
  | ok sum =>
    have summed : s.sumOf keys coefficients (.text "") = .ok sum := (sumOf_context _).1 named
    have C : (s.posed sum sense).IsCoherent := H.coherent.of_content rfl
    have engine : Config.engineWith solver (s.posed sum sense).model s.config =
        b.engineWith solver (s.posed sum sense).model s.config := by
      rw [Config.engineWith, known]
      rfl
    rcases solve_cases H.coherent ran with ⟨-, -, -, none⟩ | ⟨sum', summed', rest⟩
    · exact absurd summed (none sum)
    obtain rfl : sum' = sum := Except.ok.inj (summed'.symm.trans summed)
    rcases rest with ⟨fault', failed, same, rfl⟩ | ⟨o, r, answered, concluded, -⟩
    · obtain rfl := Except.error.inj same
      -- the engine was given the model with the objective in it, which the session keeps
      rw [engine] at failed
      have integral : ∀ o, (s.posed sum' sense).model.objective = some o →
          ∃ s : WeightedSum, o.sum = .whole s := by
        rintro o ⟨⟩
        exact ⟨sum', rfl⟩
      rcases Backend.failsOnly_engineWith C.model integral solver b _ fault failed with
        other | ⟨limit, rfl⟩
      · exact absurd refused (ne_true_of_eq_false other)
      · have changed : s.posed sum' sense ≠ s := by
          intro same
          have longer := congrArg (·.model.strategies.length) same
          simp [posed] at longer
        exact ⟨iff_of_false changed (not_not.2 limit), fun _ => ⟨known, sum', summed, rfl⟩⟩
    · -- an outcome was reported, and the values that it gives are integers
      rw [engine] at answered
      have other := C.failsOnly_valuesAt (o := o) (fun optimal => by
        refine Backend.exists_isAt_of_engineWith C.model answered ?_
        rw [optimal]
        rfl) fault concluded.symm
      exact absurd refused (ne_true_of_eq_false other)

/-- A solve that is refused for its key, which is not bound. -/
theorem Run.solve_refused_unbound :
    ∃ (s t : Session) (log : List Event) (fault : Fault), Run s log ∧
      fault.kind.isRefusal = true ∧
      (Session.solve (Config.engineWith .search) [.text "y"] [.int 1] .minimize).on s =
        (.error fault, t) ∧ t = s := by
  have new : Run { config := {} } [] := .new (show Session.new {} = .ok _ from rfl)
  let request : Request := .bind (.text "x") (.int 0) (.int 3) (.text "x")
  have bound := new.next request none (by simp [request, Request.IsPossible, Value.key?]) rfl
  have refused : (Fault.unknownKey (.text "y")).kind.isRefusal = true := rfl
  have ran : (Session.solve (Config.engineWith .search) [.text "y"] [.int 1] .minimize).on
      (request.perform.on { config := {} }).2 =
      (.error (.unknownKey (.text "y")), (request.perform.on { config := {} }).2) := rfl
  have kept := (bound.solve_refused .search refused ran).1.2 (by simp [Fault.IsLimit])
  exact ⟨_, _, _, _, bound, refused, ran, kept⟩

/-- An implication over a variable with a wide range takes too large a multiple. The solve that is
refused for it leaves an objective and a search hint behind. -/
theorem Run.not_solve_refused :
    ∃ (s t : Session) (log : List Event) (fault : Fault), Run s log ∧
      fault.kind = .configuration ∧
      (Session.solve (Config.engineWith .search) [.text "x"] [.int 1] .minimize).on s =
        (.error fault, t) ∧
      s.model.strategies.length = 0 ∧ t.model.strategies.length = 1 := by
  let config : Config := { backend := .text "cbc" }
  let side (n : Int) : ConditionRequest := ⟨[.text "x"], [.int 1], .int n, .relation .gte⟩
  have new : Run { config } [] := .new (show Session.new config = .ok _ from rfl)
  let first : Request := .bind (.text "x") (.int 0) (.int 2000000) (.text "x")
  let second : Request := .ifThen (side 1) (side 2) (.text "c")
  have bound := new.next first none (by simp [first, Request.IsPossible, Value.key?]) rfl
  have implied := bound.next second (some (.holder 1 (.text "c"))) trivial rfl
  let s := (second.perform.on (first.perform.on { config }).2).2
  let solved := (Session.solve (Config.engineWith .search) [.text "x"] [.int 1] .minimize).on s
  have refused : (solved.1.mapError Fault.kind).map (fun _ => ()) = .error .configuration := by
    decide +kernel
  have unhinted : s.model.strategies.length = 0 := by decide +kernel
  have hinted : solved.2.model.strategies.length = 1 := by decide +kernel
  cases ended : solved.1 with
  | ok values => simp [ended, Except.mapError, Except.map] at refused
  | error fault =>
    have ran : solved = (.error fault, solved.2) := by rw [← ended]
    have limit : fault.kind = .configuration := by
      simpa [ended, Except.mapError, Except.map] using refused
    exact ⟨s, solved.2, _, fault, implied, limit, ran, unhinted, hinted⟩

end Session

end IntegerProgram
