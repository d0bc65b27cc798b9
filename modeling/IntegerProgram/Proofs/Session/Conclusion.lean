import IntegerProgram.Proofs.Session.Optimum

/-!
# How a solve ends

Once its arguments are in order and the engine has answered, a solve ends in one of four ways, which
the answer and the settings decide: with values, with values that failed the checks, at the time
limit, or without a proven optimum. In all of them the session keeps the objective, one more search
hint and a report of this solve, and nothing else has changed.

What values have failed, and what the time limit is, is told in a message. Where this cannot be
written, the solve ends with that fault instead, and the session is left in the same way.

## Main definitions

* `Report.Describes`: what a report says of a solve.
* `Session.IsConcluded`: how a solve ends and what it leaves.

## Main statements

* `Session.IsCoherent.valuesAt_cases`: the ways in which an outcome is taken.
* `Session.Run.solve_concluded`: every solve that an engine has answered ends so.
* `Session.Run.not_solve_concluded`: values outside bounds that cannot be written.
-/
namespace IntegerProgram

/-- What a fault says of the solve that it ended: the status, and the names of the variables. -/
def Fault.solve? : Fault → Option (Status × List String)
  | notOptimal status names => some (status, names)
  | timedOut status names _ => some (status, names)
  | _ => none

/-- A report describes a solve of a model: the engine and the sense that were asked for, what the
engine has answered, the size of the model, and the values that were returned, if any were. -/
structure Report.Describes (r : Report) (s : Session) (sense : Sense) (o : Outcome)
    (ending : Except Fault (List (Value × Value))) : Prop where
  backend : r.backend = s.config.backend.shown
  sense : r.sense = sense
  status : r.status = o.status
  objective : r.objective = o.objective
  variableCount : r.variableCount = s.model.vars.length
  constraintCount : r.constraintCount = s.model.constraints.length
  wallTime : r.wallTime = o.wallTime
  timedOut : r.timedOut = o.timedOut
  returned : ∀ values, ending = .ok values → r.values = values
  unreturned : ∀ fault, ending = .error fault → r.values = []

namespace Session

variable {s t : Session} {log : List Event} {keys coefficients : List Value} {sum : WeightedSum}
  {sense : Sense} {o : Outcome} {x : Point} {engine : Engine}
  {ending : Except Fault (List (Value × Value))}

/-- The ending that an outcome with integers `x` for all variables leads to. -/
structure IsEnding (s : Session) (o : Outcome) (x : Point)
    (ending : Except Fault (List (Value × Value))) : Prop where
  returned : (∃ values, ending = .ok values) ↔
    o.status = .optimal ∧ (s.config.verify.isTrue = true → s.model.Passes o.values)
  values : ∀ values, ending = .ok values → values = s.valuesIn x
  unverified : (∃ fault, ending = .error fault ∧ fault.kind = .verification) ↔
    o.status = .optimal ∧ s.config.verify.isTrue = true ∧ s.model.Fails o.values ∧
      s.model.TellsFailure o.values
  timedOut : (∃ fault, ending = .error fault ∧ fault.kind = .timeout) ↔
    o.status ≠ .optimal ∧ o.timedOut = true ∧ s.config.timeLimit.obstacle? = none
  unproven : (∃ fault, ending = .error fault ∧ fault.kind = .infeasible) ↔
    o.status ≠ .optimal ∧ o.timedOut = false
  unwritten : (∃ fault, ending = .error fault ∧ fault.IsUnwritten) ↔
    o.status = .optimal ∧ s.config.verify.isTrue = true ∧ s.model.Fails o.values ∧
        ¬s.model.TellsFailure o.values ∨
      o.status ≠ .optimal ∧ o.timedOut = true ∧ s.config.timeLimit.obstacle? ≠ none
  carried : ∀ fault, ending = .error fault → fault.kind = .timeout ∨ fault.kind = .infeasible →
    fault.solve? = some (o.status, s.registry.names)

/-- How a solve over some keys ends, and what it leaves: a report of it, a search hint over the
variables of the keys, and the objective. -/
structure IsConcluded (s : Session) (keys : List Value) (sum : WeightedSum) (sense : Sense)
    (o : Outcome) (x : Point) (ending : Except Fault (List (Value × Value))) (t : Session) :
    Prop where
  ends : s.IsEnding o x ending
  report : ∃ r, t.lastReport = some r ∧ r.Describes s sense o ending
  hint : ∃ vs, List.Forall₂ (fun k v => s.registry.resolve k = .ok v) keys vs ∧
    t.model.strategies = s.model.strategies ++ [vs]
  objective : t.model.objective = some ⟨.whole sum, sense⟩
  content : t.content = s.content

/-- A solve that the engine has answered goes on with the answer. -/
theorem on_solve_answered (C : s.IsCoherent)
    (summed : s.sumOf keys coefficients (.text "") = .ok sum)
    (answered : engine (s.posed sum sense).model s.config = .ok o) :
    (solve engine keys coefficients sense).on s = (conclude sense o).on (s.posed sum sense) := by
  rw [solve, Attempt.on_bind_ok (on_pose C summed), Attempt.on_get_bind]
  apply Attempt.on_bind_ok
  rw [Attempt.on_liftM]
  exact congrArg (·, s.posed sum sense) answered

/-- **The ways in which a session takes an outcome.** -/
theorem IsCoherent.valuesAt_cases (C : s.IsCoherent) (at_ : o.values.IsAt x s.model.vars) :
    (o.status = .optimal ∧ (s.config.verify.isTrue = true → s.model.Passes o.values) ∧
      s.valuesAt o = .ok (s.valuesIn x)) ∨
    (o.status = .optimal ∧ s.config.verify.isTrue = true ∧ s.model.Fails o.values ∧
      s.model.TellsFailure o.values ∧
      ∃ fault, s.valuesAt o = .error fault ∧ fault.kind = .verification) ∨
    (o.status = .optimal ∧ s.config.verify.isTrue = true ∧ s.model.Fails o.values ∧
      ¬s.model.TellsFailure o.values ∧ ∃ b : Obstacle, s.valuesAt o = .error b.fault) ∨
    (o.status ≠ .optimal ∧ o.timedOut = true ∧
      s.valuesAt o =
        .error (Fault.timedOut o.status s.registry.names s.config.timeLimit).raised) ∨
    (o.status ≠ .optimal ∧ o.timedOut = false ∧
      s.valuesAt o = .error (.notOptimal o.status s.registry.names)) := by
  have read : s.valuesOf o.values = .ok (s.valuesIn x) := valuesOf_eq (C.inStep ▸ at_)
  by_cases optimal : o.status = .optimal
  · by_cases checks : s.config.verify.isTrue = true
    · have failing {fault : Fault} (failed : verify s.model o.values = .error fault) :
          s.valuesAt o = .error fault := by
        simp [valuesAt, optimal, checks, failed]
      rcases C.model.verify_cases at_ with ⟨passes, passed⟩ | ⟨fails, tells, fault, failed, kind⟩ |
        ⟨fails, silent, b, failed⟩
      · exact .inl ⟨optimal, fun _ => passes, by simp [valuesAt, optimal, passed, read]⟩
      · exact .inr (.inl ⟨optimal, checks, fails, tells, fault, failing failed, kind⟩)
      · exact .inr (.inr (.inl ⟨optimal, checks, fails, silent, b, failing failed⟩))
    · exact .inl ⟨optimal, fun on => absurd on checks, by simp [valuesAt, optimal, checks, read]⟩
  · right; right; right
    cases limit : o.timedOut with
    | true => exact .inl ⟨optimal, rfl, by simp [valuesAt, optimal, failure, limit]⟩
    | false =>
      have told : (s.failure o).raised = .notOptimal o.status s.registry.names := by
        rw [failure, limit]
        rfl
      exact .inr ⟨optimal, rfl, by simp [valuesAt, optimal, told]⟩

/-- What a session makes of an outcome with integers for all variables. -/
theorem IsCoherent.isEnding (C : s.IsCoherent) (at_ : o.values.IsAt x s.model.vars) :
    s.IsEnding o x (s.valuesAt o) := by
  have unwritten (b : Obstacle) : b.fault.IsUnwritten := ⟨b, rfl⟩
  rcases C.valuesAt_cases at_ with ⟨optimal, passes, ended⟩ |
    ⟨optimal, checks, fails, tells, fault, ended, kind⟩ |
    ⟨optimal, checks, fails, silent, b, ended⟩ | ⟨unproven, limit, ended⟩ |
    ⟨unproven, limit, ended⟩
  · have sound : s.config.verify.isTrue = true → ¬s.model.Fails o.values :=
      fun checks => (passes checks).not_fails
    rw [ended]
    constructor <;> simp_all
  · have unsound : ¬s.model.Passes o.values := fun passes => passes.not_fails fails
    have written : ¬fault.IsUnwritten := fun unwritten => by
      simpa [kind] using unwritten.kind_eq
    rw [ended]
    constructor <;> simp_all
  · have unsound : ¬s.model.Passes o.values := fun passes => passes.not_fails fails
    have kind := (unwritten b).kind_eq
    rw [ended]
    constructor <;> rcases kind with kind | kind <;> simp_all
  · rw [ended]
    rcases written : s.config.timeLimit.obstacle? with _ | b
    · rw [Fault.raised_of_none (by exact written)]
      have written' (names : List String) :
          ¬(Fault.timedOut o.status names s.config.timeLimit).IsUnwritten := fun unwritten => by
        simpa [Fault.kind] using unwritten.kind_eq
      constructor <;> simp_all [Fault.kind, Fault.solve?]
    · rw [Fault.raised_of_some (o := b) (by exact written)]
      have kind := (unwritten b).kind_eq
      constructor <;> rcases kind with kind | kind <;> simp_all
  · have written : ¬(Fault.notOptimal o.status s.registry.names).IsUnwritten := fun unwritten => by
      simpa [Fault.kind] using unwritten.kind_eq
    rw [ended]
    constructor <;> simp_all [Fault.kind, Fault.solve?]

/-- What a session makes of an outcome does not depend on the objective that it has posed. -/
theorem valuesAt_posed : (s.posed sum sense).valuesAt o = s.valuesAt o := rfl

/-- What a solve returns that the engine has answered, and what it leaves. -/
theorem solve_answered_cases (C : s.IsCoherent)
    (summed : s.sumOf keys coefficients (.text "") = .ok sum)
    (answered : engine (s.posed sum sense).model s.config = .ok o)
    (ran : (solve engine keys coefficients sense).on s = (ending, t)) :
    ending = s.valuesAt o ∧
      ∃ r, t = (s.posed sum sense).reported r ∧ r.Describes s sense o ending := by
  rw [on_solve_answered C summed answered, on_conclude, valuesAt_posed] at ran
  obtain ⟨rfl, rfl⟩ := Prod.mk.inj ran
  refine ⟨rfl, ?_⟩
  cases s.valuesAt o with
  | ok values => exact ⟨_, rfl, by constructor <;> simp [reportOf, posed]⟩
  | error fault => exact ⟨_, rfl, by constructor <;> simp [reportOf, posed]⟩

/-- **Every solve that an engine has answered with integers ends in one of the four ways**, keeps
its objective with one more search hint and a report, and changes nothing else. -/
theorem Run.solve_concluded (run : Run s log)
    (summed : s.sumOf keys coefficients (.text "") = .ok sum)
    (answered : engine (s.posed sum sense).model s.config = .ok o)
    (integers : o.values.IsAt x s.model.vars)
    (ran : (Session.solve engine keys coefficients sense).on s = (ending, t)) :
    s.IsConcluded keys sum sense o x ending t := by
  obtain ⟨ds, H⟩ := run.explained
  obtain ⟨ended, r, rfl, described⟩ := solve_answered_cases H.coherent summed answered ran
  exact {
    ends := ended ▸ H.coherent.isEnding integers
    report := ⟨r, rfl, described⟩
    hint := ⟨sum.vars, (sumOf_eq_ok.1 summed).1, rfl⟩
    objective := rfl
    content := rfl }

/-- An engine that takes zero for an optimum where at least one is required. -/
theorem Run.solve_concluded_violated :
    ∃ (s t : Session) (log : List Event) (sum : WeightedSum) (o : Outcome) (x : Point)
      (ending : Except Fault (List (Value × Value))), Run s log ∧
      s.sumOf [.text "a"] [.int 1] (.text "") = .ok sum ∧ o.status = .optimal ∧
      o.values.IsAt x s.model.vars ∧
      (Session.solve (fun _ _ => .ok o) [.text "a"] [.int 1] .minimize).on s = (ending, t) ∧
      s.IsConcluded [.text "a"] sum .minimize o x ending t ∧
      (∃ fault, ending = .error fault ∧ fault.kind = .verification) := by
  let o : Outcome := { status := .optimal, values := fun _ => some (.int 0) }
  let engine : Engine := fun _ _ => .ok o
  let first : Request := .bind (.text "a") (.int 0) (.int 3) (.text "a")
  let second : Request :=
    .enforce [.text "a"] [.int 1] (.int 1) (.relation .gte) (.text "at least one")
  have new : Run { config := {} } [] := .new (show Session.new {} = .ok _ from rfl)
  have bound := new.next first none (by simp [first, Request.IsPossible, Value.key?]) rfl
  have enforced := bound.next second none trivial rfl
  let s := (second.perform.on (first.perform.on { config := {} }).2).2
  have summed : s.sumOf [.text "a"] [.int 1] (.text "") = .ok _ := rfl
  have answered (m : Model) (c : Config) : engine m c = .ok o := rfl
  have integers (vs : List Variable) : o.values.IsAt (fun _ => 0) vs := fun v _ => rfl
  have failed : (((Session.solve engine [.text "a"] [.int 1] .minimize).result s).mapError
      Fault.kind).map (fun _ => ()) = .error .verification := by
    decide +kernel
  cases ran : (Session.solve engine [.text "a"] [.int 1] .minimize).on s with
  | mk ending t =>
    rw [Attempt.result, ran] at failed
    have concluded := enforced.solve_concluded summed (answered _ _) (integers _) ran
    cases ending with
    | ok values => simp [Except.mapError, Except.map] at failed
    | error fault =>
      have kind : fault.kind = .verification := by simpa [Except.mapError, Except.map] using failed
      exact ⟨s, t, _, _, o, _, _, enforced, summed, rfl, integers _, ran, concluded, fault, rfl,
        kind⟩

/-- A session with one key, whose least value is zero. -/
def withCeiling (n : Nat) : Session :=
  let x : Variable := ⟨⟨0, 0⟩, 0, "x", 0, n, none⟩
  { config := {}, registry := ⟨[(.text "x", x)]⟩, model := { vars := [x] } }

theorem exists_run_withCeiling (n : Nat) : ∃ log, Run (withCeiling n) log := by
  have new : Run { config := {} } [] := .new (show Session.new {} = .ok _ from rfl)
  have ranged : Registry.range (.int 0) (.int n) (.text "x") = .ok (0, (n : Int)) := by
    rw [Registry.range_int 0 n (by simp), if_neg (by omega)]
  obtain ⟨ds, H⟩ := new.explained
  have unknown : ({ config := {} } : Session).registry.entryOf? (.text "x") = none := rfl
  have bound := on_bind_new H.coherent rfl unknown (by simp) ranged
  have performed : (Request.bind (.text "x") (.int 0) (.int n) (.text "x")).perform.on
      { config := {} } = (.ok none, withCeiling n) := by
    rw [Request.perform, Attempt.on_bind_ok bound]
    rfl
  exact ⟨_, new.accept (by simp [Request.IsPossible, Value.key?]) performed⟩

/-- Values that fail a check may be refused in another way, if what they violate cannot be told: the
text of a variable, or that of a constraint. And values that are no integers, but doubles, may
neither pass the checks nor fail one. -/
theorem Run.not_solve_concluded :
    (∃ (t : Session) (log : List Event) (o : Outcome) (fault : Fault),
      Run (withCeiling (Nat.pow 10 5000)) log ∧ o.status = .optimal ∧
      o.values.IsAt (fun _ => -1) (withCeiling (Nat.pow 10 5000)).model.vars ∧
      (withCeiling (Nat.pow 10 5000)).model.Fails o.values ∧
      (Session.solve (fun _ _ => .ok o) [.text "x"] [.int 1] .minimize).on
        (withCeiling (Nat.pow 10 5000)) = (.error fault, t) ∧ fault.kind = .badValue) ∧
    ∃ (t : Session) (log : List Event) (o : Outcome) (fault : Fault),
      Run (withFloor (Nat.pow 10 400) 0) log ∧ o.status = .optimal ∧
      (∀ i, o.values i = some (.float (.ofInt 1))) ∧
      (Session.solve (fun _ _ => .ok o) [.text "a"] [.int 1] .minimize).on
        (withFloor (Nat.pow 10 400) 0) = (.error fault, t) ∧ fault.kind = .overflow := by
  have failing (kind : Fault.Kind) {r : Except Fault (List (Value × Value)) × Session}
      (failed : (r.1.mapError Fault.kind).map (fun _ => ()) = .error kind) :
      ∃ fault, r = (.error fault, r.2) ∧ fault.kind = kind := by
    obtain ⟨ending, t⟩ := r
    cases ending with
    | ok values => simp [Except.mapError, Except.map] at failed
    | error fault => exact ⟨fault, rfl, by simpa [Except.mapError, Except.map] using failed⟩
  constructor
  · obtain ⟨log, run⟩ := exists_run_withCeiling (Nat.pow 10 5000)
    let o : Outcome := { status := .optimal, values := fun _ => some (.int (-1)) }
    have outside : (withCeiling (Nat.pow 10 5000)).model.Fails o.values := .inl ⟨_, _, rfl⟩
    obtain ⟨fault, ran, kind⟩ := failing .badValue
      (r := (Session.solve (fun _ _ => .ok o) [.text "x"] [.int 1] .minimize).on
        (withCeiling (Nat.pow 10 5000))) (by decide +kernel)
    exact ⟨_, log, o, fault, run, rfl, fun _ _ => rfl, outside, ran, kind⟩
  · obtain ⟨log, run⟩ := exists_run_withFloor (Nat.pow 10 400) 0
    let o : Outcome := { status := .optimal, values := fun _ => some (.float (.ofInt 1)) }
    obtain ⟨fault, ran, kind⟩ := failing .overflow
      (r := (Session.solve (fun _ _ => .ok o) [.text "a"] [.int 1] .minimize).on
        (withFloor (Nat.pow 10 400) 0)) (by decide +kernel)
    exact ⟨_, log, o, fault, run, rfl, fun _ => rfl, ran, kind⟩

end Session

end IntegerProgram
