import IntegerProgram.Proofs.Session

/-!
# Solves of a coherent session

A solve records an objective and a search hint, asks an engine, and reports. It changes nothing that
requests have built, whatever the engine answers.

## Main definitions

* `Session.content`: what requests have built.
* `Session.valuesAt`: what a session makes of an outcome.

## Main statements

* `Session.solve_cases`: what a solve does.
* `Session.solve_content`: what it leaves as it was.
-/
namespace IntegerProgram.Session

variable {s t : Session} {keys coefficients : List Value} {sense : Sense} {o : Outcome}

/-- What requests have built: everything but search hints, objective and report. -/
def content (s : Session) : Session :=
  { s with
    model := { s.model with strategies := [], objective := none }
    lastReport := none }

/-- The session with an objective, and a search hint over its variables. -/
def posed (s : Session) (sum : WeightedSum) (sense : Sense) : Session :=
  { s with
    model := { s.model with
      strategies := s.model.strategies ++ [sum.vars]
      objective := some ⟨.whole sum, sense⟩ } }

/-- The session with a report of its last solve. -/
def reported (s : Session) (r : Report) : Session := { s with lastReport := some r }

/-- What a session makes of an outcome: the values of its keys, if they are an optimum that passes
the checks. -/
def valuesAt (s : Session) (o : Outcome) : Except Fault (List (Value × Value)) := do
  if o.status ≠ .optimal then throw (s.failure o).raised
  if s.config.verify.isTrue then verify s.model o.values
  s.valuesOf o.values

@[simp] theorem content_posed (sum : WeightedSum) : (s.posed sum sense).content = s.content := rfl

@[simp] theorem content_reported (r : Report) : (s.reported r).content = s.content := rfl

theorem IsCoherent.of_content (C : s.IsCoherent) (same : t.content = s.content) :
    t.IsCoherent := by
  have vars : t.model.vars = s.model.vars := congrArg (·.model.vars) same
  have constraints : t.model.constraints = s.model.constraints :=
    congrArg (·.model.constraints) same
  have registry : t.registry = s.registry := congrArg (·.registry) same
  have next : t.nextCondition = s.nextCondition := congrArg (·.nextCondition) same
  refine ⟨⟨?_, ?_, ?_, ?_⟩, ?_, ?_⟩
  · rw [vars]
    exact C.model.index
  · rw [vars]
    exact C.model.nonempty
  · rw [vars]
    exact C.model.declared
  · rw [vars, constraints]
    exact C.model.constraints
  · rw [registry, vars]
    exact C.inStep
  · rw [registry, next]
    exact C.issued

/-- An objective over keys is recorded as it is. -/
theorem on_pose (C : s.IsCoherent) {sum : WeightedSum}
    (summed : s.sumOf keys coefficients (.text "") = .ok sum) :
    (pose keys coefficients sense).on s = (.ok (), s.posed sum sense) := by
  have own : s.model.requireAllOwn sum.vars = .ok () :=
    C.model.requireAllOwn (C.inStep ▸ mem_vars_of_sumOf summed)
  have own' : Model.requireAllOwn
      { s.model with strategies := s.model.strategies ++ [sum.vars] } sum.vars = .ok () := own
  have named := (sumOf_context s!"{sense.name} objective").1 summed
  simp only [pose, Attempt.on_get_bind]
  simp [Attempt.on_bind, named, onModel, Model.addStrategy, Model.setObjective, own, own', posed]

/-- A solve fails with its arguments, and changes nothing then. -/
theorem on_solve_unposed {engine : Engine} {fault : Fault}
    (named : s.sumOf keys coefficients (.text s!"{sense.name} objective") = .error fault) :
    (solve engine keys coefficients sense).on s = (.error fault, s) := by
  have failed : (pose keys coefficients sense).on s = (.error fault, s) := by
    rw [pose, Attempt.on_get_bind]
    exact Attempt.on_bind_error (by rw [Attempt.on_liftM, named])
  rw [solve, Attempt.on_bind_error failed]

/-- **What concluding a solve does**: it reports the outcome, and returns values or fails. -/
theorem on_conclude :
    (conclude sense o).on s =
      (s.valuesAt o,
        match s.valuesAt o with
        | .ok values => s.reported { s.reportOf sense o with values }
        | .error _ => s.reported (s.reportOf sense o)) := by
  simp only [conclude, valuesAt, Attempt.on_get_bind, Attempt.on_set_bind]
  by_cases optimal : o.status = .optimal
  · cases verify s.model o.values <;> cases s.valuesOf o.values <;>
      by_cases checks : s.config.verify.isTrue <;>
      simp [optimal, checks, Attempt.on_bind, reported]
  · simp [optimal, reported]

/-- **What a solve does**: it fails since there is no objective, or with the engine, or it makes
what it can of an outcome. -/
theorem solve_cases (C : s.IsCoherent) {engine : Engine}
    {ending : Except Fault (List (Value × Value))}
    (ran : (solve engine keys coefficients sense).on s = (ending, t)) :
    (∃ fault, ending = .error fault ∧ t = s ∧
        ∀ sum, s.sumOf keys coefficients (.text "") ≠ .ok sum) ∨
      ∃ sum, s.sumOf keys coefficients (.text "") = .ok sum ∧
        ((∃ fault, engine (s.posed sum sense).model s.config = .error fault ∧
            ending = .error fault ∧ t = s.posed sum sense) ∨
          ∃ o r, engine (s.posed sum sense).model s.config = .ok o ∧
            ending = (s.posed sum sense).valuesAt o ∧ t = (s.posed sum sense).reported r) := by
  cases named : s.sumOf keys coefficients (.text s!"{sense.name} objective") with
  | error fault =>
    left
    rw [on_solve_unposed named] at ran
    obtain ⟨rfl, rfl⟩ := Prod.mk.inj ran
    refine ⟨fault, rfl, rfl, fun sum summed => ?_⟩
    simp [(sumOf_context _).1 summed] at named
  | ok sum =>
    right
    have summed : s.sumOf keys coefficients (.text "") = .ok sum := (sumOf_context _).1 named
    rw [solve, Attempt.on_bind_ok (on_pose C summed), Attempt.on_get_bind] at ran
    refine ⟨sum, summed, ?_⟩
    cases answered : engine (s.posed sum sense).model s.config with
    | error fault =>
      left
      have failed := Attempt.on_bind_error (f := fun o => conclude sense o)
        (Attempt.on_liftM (.error fault) (s.posed sum sense))
      rw [← answered] at failed
      obtain ⟨rfl, rfl⟩ := Prod.mk.inj (failed.symm.trans ran)
      exact ⟨fault, rfl, rfl, rfl⟩
    | ok o =>
      right
      have concluded := Attempt.on_bind_ok (f := fun o => conclude sense o)
        (Attempt.on_liftM (.ok o) (s.posed sum sense))
      rw [← answered, on_conclude] at concluded
      obtain ⟨rfl, rfl⟩ := Prod.mk.inj (concluded.symm.trans ran)
      cases valued : (s.posed sum sense).valuesAt o with
      | error fault => exact ⟨o, _, rfl, valued.symm, rfl⟩
      | ok values => exact ⟨o, _, rfl, valued.symm, rfl⟩

/-- A solve changes nothing that requests have built. -/
theorem solve_content (C : s.IsCoherent) {engine : Engine}
    {ending : Except Fault (List (Value × Value))}
    (ran : (solve engine keys coefficients sense).on s = (ending, t)) : t.content = s.content := by
  rcases solve_cases C ran with ⟨_, _, rfl, _⟩ | ⟨sum, _, ⟨_, _, _, rfl⟩ | ⟨_, _, _, _, rfl⟩⟩
  · rfl
  · rfl
  · rfl

end IntegerProgram.Session
