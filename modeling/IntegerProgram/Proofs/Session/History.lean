import IntegerProgram.Proofs.Session.Run

/-!
# Histories of calls

A history is a list of calls, made in order on one session whether or not they fail. What a call
does depends on the session that it finds, so a history has a trace, with the sessions before and
after each call and what the call returned. Requests that were refused can be left out of a history:
the other calls find the same sessions, return the same and lead to the same session.

## Main definitions

* `Call`, `Reply`: a call with its arguments, and what it returns.
* `Step`, `Session.trace`, `Session.after`: what happens in a history, and where it leads.
* `Session.Turn`: what a call does to a coherent session.

## Main statements

* `Session.step_turn`: a call on a coherent session does one of these things.
* `Session.trace_kept`: a history without the requests that were refused.
-/
namespace IntegerProgram

/-- What a call returns. -/
inductive Reply where
  | nothing
  | variable (v : Variable)
  | holder (holder : Value)
  | values (values : List (Value × Value))
  deriving Inhabited

/-- A call with its arguments. Every solve may have another engine. -/
inductive Call where
  | request (request : Request)
  | solve (engine : Engine) (keys coefficients : List Value) (sense : Sense)

/-- Makes the call. -/
def Call.make : Call → Attempt Session Reply
  | request (.bind key minimum maximum description) =>
    .variable <$> Session.bind key minimum maximum description
  | request (.enforceValue key value) =>
    (fun _ => .nothing) <$> Session.enforceValue key value
  | request (.enforce keys coefficients value relation description) =>
    (fun _ => .nothing) <$> Session.enforce keys coefficients value relation description
  | request (.ifThen premise consequence description) =>
    .holder <$> Session.ifThen premise consequence description
  | solve engine keys coefficients sense =>
    .values <$> Session.solve engine keys coefficients sense

/-- Whether a caller can make a call. -/
def Call.IsPossible (s : Session) : Call → Prop
  | request r => r.IsPossible s
  | solve .. => True

/-- A call, what it returned, and the sessions before and after it. -/
structure Step where
  before : Session
  call : Call
  ending : Except Fault Reply
  after : Session

/-- Whether a request was refused. A solve is not refused: it may well leave something behind. -/
def Step.isRefused (step : Step) : Bool :=
  match step.call, step.ending with
  | .request _, .error _ => true
  | _, _ => false

namespace Session

/-- What happens when a call is made. -/
def step (s : Session) (call : Call) : Step where
  before := s
  call := call
  ending := call.make.result s
  after := call.make.state s

/-- What happens when calls are made in order. -/
def trace (s : Session) : List Call → List Step
  | [] => []
  | call :: calls => s.step call :: trace (s.step call).after calls

/-- The session that calls lead to. -/
def after (s : Session) : List Call → Session
  | [] => s
  | call :: calls => after (s.step call).after calls

/-- What happened but for the requests that were refused. -/
def kept (s : Session) (calls : List Call) : List Step :=
  (s.trace calls).filter fun step => !step.isRefused

variable {s t : Session} {call : Call} {calls : List Call} {ending : Except Fault Reply}

@[simp] theorem step_call (s : Session) (call : Call) : (s.step call).call = call := rfl

@[simp] theorem trace_nil (s : Session) : s.trace [] = [] := rfl

@[simp] theorem trace_cons (s : Session) (call : Call) (calls : List Call) :
    s.trace (call :: calls) = s.step call :: (s.step call).after.trace calls := rfl

@[simp] theorem after_nil (s : Session) : s.after [] = s := rfl

@[simp] theorem after_cons (s : Session) (call : Call) (calls : List Call) :
    s.after (call :: calls) = (s.step call).after.after calls := rfl

theorem trace_append (s : Session) (calls others : List Call) :
    s.trace (calls ++ others) = s.trace calls ++ (s.after calls).trace others := by
  induction calls generalizing s with
  | nil => rfl
  | cons call calls ih => rw [List.cons_append, trace_cons, ih]; rfl

theorem after_append (s : Session) (calls others : List Call) :
    s.after (calls ++ others) = (s.after calls).after others := by
  induction calls generalizing s with
  | nil => rfl
  | cons call calls ih => rw [List.cons_append, after_cons, ih]; rfl

/-- What a call does to a coherent session. -/
inductive Turn (s : Session) : Call → Except Fault Reply → Session → Prop where
  /-- A request fails and leaves the session as it was. -/
  | refused {request : Request} (fault : Fault) : Turn s (.request request) (.error fault) s
  /-- The key is bound. -/
  | found {key minimum maximum description : Value} {v : Variable}
      (known : s.registry.variableOf? key = some v) :
      Turn s (.request (.bind key minimum maximum description)) (.ok (.variable v)) s
  /-- The key is entered with a fresh variable. -/
  | entered {key minimum maximum description : Value} {lower upper : Int} (ordered : lower ≤ upper)
      (possible : ∀ id, key.key? = some (.holder id) → id < s.nextCondition) :
      Turn s (.request (.bind key minimum maximum description))
        (.ok (.variable (s.fresh lower upper description.shown)))
        (s.enter key (s.fresh lower upper description.shown))
  /-- A value is required of a variable. -/
  | valued {key value : Value} {v : Variable} {n : Int} (text : Value)
      (resolved : s.registry.resolve key = .ok v) (integer : value.asInteger "" = .ok n) :
      Turn s (.request (.enforceValue key value)) (.ok .nothing)
        (s.record [LinearRelation.constraint ⟨⟨[(v, 1)]⟩, .eq, n⟩ text])
  /-- A relation is required of a sum. -/
  | related {keys coefficients : List Value} {value relation description : Value}
      {r : LinearRelation}
      (read : ConditionRequest.read s ⟨keys, coefficients, value, relation⟩ = .ok r) :
      Turn s (.request (.enforce keys coefficients value relation description)) (.ok .nothing)
        (s.record [r.constraint description])
  /-- An implication is required. -/
  | implied {premise consequence : ConditionRequest} {description : Value} {p e : LinearRelation}
      (readP : premise.read s = .ok p) (readE : consequence.read s = .ok e) :
      Turn s (.request (.ifThen premise consequence description))
        (.ok (.holder (.holder s.nextCondition description))) (s.imply p e description)
  /-- A solve fails since there is no objective. -/
  | unposed {engine : Engine} {keys coefficients : List Value} {sense : Sense} (fault : Fault)
      (none : ∀ sum, s.sumOf keys coefficients (.text "") ≠ .ok sum) :
      Turn s (.solve engine keys coefficients sense) (.error fault) s
  /-- A solve fails with the engine. -/
  | unanswered {engine : Engine} {keys coefficients : List Value} {sense : Sense}
      {sum : WeightedSum} {fault : Fault} (summed : s.sumOf keys coefficients (.text "") = .ok sum)
      (failed : engine (s.posed sum sense).model s.config = .error fault) :
      Turn s (.solve engine keys coefficients sense) (.error fault) (s.posed sum sense)
  /-- A solve reports an outcome and makes what it can of it. -/
  | answered {engine : Engine} {keys coefficients : List Value} {sense : Sense}
      {sum : WeightedSum} {o : Outcome} (summed : s.sumOf keys coefficients (.text "") = .ok sum)
      (outcome : engine (s.posed sum sense).model s.config = .ok o) (r : Report) :
      Turn s (.solve engine keys coefficients sense) (.values <$> (s.posed sum sense).valuesAt o)
        ((s.posed sum sense).reported r)

/-- A request either fails and leaves the session as it was or does what it is to do. -/
theorem request_turn (C : s.IsCoherent) {request : Request} (possible : request.IsPossible s)
    (ran : (Call.request request).make.on s = (ending, t)) :
    s.Turn (.request request) ending t := by
  cases request with
  | bind key minimum maximum description =>
    obtain ⟨e, ended, rfl⟩ := Attempt.on_map_cases ran
    rcases bind_cases C ended with ⟨fault, rfl, rfl⟩ | ⟨v, rfl, known, rfl⟩ |
      ⟨lower, upper, v, rfl, -, range, rfl, rfl⟩
    · exact .refused fault
    · exact .found known
    · exact .entered (Registry.le_of_range_eq_ok range) possible
  | enforceValue key value =>
    obtain ⟨e, ended, rfl⟩ := Attempt.on_map_cases ran
    rcases enforceValue_cases C ended with ⟨fault, rfl, rfl⟩ |
      ⟨v, n, c, text, resolved, integer, rfl, rfl⟩
    · exact .refused fault
    · exact .valued text resolved integer
  | enforce keys coefficients value relation description =>
    obtain ⟨e, ended, rfl⟩ := Attempt.on_map_cases ran
    rcases enforce_cases C ended with ⟨fault, rfl, rfl⟩ | ⟨r, c, read, rfl, rfl⟩
    · exact .refused fault
    · exact .related read
  | ifThen premise consequence description =>
    obtain ⟨e, ended, rfl⟩ := Attempt.on_map_cases ran
    rcases ifThen_cases C ended with ⟨fault, rfl, rfl⟩ | ⟨p, e, readP, readE, rfl, rfl⟩
    · exact .refused fault
    · exact .implied readP readE

/-- **What a call does to a coherent session.** -/
theorem step_turn (C : s.IsCoherent) (possible : call.IsPossible s) :
    s.Turn call (s.step call).ending (s.step call).after := by
  suffices turn : ∀ ending t, call.make.on s = (ending, t) → s.Turn call ending t from
    turn _ _ rfl
  intro ending t ran
  cases call with
  | request request => exact request_turn C possible ran
  | solve engine keys coefficients sense =>
    obtain ⟨e, ended, rfl⟩ := Attempt.on_map_cases ran
    rcases solve_cases C ended with ⟨fault, rfl, rfl, none⟩ |
      ⟨sum, summed, ⟨fault, failed, rfl, rfl⟩ | ⟨o, r, outcome, rfl, rfl⟩⟩
    · exact .unposed fault none
    · exact .unanswered summed failed
    · exact .answered summed outcome r

theorem IsCoherent.record_constraint (C : s.IsCoherent) {r : LinearRelation}
    (own : ∀ v ∈ r.sum.vars, v ∈ s.registry.vars) (description : Value) :
    (s.record [r.constraint description]).IsCoherent := by
  rw [C.inStep] at own
  refine C.record (List.forall_mem_singleton.2 ⟨⟨r.sum, rfl, own⟩, ⟨_, rfl⟩, ?_⟩)
  simp [LinearRelation.constraint]

/-- A session stays coherent. -/
theorem Turn.coherent (C : s.IsCoherent) (turn : s.Turn call ending t) : t.IsCoherent := by
  cases turn with
  | refused | found | unposed => exact C
  | entered ordered possible => exact C.enter ordered _ possible
  | valued text resolved integer =>
    have own := Registry.mem_vars_of_resolve resolved
    exact C.record_constraint (by simpa [WeightedSum.vars] using own) text
  | related read => exact C.record_constraint (ConditionRequest.mem_vars_of_read read) _
  | implied readP readE =>
    exact C.imply (ConditionRequest.mem_vars_of_read readP)
      (ConditionRequest.mem_vars_of_read readE) _
  | unanswered | answered => exact C.of_content rfl

/-- A request that was refused has changed nothing. -/
theorem Turn.eq_of_isRefused {step : Step} (turn : s.Turn step.call step.ending step.after)
    (refused : step.isRefused = true) : step.after = s := by
  obtain ⟨before, call, ending, t⟩ := step
  cases turn <;> first | rfl | simp [Step.isRefused] at refused

/-- A fresh session is coherent. -/
theorem isCoherent_new {config : Config} (made : Session.new config = .ok s) : s.IsCoherent :=
  (explains_new made).coherent

/-- From a coherent session on, requests that were refused can be left out. -/
theorem trace_kept_of_isCoherent (C : s.IsCoherent)
    (possible : ∀ step ∈ s.trace calls, step.call.IsPossible step.before) :
    (∀ step ∈ s.trace calls, step.isRefused = true → step.after = step.before) ∧
      s.trace ((s.kept calls).map (·.call)) = s.kept calls ∧
      s.after ((s.kept calls).map (·.call)) = s.after calls := by
  induction calls generalizing s with
  | nil => simp [kept]
  | cons call calls ih =>
    rw [trace_cons, List.forall_mem_cons] at possible ⊢
    have turn : s.Turn call (s.step call).ending (s.step call).after := step_turn C possible.1
    obtain ⟨unchanged, same, left⟩ := ih (turn.coherent C) possible.2
    refine ⟨⟨turn.eq_of_isRefused, unchanged⟩, ?_⟩
    cases refused : (s.step call).isRefused with
    | true =>
      -- the rest of the history starts from `s` again, so it is a history without this call
      have stays : (s.step call).after = s := turn.eq_of_isRefused refused
      have shorter : s.kept (call :: calls) = s.kept calls := by simp [kept, refused, stays]
      rw [stays] at same left
      rw [shorter, after_cons, stays]
      exact ⟨same, left⟩
    | false =>
      have longer : s.kept (call :: calls) = s.step call :: (s.step call).after.kept calls := by
        simp [kept, refused]
      rw [longer, List.map_cons, step_call, trace_cons, after_cons, after_cons]
      exact ⟨by rw [same], left⟩

/-- **Requests that were refused never happened**: they have changed nothing, and without them the
other calls find the same sessions, return the same and lead to the same session. -/
theorem trace_kept {config : Config} (made : Session.new config = .ok s)
    (possible : ∀ step ∈ s.trace calls, step.call.IsPossible step.before) :
    (∀ step ∈ s.trace calls, step.isRefused = true → step.after = step.before) ∧
      s.trace ((s.kept calls).map (·.call)) = s.kept calls ∧
      s.after ((s.kept calls).map (·.call)) = s.after calls :=
  trace_kept_of_isCoherent (isCoherent_new made) possible

/-- A history with a request of each kind that is refused: for its bounds, its key, its number, its
number of coefficients, and a reference that is not bound. Of the seven calls two are left. -/
theorem trace_kept_refusals :
    ∃ (s : Session) (calls : List Call), Session.new {} = .ok s ∧ calls.length = 7 ∧
      (∀ step ∈ s.trace calls, step.call.IsPossible step.before) ∧ (s.kept calls).length = 2 ∧
      s.trace ((s.kept calls).map (·.call)) = s.kept calls ∧
      s.after ((s.kept calls).map (·.call)) = s.after calls := by
  let side (keys : List Value) (relation : Value) : ConditionRequest :=
    ⟨keys, [.int 1], .int 1, relation⟩
  let calls : List Call := [
    .request (.bind (.text "a") (.int 0) (.int 3) (.text "a")),
    .request (.bind (.text "b") (.int 2) (.int 1) (.text "b")),
    .request (.bind (.list []) (.int 0) (.int 1) (.text "c")),
    .request (.enforceValue (.text "a") (.bool true)),
    .request (.enforce [.text "a"] [] (.int 1) (.relation .eq) (.text "none")),
    .request (.ifThen (side [.text "a"] (.relation .gte)) (side [.text "b"] (.relation .eq))
      (.text "unbound")),
    .request (.ifThen (side [.text "a"] (.relation .gte)) (side [.text "a"] (.relation .eq))
      (.text "bound"))]
  have possible : ∀ step ∈ Session.trace { config := {} } calls,
      step.call.IsPossible step.before := by
    simp [calls, Call.IsPossible, Request.IsPossible, Value.key?]
  have left : (Session.kept { config := {} } calls).length = 2 := by decide +kernel
  obtain ⟨-, same, same'⟩ := trace_kept (show Session.new {} = .ok _ from rfl) possible
  exact ⟨_, calls, rfl, rfl, possible, left, same, same'⟩

end Session

end IntegerProgram
