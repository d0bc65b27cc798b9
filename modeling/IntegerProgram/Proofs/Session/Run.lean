import IntegerProgram.Proofs.Layered
import IntegerProgram.Proofs.Session.Solve

/-!
# Runs of a session

A run is what a session has lived through: requests that were accepted, with the constraints that
they recorded, requests that were refused, and solves by any engine, which may be another one each
time. What was accepted demands something of a point, and the constraints say just that.

## Main definitions

* `Event`: a call and what came of it.
* `Session.Run`: the sessions that calls lead to, with the events on the way.
* `Demand`: what an accepted request demands of a point.
* `Session.Explains`: what holds of a session and its events.

## Main statements

* `Request.perform_cases`: a request is refused and changes nothing, or does what it is to do.
* `Session.Run.explained`: the recorded constraints are those of the demands, in order.
-/
namespace IntegerProgram

/-- A call and what came of it. -/
inductive Event where
  | accepted (request : Request) (answer : Option Value) (recorded : List Constraint)
  | refused (request : Request) (fault : Fault)
  | solved (keys coefficients : List Value) (sense : Sense)
      (ending : Except Fault (List (Value × Value)))

/-- The constraints that were recorded. -/
def Event.recorded : Event → List Constraint
  | accepted _ _ recorded => recorded
  | _ => []

/-- Whether a caller can make a request: that it does not name a holder that has not been issued,
which is a key that equals nothing else. -/
def Request.IsPossible (s : Session) : Request → Prop
  | bind key _ _ _ => ∀ id, key.key? = some (.holder id) → id < s.nextCondition
  | _ => True

/-- The sessions that calls lead to, with the events on the way. -/
inductive Session.Run : Session → List Event → Prop where
  | new {config : Config} {s : Session} (made : Session.new config = .ok s) : Run s []
  | accept {s t : Session} {log : List Event} {request : Request} {answer : Option Value}
      (run : Run s log) (possible : request.IsPossible s)
      (ran : request.perform.on s = (.ok answer, t)) :
      Run t (log ++ [.accepted request answer
        (t.model.constraints.drop s.model.constraints.length)])
  | refuse {s t : Session} {log : List Event} {request : Request} {fault : Fault}
      (run : Run s log) (possible : request.IsPossible s)
      (ran : request.perform.on s = (.error fault, t)) : Run t (log ++ [.refused request fault])
  | solve {s t : Session} {log : List Event} {keys coefficients : List Value} {sense : Sense}
      {ending : Except Fault (List (Value × Value))} (run : Run s log) (engine : Engine)
      (ran : (Session.solve engine keys coefficients sense).on s = (ending, t)) :
      Run t (log ++ [.solved keys coefficients sense ending])

/-- What an accepted request demands of a point. -/
inductive Demand where
  | nothing
  | relation (r : LinearRelation)
  | implication (i : Implication)
  deriving Inhabited

namespace Demand

/-- Whether a point meets a demand. That an implication is met includes that its indicator tells
whether its consequence holds. -/
def holds (x : Point) : Demand → Bool
  | nothing => true
  | relation r => r.holds x
  | implication i => i.holds x && x i.indicator.index = i.truth x

/-- The implication that is demanded, if it is one. -/
def implication? : Demand → Option Implication
  | implication i => some i
  | _ => none

/-- The implications among demands. -/
def implications (ds : List Demand) : List Implication := ds.filterMap implication?

@[simp] theorem implications_nil : implications [] = [] := rfl

@[simp] theorem implications_snoc (ds : List Demand) (d : Demand) :
    implications (ds ++ [d]) = implications ds ++ d.implication?.toList := by
  cases d <;> simp [implications, implication?]

theorem mem_implications_of_mem {ds : List Demand} {d : Demand} {i : Implication} (hd : d ∈ ds)
    (asked : d.implication? = some i) : i ∈ implications ds :=
  List.mem_filterMap.2 ⟨d, hd, asked⟩

theorem mem_implications {ds : List Demand} {i : Implication} :
    i ∈ implications ds ↔ .implication i ∈ ds := by
  rw [implications, List.mem_filterMap]
  constructor
  · rintro ⟨d, hd, asked⟩
    cases d <;> simp_all [implication?]
  · exact fun hi => ⟨_, hi, rfl⟩

/-- Whether constraints are those of a demand. -/
def IsRecordedAs : Demand → List Constraint → Prop
  | nothing, cs => cs = []
  | relation r, cs => ∃ description, cs = [r.constraint description]
  | implication i, cs => ∃ origin, cs = i.constraints origin

/-- **The constraints of a demand hold where it is met.** -/
theorem IsRecordedAs.hold_iff {d : Demand} {cs : List Constraint} {x : Point}
    (recorded : d.IsRecordedAs cs)
    (switch : ∀ i, d.implication? = some i → x i.indicator.index = 0 ∨ x i.indicator.index = 1) :
    (∀ c ∈ cs, c.Holds x) ↔ d.holds x = true := by
  cases d with
  | nothing =>
    obtain rfl : cs = [] := recorded
    simp [holds]
  | relation r =>
    obtain ⟨description, rfl⟩ := recorded
    simp [holds]
  | implication i =>
    obtain ⟨origin, rfl⟩ := recorded
    rw [Implication.constraints_hold_iff (switch i rfl)]
    simp [holds, and_comm]

end Demand

/-- What a request demands, read by the registry of a session. The answer to an implication is its
holder. -/
def Request.demand (s : Session) (answer : Option Value) : Request → Except Fault Demand
  | bind .. => return .nothing
  | enforceValue key value => do
    let v ← s.registry.resolve key
    return .relation ⟨⟨[(v, 1)]⟩, .eq, ← value.asInteger ""⟩
  | enforce keys coefficients value relation _ => do
    return .relation (← ConditionRequest.read s ⟨keys, coefficients, value, relation⟩)
  | ifThen premise consequence _ => do
    let indicator ← s.registry.resolve (answer.getD .none)
    return .implication ⟨indicator, ← premise.read s, ← consequence.read s⟩

/-- What an implication demands. -/
theorem Request.demand_ifThen {s : Session} {answer : Option Value}
    {premise consequence : ConditionRequest} (description : Value) {d : Demand}
    (demanded : (Request.ifThen premise consequence description).demand s answer = .ok d) :
    ∃ i, d = .implication i ∧ s.registry.resolve (answer.getD .none) = .ok i.indicator ∧
      premise.read s = .ok i.premise ∧ consequence.read s = .ok i.consequence := by
  simp only [demand, bind_eq_ok, pure_eq_ok, Except.ok.injEq] at demanded
  obtain ⟨b, resolved, p, readP, e, readE, rfl⟩ := demanded
  exact ⟨_, rfl, resolved, readP, readE⟩

/-- What an event demands. Only what was accepted does. -/
def Event.demand (s : Session) : Event → Except Fault Demand
  | accepted request answer _ => request.demand s answer
  | _ => return .nothing

/-- More entries change nothing of what a request demands. -/
theorem Request.demand_of_isPrefix {s t : Session} {answer : Option Value} {request : Request}
    {d : Demand} (more : s.registry.entries <+: t.registry.entries)
    (demanded : request.demand s answer = .ok d) : request.demand t answer = .ok d := by
  cases request with
  | bind => exact demanded
  | enforceValue key value =>
    simp only [demand, bind_eq_ok] at demanded ⊢
    obtain ⟨v, resolved, rest⟩ := demanded
    exact ⟨v, Registry.resolve_of_isPrefix more resolved, rest⟩
  | enforce keys coefficients value relation description =>
    simp only [demand, bind_eq_ok] at demanded ⊢
    obtain ⟨r, read, rest⟩ := demanded
    exact ⟨r, ConditionRequest.read_of_isPrefix more read, rest⟩
  | ifThen premise consequence description =>
    simp only [demand, bind_eq_ok] at demanded ⊢
    obtain ⟨b, resolved, p, readP, e, readE, rest⟩ := demanded
    exact ⟨b, Registry.resolve_of_isPrefix more resolved,
      p, ConditionRequest.read_of_isPrefix more readP,
      e, ConditionRequest.read_of_isPrefix more readE, rest⟩

theorem Event.demand_of_isPrefix {s t : Session} {event : Event} {d : Demand}
    (more : s.registry.entries <+: t.registry.entries) (demanded : event.demand s = .ok d) :
    event.demand t = .ok d := by
  cases event with
  | accepted request answer recorded => exact Request.demand_of_isPrefix more demanded
  | refused request fault => exact demanded
  | solved keys coefficients sense ending => exact demanded

/-- What becomes of a session when it accepts a request. -/
structure Request.IsAccepted (request : Request) (s : Session) (answer : Option Value) (d : Demand)
    (cs : List Constraint) (t : Session) : Prop where
  coherent : t.IsCoherent
  config : t.config = s.config
  entries : s.registry.entries <+: t.registry.entries
  constraints : t.model.constraints = s.model.constraints ++ cs
  demand : request.demand t answer = .ok d
  recorded : d.IsRecordedAs cs
  covered : ∀ i, d.implication? = some i → i.IsOver t.registry.vars
  inputs : ∀ i, d.implication? = some i → ∀ v ∈ i.inputs, v ∈ s.registry.vars
  fresh : ∀ i, d.implication? = some i → ∀ v ∈ s.registry.vars, v.index < i.indicator.index

variable {s t : Session} {answer : Option Value}

/-- A request that demands nothing and leaves a session as it was is accepted. -/
theorem Request.isAccepted_self (C : s.IsCoherent) {request : Request}
    (demand : request.demand s answer = .ok .nothing) :
    request.IsAccepted s answer .nothing [] s where
  coherent := C
  config := rfl
  entries := List.prefix_rfl
  constraints := (List.append_nil _).symm
  demand := demand
  recorded := rfl
  covered := by simp [Demand.implication?]
  inputs := by simp [Demand.implication?]
  fresh := by simp [Demand.implication?]

/-- A request that records a linear relation is accepted. -/
theorem Request.isAccepted_record (C : s.IsCoherent) {request : Request} {r : LinearRelation}
    (own : ∀ v ∈ r.sum.vars, v ∈ s.registry.vars)
    (demand : request.demand s answer = .ok (.relation r)) (description : Value) :
    request.IsAccepted s answer (.relation r) [r.constraint description]
      (s.record [r.constraint description]) where
  coherent := by
    rw [C.inStep] at own
    apply C.record
    rw [List.forall_mem_singleton]
    exact ⟨⟨r.sum, rfl, own⟩, ⟨_, rfl⟩, by simp [LinearRelation.constraint]⟩
  config := rfl
  entries := List.prefix_rfl
  constraints := rfl
  demand := demand
  recorded := ⟨description, rfl⟩
  covered := by simp [Demand.implication?]
  inputs := by simp [Demand.implication?]
  fresh := by simp [Demand.implication?]

/-- A request that records an implication is accepted. -/
theorem Request.isAccepted_imply (C : s.IsCoherent) {premise consequence : ConditionRequest}
    {p e : LinearRelation} (readP : premise.read s = .ok p) (readE : consequence.read s = .ok e)
    (description : Value) :
    (Request.ifThen premise consequence description).IsAccepted s
      (some (.holder s.nextCondition description))
      (.implication ⟨s.indicator description, p, e⟩)
      (Implication.constraints ⟨s.indicator description, p, e⟩ description.shown)
      (s.imply p e description) := by
  have ownP := ConditionRequest.mem_vars_of_read readP
  have ownE := ConditionRequest.mem_vars_of_read readE
  have more : s.registry.entries <+: (s.imply p e description).registry.entries :=
    List.prefix_append _ _
  have coherent := C.imply ownP ownE description
  refine ⟨coherent, rfl, more, rfl, ?_, ⟨_, rfl⟩, ?_, ?_, ?_⟩
  · simp [demand, C.resolve_holder, ConditionRequest.read_of_isPrefix more readP,
      ConditionRequest.read_of_isPrefix more readE]
  · rintro i ⟨⟩
    rw [coherent.inStep]
    exact C.isOver_indicator ownP ownE description
  · rintro i ⟨⟩ v hv
    rcases List.mem_append.1 hv with premise | consequence
    · exact ownP v premise
    · exact ownE v consequence
  · rintro i ⟨⟩ v hv
    rw [C.inStep] at hv
    exact (C.model.index_nonneg hv).2

/-- **A request is refused and changes nothing, or is accepted.** -/
theorem Request.perform_cases (C : s.IsCoherent) {request : Request}
    (possible : request.IsPossible s) {ending : Except Fault (Option Value)}
    (ran : request.perform.on s = (ending, t)) :
    (∃ fault, ending = .error fault ∧ t = s) ∨
      ∃ answer d cs, ending = .ok answer ∧ request.IsAccepted s answer d cs t := by
  cases request with
  | bind key minimum maximum description =>
    simp only [perform, bind_pure_comp] at ran
    obtain ⟨e, ended, rfl⟩ := Attempt.on_map_cases ran
    rcases Session.bind_cases C ended with ⟨fault, rfl, rfl⟩ | ⟨v, rfl, -, rfl⟩ |
      ⟨lower, upper, v, rfl, -, range, rfl, rfl⟩
    · exact .inl ⟨fault, rfl, rfl⟩
    · exact .inr ⟨none, .nothing, [], rfl, isAccepted_self C rfl⟩
    · refine .inr ⟨none, .nothing, [], rfl, ?_⟩
      exact {
        coherent := C.enter (Registry.le_of_range_eq_ok range) _ possible
        config := rfl
        entries := List.prefix_append _ _
        constraints := (List.append_nil _).symm
        demand := rfl
        recorded := rfl
        covered := by simp [Demand.implication?]
        inputs := by simp [Demand.implication?]
        fresh := by simp [Demand.implication?] }
  | enforceValue key value =>
    simp only [perform, bind_pure_comp] at ran
    obtain ⟨e, ended, rfl⟩ := Attempt.on_map_cases ran
    rcases Session.enforceValue_cases C ended with ⟨fault, rfl, rfl⟩ |
      ⟨v, n, c, text, resolved, integer, rfl, rfl⟩
    · exact .inl ⟨fault, rfl, rfl⟩
    · refine .inr ⟨none, _, _, rfl, isAccepted_record C ?_ ?_ text⟩
      · simpa using Registry.mem_vars_of_resolve resolved
      · simp [demand, resolved, integer]
  | enforce keys coefficients value relation description =>
    simp only [perform, bind_pure_comp] at ran
    obtain ⟨e, ended, rfl⟩ := Attempt.on_map_cases ran
    rcases Session.enforce_cases C ended with ⟨fault, rfl, rfl⟩ | ⟨r, c, read, rfl, rfl⟩
    · exact .inl ⟨fault, rfl, rfl⟩
    · refine .inr ⟨none, _, _, rfl, isAccepted_record C ?_ ?_ description⟩
      · exact ConditionRequest.mem_vars_of_read read
      · simp [demand, read]
  | ifThen premise consequence description =>
    simp only [perform, bind_pure_comp] at ran
    obtain ⟨e, ended, rfl⟩ := Attempt.on_map_cases ran
    rcases Session.ifThen_cases C ended with ⟨fault, rfl, rfl⟩ | ⟨p, e, readP, readE, rfl, rfl⟩
    · exact .inl ⟨fault, rfl, rfl⟩
    · exact .inr ⟨_, _, _, rfl, isAccepted_imply C readP readE description⟩

namespace Session

variable {log : List Event} {ds : List Demand} {event : Event} {d : Demand}

/-- A request whose answer is known is accepted. -/
theorem Run.next (run : Run s log) (request : Request) (answer : Option Value)
    (possible : request.IsPossible s) (returned : (request.perform.on s).1 = .ok answer) :
    Run (request.perform.on s).2 (log ++ [.accepted request answer
      ((request.perform.on s).2.model.constraints.drop s.model.constraints.length)]) :=
  run.accept possible (Prod.ext returned rfl)

/-- What holds of a session and its events, given what they demand: the constraints of the model are
those that the events recorded, which are those of their demands, and the implications among these
build on earlier ones only. -/
structure Explains (s : Session) (log : List Event) (ds : List Demand) : Prop where
  coherent : s.IsCoherent
  constraints : s.model.constraints = log.flatMap Event.recorded
  demands : List.Forall₂ (fun e d => e.demand s = .ok d ∧ d.IsRecordedAs e.recorded) log ds
  layered : IsLayered (Demand.implications ds)
  covered : ∀ i ∈ Demand.implications ds, i.IsOver s.registry.vars

/-- An event of the log has a demand, which is what was recorded for it. -/
theorem Explains.demand_of_mem (H : s.Explains log ds) (listed : event ∈ log) :
    ∃ d ∈ ds, event.demand s = .ok d ∧ d.IsRecordedAs event.recorded :=
  exists_mem_of_forall₂ H.demands event listed

/-- One more event with its demand. -/
theorem Explains.snoc (H : s.Explains log ds) (coherent : t.IsCoherent)
    (more : s.registry.entries <+: t.registry.entries)
    (constraints : t.model.constraints = s.model.constraints ++ event.recorded)
    (demanded : event.demand t = .ok d) (recorded : d.IsRecordedAs event.recorded)
    (covered : ∀ i, d.implication? = some i → i.IsOver t.registry.vars)
    (inputs : ∀ i, d.implication? = some i → ∀ v ∈ i.inputs, v ∈ s.registry.vars)
    (fresh : ∀ i, d.implication? = some i → ∀ v ∈ s.registry.vars, v.index < i.indicator.index) :
    t.Explains (log ++ [event]) (ds ++ [d]) where
  coherent := coherent
  constraints := by simp [constraints, H.constraints]
  demands := by
    refine List.rel_append ?_ (.cons ⟨demanded, recorded⟩ .nil)
    exact H.demands.imp fun e d ⟨asked, made⟩ => ⟨Event.demand_of_isPrefix more asked, made⟩
  layered := by
    rw [Demand.implications_snoc]
    cases asked : d.implication? with
    | none => simpa [asked] using H.layered
    | some i => simpa [asked] using H.layered.snoc H.covered (inputs i asked) (fresh i asked)
  covered := by
    have kept : s.registry.vars ⊆ t.registry.vars := (more.map Prod.snd).subset
    rw [Demand.implications_snoc]
    intro i hi
    rcases List.mem_append.1 hi with old | new
    · have before := H.covered i old
      exact ⟨kept before.indicator, before.boolean, fun v hv => kept (before.premise v hv),
        fun v hv => kept (before.consequence v hv)⟩
    · exact covered i (by simpa using new)

/-- One more event that demands nothing and leaves what requests have built. -/
theorem Explains.idle (H : s.Explains log ds) (same : t.content = s.content)
    (demanded : event.demand t = .ok .nothing) (nothing : event.recorded = []) :
    t.Explains (log ++ [event]) (ds ++ [.nothing]) := by
  have registry : t.registry = s.registry := congrArg (·.registry) same
  have constraints : t.model.constraints = s.model.constraints :=
    congrArg (·.model.constraints) same
  apply H.snoc (H.coherent.of_content same) _ _ demanded nothing
  · simp [Demand.implication?]
  · simp [Demand.implication?]
  · simp [Demand.implication?]
  · exact registry ▸ List.prefix_rfl
  · rw [constraints, nothing, List.append_nil]

theorem explains_new {config : Config} (made : Session.new config = .ok s) : s.Explains [] [] := by
  simp only [Session.new, bind_eq_ok, pure_eq_ok, Except.ok.injEq] at made
  obtain ⟨valid, -, rfl⟩ := made
  refine ⟨⟨⟨?_, ?_, ?_, ?_⟩, rfl, ?_⟩, rfl, .nil, .nil, ?_⟩ <;> simp

/-- **The constraints of a session that calls led to are those of their demands, in order.** -/
theorem Run.explained (run : Run s log) : ∃ ds, s.Explains log ds := by
  induction run with
  | new made => exact ⟨[], explains_new made⟩
  | accept run possible ran ih =>
    obtain ⟨ds, H⟩ := ih
    rcases Request.perform_cases H.coherent possible ran with ⟨fault, failed, -⟩ |
      ⟨answer, d, cs, returned, A⟩
    · simp at failed
    · obtain rfl := Except.ok.inj returned
      refine ⟨ds ++ [d], H.snoc A.coherent A.entries ?_ A.demand ?_ A.covered A.inputs A.fresh⟩
      · simp [Event.recorded, A.constraints]
      · simpa [Event.recorded, A.constraints] using A.recorded
  | refuse run possible ran ih =>
    obtain ⟨ds, H⟩ := ih
    rcases Request.perform_cases H.coherent possible ran with ⟨fault, -, rfl⟩ |
      ⟨answer, d, cs, returned, -⟩
    · exact ⟨_, H.idle rfl rfl rfl⟩
    · simp at returned
  | solve run engine ran ih =>
    obtain ⟨ds, H⟩ := ih
    exact ⟨_, H.idle (solve_content H.coherent ran) rfl rfl⟩

end Session

end IntegerProgram
