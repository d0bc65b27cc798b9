import IntegerProgram.Proofs.Session.History

/-!
# What a session looks like

After any calls, those that fail included, a session has the shape that its history gives it. Its
variables are numbered by place and each is entered under one key. Its constraints are, call by
call, one for each value or relation that was required and three for each implication, under an
indicator that nothing has mentioned before. Each solve whose arguments are in order has left a
search hint.

## Main definitions

* `Step.Records`, `Session.Recorded`: the constraints that a step and a history record.
* `Session.IsStructured`: the shape of a session with a given history.

## Main statements

* `Session.isStructured_after`: every session that calls lead to has this shape.
-/
namespace IntegerProgram

/-- Whether a variable occurs in the sum or in the gate of a constraint. -/
def Constraint.Mentions (c : Constraint) (v : Variable) : Prop :=
  v ∈ c.sum.vars ∨ ∃ g, c.gate = some g ∧ g.indicator = v

/-- A constraint without a gate, with a comparison that callers can ask for. -/
structure Constraint.IsDirect (c : Constraint) : Prop where
  gate : c.gate = none
  operator : ∃ op ∈ [Comparison.eq, .ge, .gt, .le, .lt], c.operator = .known op

theorem Constraint.IsOver.mem_of_mentions {c : Constraint} {vs : List Variable} (H : c.IsOver vs)
    {v : Variable} (mentioned : c.Mentions v) : v ∈ vs := by
  obtain ⟨s, whole, own⟩ := H.whole
  rcases mentioned with summed | ⟨g, gated, rfl⟩
  · rw [whole, LinearForm.vars_whole] at summed
    exact own v summed
  · exact (H.gate g gated).own

theorem Relation.comparison_mem (r : Relation) :
    r.comparison ∈ [Comparison.eq, .ge, .gt, .le, .lt] := by
  cases r <;> decide

theorem Relation.comparison_ne (r : Relation) : r.comparison ≠ .ne := by
  cases r <;> decide

theorem LinearRelation.isDirect_constraint (r : LinearRelation) (description : Value) :
    (r.constraint description).IsDirect :=
  ⟨rfl, _, r.relation.comparison_mem, rfl⟩

/-- The constraints of an implication are gated on its indicator. -/
theorem Implication.gates_constraints (i : Implication) (origin : String) :
    (i.constraints origin).map (·.gate) =
      [some ⟨i.indicator, .int 1⟩, some ⟨i.indicator, .int 0⟩, some ⟨i.indicator, .int 0⟩] := rfl

namespace Step

/-- The holder that a step has returned. -/
def holder? (step : Step) : Option Value :=
  match step.ending with
  | .ok (.holder h) => some h
  | _ => none

/-- The sum that a solve is to optimise, if its arguments are in order: as many coefficients as
keys, keys that are bound, and integers. -/
def posed? (step : Step) : Option WeightedSum :=
  match step.call with
  | .solve _ keys coefficients _ => (step.before.sumOf keys coefficients (.text "")).toOption
  | _ => none

/-- A solve can only be posed over variables that are bound. -/
theorem mem_vars_of_posed? {step : Step} {sum : WeightedSum} (posed : step.posed? = some sum) :
    ∀ v ∈ sum.vars, v ∈ step.before.registry.vars := by
  unfold posed? at posed
  split at posed
  · next keys coefficients _ _ =>
    cases summed : step.before.sumOf keys coefficients (.text "") with
    | ok sum' =>
      obtain rfl : sum' = sum := by simpa [summed, Except.toOption] using posed
      exact Session.mem_vars_of_sumOf summed
    | error _ => simp [summed, Except.toOption] at posed
  · simp at posed

/-- Whether a step has required a value or a relation. -/
def isEnforced (step : Step) : Bool :=
  match step.call, step.ending with
  | .request (.enforceValue ..), .ok _ | .request (.enforce ..), .ok _ => true
  | _, _ => false

/-- The constraints that a step records after earlier ones: one for a value or a relation, and for
an implication three under the variable of its holder, which occurs neither in their sums nor in
what was recorded earlier. -/
inductive Records (r : Registry) (earlier : List Constraint) (step : Step) : List Constraint → Prop
  | one {c : Constraint} (enforced : step.isEnforced = true) (direct : c.IsDirect) :
      Records r earlier step [c]
  | three {cs : List Constraint} {h : Value} {b : Variable} (returned : step.holder? = some h)
      (resolved : r.resolve h = .ok b)
      (gates : cs.map (·.gate) = [some ⟨b, .int 1⟩, some ⟨b, .int 0⟩, some ⟨b, .int 0⟩])
      (apart : ∀ c ∈ cs, b ∉ c.sum.vars) (fresh : ∀ c ∈ earlier, ¬c.Mentions b) :
      Records r earlier step cs
  | none (unenforced : step.isEnforced = false) (unreturned : step.holder? = none) :
      Records r earlier step []

/-- More entries change nothing of what a step records. -/
theorem Records.of_isPrefix {r t : Registry} {earlier cs : List Constraint} {step : Step}
    (more : r.entries <+: t.entries) (records : step.Records r earlier cs) :
    step.Records t earlier cs := by
  cases records with
  | one enforced direct => exact .one enforced direct
  | three returned resolved gates apart fresh =>
    exact .three returned (Registry.resolve_of_isPrefix more resolved) gates apart fresh
  | none unenforced unreturned => exact .none unenforced unreturned

end Step

namespace Session

/-- The constraints that steps record, one after the other. -/
inductive Recorded (r : Registry) : List Step → List Constraint → Prop
  | nil : Recorded r [] []
  | snoc {steps : List Step} {earlier cs : List Constraint} {step : Step}
      (recorded : Recorded r steps earlier) (records : step.Records r earlier cs) :
      Recorded r (steps ++ [step]) (earlier ++ cs)

theorem Recorded.of_isPrefix {r t : Registry} {steps : List Step} {cs : List Constraint}
    (more : r.entries <+: t.entries) (recorded : Recorded r steps cs) : Recorded t steps cs := by
  induction recorded with
  | nil => exact .nil
  | snoc _ records ih => exact .snoc ih (records.of_isPrefix more)

/-- The shape of a session with a given history: its variables have the indexes of their places, and
each is that of one entry; nothing mentions others. The holders are numbered from one, and each is
bound to a variable with the values zero and one. The constraints are those that the steps record,
of which only some that bind while an indicator is zero are disequalities. The search hints are
those of the solves whose arguments were in order. -/
structure IsStructured (s : Session) (steps : List Step) : Prop where
  index : ∀ (i : Nat) (v : Variable), s.model.vars[i]? = some v → v.index = i
  keyed : ∀ v ∈ s.model.vars, ∃! i : Nat, ∃ key, s.registry.entries[i]? = some (key, v)
  constraints : ∀ c ∈ s.model.constraints, ∀ v, c.Mentions v → v ∈ s.registry.vars
  strategies : ∀ vs ∈ s.model.strategies, ∀ v ∈ vs, v ∈ s.registry.vars
  objective : ∀ o, s.model.objective = some o → ∀ v ∈ o.sum.vars, v ∈ s.registry.vars
  holders : ∀ (n : Nat) (h : Value), (steps.filterMap Step.holder?)[n]? = some h →
    ∃ description b, h = .holder (n + 1) description ∧ s.registry.resolve h = .ok b ∧
      b.lower = 0 ∧ b.upper = 1
  recorded : Recorded s.registry steps s.model.constraints
  unequal : ∀ c ∈ s.model.constraints, c.operator = .known .ne →
    ∃ b, c.gate = some ⟨b, .int 0⟩
  next : s.nextCondition = (steps.filterMap Step.holder?).length + 1
  hints : s.model.strategies = (steps.filterMap Step.posed?).map WeightedSum.vars

variable {s t : Session} {step : Step} {steps : List Step}

/-- Each variable of the table is that of one entry. -/
theorem IsCoherent.keyed (C : s.IsCoherent) {v : Variable} (hv : v ∈ s.model.vars) :
    ∃! i : Nat, ∃ key, s.registry.entries[i]? = some (key, v) := by
  have entered (i : Nat) :
      (∃ key, s.registry.entries[i]? = some (key, v)) ↔ s.model.vars[i]? = some v := by
    rw [← C.inStep, Registry.vars, List.getElem?_map, Option.map_eq_some_iff]
    constructor
    · rintro ⟨key, found⟩
      exact ⟨_, found, rfl⟩
    · rintro ⟨⟨key, w⟩, found, rfl⟩
      exact ⟨key, found⟩
  simp only [entered]
  obtain ⟨i, hi, rfl⟩ := List.mem_iff_getElem.1 hv
  refine ⟨i, List.getElem?_eq_getElem hi, fun j found => ?_⟩
  have here := C.model.index i _ (List.getElem?_eq_getElem hi)
  have there := C.model.index j _ found
  omega

theorem IsCoherent.mem_vars_of_mentions (C : s.IsCoherent) :
    ∀ c ∈ s.model.constraints, ∀ v, c.Mentions v → v ∈ s.registry.vars := by
  intro c hc v mentioned
  rw [C.inStep]
  exact (C.model.constraints c hc).mem_of_mentions mentioned

theorem isStructured_new {config : Config} (made : Session.new config = .ok s) :
    s.IsStructured [] := by
  simp only [Session.new, bind_eq_ok, pure_eq_ok, Except.ok.injEq] at made
  obtain ⟨valid, -, rfl⟩ := made
  constructor <;> simp [Recorded.nil]

/-- What a step adds to a session: constraints, a search hint if it has posed an objective, and the
number of the holder if it has returned one. -/
structure Extends (step : Step) (cs : List Constraint) : Prop where
  entries : step.before.registry.entries <+: step.after.registry.entries
  constraints : step.after.model.constraints = step.before.model.constraints ++ cs
  records : step.Records step.after.registry step.before.model.constraints cs
  unequal : ∀ c ∈ cs, c.operator = .known .ne → ∃ b, c.gate = some ⟨b, .int 0⟩
  strategies : step.after.model.strategies =
    step.before.model.strategies ++ (step.posed?.map WeightedSum.vars).toList
  objective : ∀ o, step.after.model.objective = some o →
    step.before.model.objective = some o ∨ ∃ sum, step.posed? = some sum ∧ o.sum = .whole sum
  holder : ∀ h, step.holder? = some h → ∃ description b,
    h = .holder step.before.nextCondition description ∧
      step.after.registry.resolve h = .ok b ∧ b.lower = 0 ∧ b.upper = 1
  next : step.after.nextCondition = step.before.nextCondition + step.holder?.toList.length

/-- A step that records no constraint and returns no holder. -/
theorem Extends.unrecorded (more : step.before.registry.entries <+: step.after.registry.entries)
    (same : step.after.model.constraints = step.before.model.constraints)
    (next : step.after.nextCondition = step.before.nextCondition)
    (unenforced : step.isEnforced = false) (unreturned : step.holder? = none)
    (strategies : step.after.model.strategies =
      step.before.model.strategies ++ (step.posed?.map WeightedSum.vars).toList)
    (objective : ∀ o, step.after.model.objective = some o →
      step.before.model.objective = some o ∨ ∃ sum, step.posed? = some sum ∧ o.sum = .whole sum) :
    Extends step [] where
  entries := more
  constraints := by rw [same, List.append_nil]
  records := .none unenforced unreturned
  unequal := by simp
  strategies := strategies
  objective := objective
  holder := by simp [unreturned]
  next := by simp [next, unreturned]

/-- A step that leaves the session as it was. -/
theorem Extends.idle (same : step.after = step.before) (unenforced : step.isEnforced = false)
    (unreturned : step.holder? = none) (unposed : step.posed? = none) : Extends step [] := by
  apply unrecorded _ _ _ unenforced unreturned
  · simp [same, unposed]
  · rw [same]
    exact fun _ => .inl
  · simp only [same, List.prefix_rfl]
  · rw [same]
  · rw [same]

/-- A step that records one constraint and changes nothing else. -/
theorem Extends.direct {c : Constraint} (recorded : step.after = step.before.record [c])
    (enforced : step.isEnforced = true) (direct : c.IsDirect) (unreturned : step.holder? = none)
    (unposed : step.posed? = none) : Extends step [c] where
  entries := by rw [recorded]; exact List.prefix_rfl
  constraints := by rw [recorded]; rfl
  records := .one enforced direct
  unequal := by
    obtain ⟨op, listed, known⟩ := direct.operator
    rw [List.forall_mem_singleton, known]
    rintro ⟨⟩
    simp at listed
  strategies := by rw [recorded, unposed]; simp
  objective := by rw [recorded]; exact fun _ => .inl
  holder := by simp [unreturned]
  next := by rw [recorded, unreturned]; rfl

/-- A fresh indicator is no variable of the session. -/
theorem IsCoherent.indicator_notMem (C : s.IsCoherent) (description : Value) :
    s.indicator description ∉ s.registry.vars := by
  intro own
  rw [C.inStep] at own
  have place : (s.indicator description).index = s.model.vars.length := rfl
  have := C.model.index_nonneg own
  omega

/-- A step that requires an implication. -/
theorem Extends.implied (C : s.IsCoherent) {call : Call} {description : Value}
    {p e : LinearRelation} (ownP : ∀ v ∈ p.sum.vars, v ∈ s.registry.vars)
    (ownE : ∀ v ∈ e.sum.vars, v ∈ s.registry.vars)
    (unposed : (⟨s, call, .ok (.holder (.holder s.nextCondition description)),
      s.imply p e description⟩ : Step).posed? = none) :
    Extends ⟨s, call, .ok (.holder (.holder s.nextCondition description)), s.imply p e description⟩
      (Implication.constraints ⟨s.indicator description, p, e⟩ description.shown) where
  entries := List.prefix_append _ _
  constraints := rfl
  records := by
    have new := C.indicator_notMem description
    refine .three rfl (C.resolve_holder p e description) (Implication.gates_constraints _ _) ?_ ?_
    · simp only [Implication.constraints, LinearRelation.thenConstraint,
        LinearRelation.elseConstraint, List.forall_mem_cons, LinearForm.vars_whole]
      exact ⟨fun own => new (ownE _ own), fun own => new (ownE _ own),
        fun own => new (ownP _ own), by simp⟩
    · exact fun c hc mentioned => new (C.mem_vars_of_mentions c hc _ mentioned)
  unequal := by
    simp only [Implication.constraints, LinearRelation.thenConstraint,
      LinearRelation.elseConstraint, List.forall_mem_cons]
    refine ⟨?_, fun _ => ⟨_, rfl⟩, fun _ => ⟨_, rfl⟩, by simp⟩
    rintro same
    exact absurd (Operator.known.inj same) e.relation.comparison_ne
  strategies := by rw [unposed]; exact (List.append_nil _).symm
  objective := fun _ => .inl
  holder := by
    rintro h ⟨⟩
    exact ⟨description, _, rfl, C.resolve_holder p e description, rfl, rfl⟩
  next := rfl

/-- A step that poses an objective, whatever comes of it. -/
theorem Extends.posed {sum : WeightedSum} {sense : Sense} (posed : step.posed? = some sum)
    (model : step.after.model = (step.before.posed sum sense).model)
    (registry : step.after.registry = step.before.registry)
    (next : step.after.nextCondition = step.before.nextCondition)
    (unenforced : step.isEnforced = false) (unreturned : step.holder? = none) :
    Extends step [] := by
  apply unrecorded _ _ next unenforced unreturned
  · rw [model, posed]
    rfl
  · rw [model]
    rintro o ⟨⟩
    exact .inr ⟨sum, posed, rfl⟩
  · simp only [registry, List.prefix_rfl]
  · rw [model]
    rfl

/-- **What a step adds to a coherent session.** -/
theorem Turn.extends (C : s.IsCoherent) {call : Call} {ending : Except Fault Reply}
    (turn : s.Turn call ending t) : ∃ cs, Extends ⟨s, call, ending, t⟩ cs := by
  cases turn with
  | @refused request fault =>
    refine ⟨_, .idle rfl ?_ rfl rfl⟩
    cases request <;> rfl
  | found known => exact ⟨_, .idle rfl rfl rfl rfl⟩
  | entered ordered possible =>
    exact ⟨_, .unrecorded (List.prefix_append _ _) rfl rfl rfl rfl (List.append_nil _).symm
      fun _ => .inl⟩
  | valued text resolved integer =>
    exact ⟨_, .direct rfl rfl (LinearRelation.isDirect_constraint _ _) rfl rfl⟩
  | related read => exact ⟨_, .direct rfl rfl (LinearRelation.isDirect_constraint _ _) rfl rfl⟩
  | implied readP readE =>
    exact ⟨_, .implied C (ConditionRequest.mem_vars_of_read readP)
      (ConditionRequest.mem_vars_of_read readE) rfl⟩
  | @unposed engine keys coefficients sense fault none =>
    refine ⟨_, .idle rfl rfl rfl ?_⟩
    cases summed : s.sumOf keys coefficients (.text "") with
    | ok sum => exact absurd summed (none sum)
    | error _ => simp [Step.posed?, summed, Except.toOption]
  | unanswered summed failed =>
    exact ⟨_, .posed (by simp [Step.posed?, summed, Except.toOption]) rfl rfl rfl rfl rfl⟩
  | @answered engine keys coefficients sense sum o summed outcome r =>
    refine ⟨_, .posed (by simp [Step.posed?, summed, Except.toOption]) rfl rfl rfl rfl ?_⟩
    cases (s.posed sum sense).valuesAt o <;> simp [Step.holder?]

/-- What the last of several steps contributes comes last. -/
theorem filterMap_snoc {α : Type} (f : Step → Option α) :
    (steps ++ [step]).filterMap f = steps.filterMap f ++ (f step).toList := by
  rw [List.filterMap_append]
  cases given : f step <;> simp [given]

/-- A step keeps the shape of a session. -/
theorem IsStructured.snoc (S : step.before.IsStructured steps) (C : step.after.IsCoherent)
    {cs : List Constraint} (E : Extends step cs) : step.after.IsStructured (steps ++ [step]) := by
  have kept : step.before.registry.vars ⊆ step.after.registry.vars :=
    (E.entries.map Prod.snd).subset
  refine {
    index := C.model.index
    keyed := fun v hv => C.keyed hv
    constraints := C.mem_vars_of_mentions
    strategies := ?_
    objective := ?_
    holders := ?_
    recorded := ?_
    unequal := ?_
    next := ?_
    hints := ?_ }
  · rw [E.strategies, List.forall_mem_append]
    refine ⟨fun vs hvs v hv => kept (S.strategies vs hvs v hv), ?_⟩
    intro vs hvs v hv
    rw [Option.mem_toList, Option.map_eq_some_iff] at hvs
    obtain ⟨sum, posed, rfl⟩ := hvs
    exact kept (Step.mem_vars_of_posed? posed v hv)
  · intro o given v hv
    rcases E.objective o given with before | ⟨sum, posed, whole⟩
    · exact kept (S.objective o before v hv)
    · rw [whole, LinearForm.vars_whole] at hv
      exact kept (Step.mem_vars_of_posed? posed v hv)
  · intro n h listed
    rw [filterMap_snoc, List.getElem?_append] at listed
    split at listed
    · obtain ⟨description, b, same, resolved, bounds⟩ := S.holders n h listed
      exact ⟨description, b, same, Registry.resolve_of_isPrefix E.entries resolved, bounds⟩
    · next beyond =>
      -- the holder is that of this step, and its number is the one that was to be issued next
      have last : n = (steps.filterMap Step.holder?).length ∧ step.holder? = some h := by
        cases returned : step.holder? with
        | none => simp [returned] at listed
        | some h' =>
          rw [returned, Option.toList_some, List.getElem?_singleton] at listed
          split at listed
          · exact ⟨by omega, listed⟩
          · simp at listed
      obtain ⟨description, b, same, rest⟩ := E.holder h last.2
      rw [S.next, ← last.1] at same
      exact ⟨description, b, same, rest⟩
  · rw [E.constraints]
    exact .snoc (S.recorded.of_isPrefix E.entries) E.records
  · rw [E.constraints, List.forall_mem_append]
    exact ⟨S.unequal, E.unequal⟩
  · rw [E.next, S.next, filterMap_snoc, List.length_append]
    omega
  · rw [E.strategies, S.hints, filterMap_snoc, List.map_append, Option.toList_map]

/-- **Every session that calls lead to has the shape that its history gives it.** -/
theorem isStructured_after {config : Config} (made : Session.new config = .ok s)
    {calls : List Call} (possible : ∀ step ∈ s.trace calls, step.call.IsPossible step.before) :
    (s.after calls).IsStructured (s.trace calls) := by
  -- what the last call does is known of a coherent session only
  suffices both : (s.after calls).IsCoherent ∧ (s.after calls).IsStructured (s.trace calls) from
    both.2
  induction calls using List.reverseRecOn with
  | nil => exact ⟨isCoherent_new made, isStructured_new made⟩
  | append_singleton calls call ih =>
    rw [trace_append, List.forall_mem_append] at possible
    obtain ⟨C, S⟩ := ih possible.1
    have last := possible.2 _ (List.mem_singleton_self _)
    have turn : (s.after calls).Turn call _ _ := step_turn C last
    obtain ⟨cs, E⟩ := turn.extends C
    rw [trace_append, after_append]
    exact ⟨turn.coherent C, IsStructured.snoc S (turn.coherent C) E⟩

/-- Two implications, of which the second mentions the holder of the first, after a value and before
three solves: one whose engine fails, one that is infeasible, and one over a key that is not bound.
-/
theorem isStructured_after_solves :
    ∃ (s : Session) (calls : List Call), Session.new {} = .ok s ∧
      (∀ step ∈ s.trace calls, step.call.IsPossible step.before) ∧
      (s.after calls).IsStructured (s.trace calls) ∧
      (s.after calls).model.constraints.length = 7 ∧
      (s.after calls).model.strategies.length = 2 := by
  let side (key : Value) (n : Int) (r : Relation) : ConditionRequest :=
    ⟨[key], [.int 1], .int n, .relation r⟩
  let calls : List Call := [
    .request (.bind (.text "a") (.int 0) (.int 3) (.text "a")),
    .request (.enforceValue (.text "a") (.int 2)),
    .request (.ifThen (side (.text "a") 2 .gte) (side (.text "a") 1 .eq) (.text "first")),
    .request (.ifThen (side (.holder 1 (.text "first")) 1 .eq) (side (.text "a") 3 .lt)
      (.text "second")),
    .solve (fun _ _ => .error .notImplemented) [.text "a"] [.int 1] .minimize,
    .solve (fun _ _ => .ok { status := .infeasible }) [.text "a"] [.int 1] .maximize,
    .solve (fun _ _ => .ok { status := .infeasible }) [.text "b"] [.int 1] .maximize]
  have possible : ∀ step ∈ Session.trace { config := {} } calls,
      step.call.IsPossible step.before := by
    simp [calls, Call.IsPossible, Request.IsPossible, Value.key?]
  have structured := isStructured_after (show Session.new {} = .ok _ from rfl) possible
  have recorded : (Session.after { config := {} } calls).model.constraints.length = 7 := by
    decide +kernel
  have hinted : (Session.after { config := {} } calls).model.strategies.length = 2 := by
    decide +kernel
  exact ⟨_, calls, rfl, possible, structured, recorded, hinted⟩

end Session

end IntegerProgram
