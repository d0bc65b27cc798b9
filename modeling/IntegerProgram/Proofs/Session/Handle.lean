import IntegerProgram.Proofs.Registry.History
import IntegerProgram.Proofs.Session.Structure

/-!
# Handles in the place of keys

A call reads nothing of its references but what they are resolved to. So the handle that binding a
key has returned can stand wherever the key can, then and after any later calls: the call returns
the same and leaves the same session. There is one exception. The handle of the key "nothing" is
rejected, although the key is found.

## Main definitions

* `Call.Exchanges`: two calls that differ in nothing but their references.
* `Session.Binds`: a session in which a key is bound to a variable.
* `Session.IsInterchangeable`: whether the handle of a variable can stand for a key.

## Main statements

* `Session.step_congr`: calls whose references are resolved alike go alike.
* `Session.binds_after`: what calls have bound is bound after them.
* `Session.isInterchangeable_iff`: the handle of a key can stand for it, unless the key is nothing.
* `Session.not_isInterchangeable`: the handle of the key nothing.
-/
namespace IntegerProgram

namespace Registry

variable {r : Registry} {a b : Value} {refs others : List Value}

/-- Whether two references are resolved alike. -/
def IsAlike (r : Registry) (a b : Value) : Prop := r.resolve a = r.resolve b

theorem resolveAll_congr (alike : List.Forall₂ r.IsAlike refs others) :
    r.resolveAll refs = r.resolveAll others := by
  induction alike with
  | nil => rfl
  | @cons a b refs others first _ ih =>
    simp only [resolveAll, List.mapM_cons] at ih ⊢
    rw [show r.resolve a = r.resolve b from first, ih]

end Registry

/-- Two calls that differ in nothing but their references, which are related one by one. -/
inductive Call.Exchanges (R : Value → Value → Prop) : Call → Call → Prop
  | enforceValue {a b : Value} (value : Value) (related : R a b) :
      Exchanges R (.request (.enforceValue a value)) (.request (.enforceValue b value))
  | enforce {keys others : List Value} (coefficients : List Value)
      (value relation description : Value) (related : List.Forall₂ R keys others) :
      Exchanges R (.request (.enforce keys coefficients value relation description))
        (.request (.enforce others coefficients value relation description))
  | ifThen {premise consequence : ConditionRequest} {keys others : List Value} (description : Value)
      (premises : List.Forall₂ R premise.keys keys)
      (consequences : List.Forall₂ R consequence.keys others) :
      Exchanges R (.request (.ifThen premise consequence description))
        (.request (.ifThen { premise with keys } { consequence with keys := others } description))
  | solve {keys others : List Value} (engine : Engine) (coefficients : List Value) (sense : Sense)
      (related : List.Forall₂ R keys others) :
      Exchanges R (.solve engine keys coefficients sense) (.solve engine others coefficients sense)

namespace Session

section Exchange

variable {s : Session} {a b : Value} {keys others : List Value} {R : Value → Value → Prop}

theorem sumOf_congr (alike : List.Forall₂ s.registry.IsAlike keys others)
    (coefficients : List Value) (context : Value) :
    s.sumOf keys coefficients context = s.sumOf others coefficients context := by
  rw [sumOf, sumOf, alike.length_eq, Registry.resolveAll_congr alike]

theorem on_enforceValue_congr (alike : s.registry.IsAlike a b) (value : Value) :
    (enforceValue a value).on s = (enforceValue b value).on s := by
  rw [enforceValue, enforceValue, Attempt.on_get_bind, Attempt.on_get_bind,
    show s.registry.resolve a = s.registry.resolve b from alike]

theorem on_enforce_congr (alike : List.Forall₂ s.registry.IsAlike keys others)
    (coefficients : List Value) (value relation description : Value) :
    (enforce keys coefficients value relation description).on s =
      (enforce others coefficients value relation description).on s := by
  rw [enforce, enforce, Attempt.on_get_bind, Attempt.on_get_bind, sumOf_congr alike]

/-- What is checked before the references of an implication are looked up depends on their number
only. -/
theorem on_ifThen_congr {premise consequence : ConditionRequest}
    (premises : List.Forall₂ s.registry.IsAlike premise.keys keys)
    (consequences : List.Forall₂ s.registry.IsAlike consequence.keys others) (description : Value) :
    (ifThen premise consequence description).on s =
      (ifThen { premise with keys } { consequence with keys := others } description).on s := by
  have arity (side : Side) {c : ConditionRequest} {refs : List Value}
      (alike : List.Forall₂ s.registry.IsAlike c.keys refs) :
      requireArity side c description = requireArity side { c with keys := refs } description := by
    rw [requireArity, requireArity, alike.length_eq]
  simp only [ifThen]
  rw [arity .predicate premises, arity .entailment consequences]
  refine Attempt.on_bind_congr rfl fun _ t passed => ?_
  obtain ⟨-, rfl⟩ := Prod.mk.inj ((Attempt.on_liftM _ s).symm.trans passed)
  refine Attempt.on_bind_congr rfl fun _ t passed => ?_
  obtain ⟨-, rfl⟩ := Prod.mk.inj ((Attempt.on_liftM _ s).symm.trans passed)
  rw [Attempt.on_get_bind, Attempt.on_get_bind, sumOf_congr premises, sumOf_congr consequences]

theorem on_solve_congr (alike : List.Forall₂ s.registry.IsAlike keys others) (engine : Engine)
    (coefficients : List Value) (sense : Sense) :
    (solve engine keys coefficients sense).on s =
      (solve engine others coefficients sense).on s := by
  have posed : (pose keys coefficients sense).on s = (pose others coefficients sense).on s := by
    rw [pose, pose, Attempt.on_get_bind, Attempt.on_get_bind, sumOf_congr alike]
  rw [solve, solve]
  exact Attempt.on_bind_congr posed fun _ _ _ => rfl

/-- **Calls whose references are resolved alike go alike**: they return the same and leave the same
session. -/
theorem step_congr {call other : Call} (exchanged : call.Exchanges R other)
    (alike : ∀ a b, R a b → s.registry.IsAlike a b) :
    (s.step call).ending = (s.step other).ending ∧ (s.step call).after = (s.step other).after := by
  have made : call.make.on s = other.make.on s := by
    cases exchanged with
    | enforceValue value related =>
      simp only [Call.make, Attempt.on_map, on_enforceValue_congr (alike _ _ related)]
    | enforce coefficients value relation description related =>
      simp only [Call.make, Attempt.on_map, on_enforce_congr (related.imp alike)]
    | ifThen description premises consequences =>
      simp only [Call.make, Attempt.on_map,
        on_ifThen_congr (premises.imp alike) (consequences.imp alike)]
    | solve engine coefficients sense related =>
      simp only [Call.make, Attempt.on_map, on_solve_congr (related.imp alike)]
  exact Prod.mk.inj made

end Exchange

section Bound

variable {s t : Session} {key minimum maximum description : Value} {h : Variable} {call : Call}

/-- A session in which a key is bound to a variable. -/
structure Binds (s : Session) (key : Value) (h : Variable) : Prop where
  entered : ∃ k, (k, h) ∈ s.registry.entries ∧ k.isSameKey key = true
  found : s.registry.resolve key = .ok h

theorem Binds.of_isPrefix
    (more : s.registry.entries <+: t.registry.entries) (B : s.Binds key h) : t.Binds key h := by
  obtain ⟨k, listed, same⟩ := B.entered
  exact ⟨⟨k, more.subset listed, same⟩, Registry.resolve_of_isPrefix more B.found⟩

/-- A session in which no handle is a key. -/
def LacksHandles (s : Session) : Prop := ∀ e ∈ s.registry.entries, ∀ v, e.1 ≠ .handle v

/-- The entry of a variable is found by its index. -/
theorem IsCoherent.entryAt?_eq_some (C : s.IsCoherent) {e : Value × Variable}
    (listed : e ∈ s.registry.entries) : s.registry.entryAt? e.2.index = some e := by
  have apart : s.registry.entries.Pairwise fun e f => decide (e.2.index = f.2.index) = false := by
    rw [List.pairwise_iff_getElem]
    intro i j hi hj before
    have place (k : Nat) (hk : k < s.registry.entries.length) :
        s.registry.entries[k].2.index = k := by
      apply C.model.index
      rw [← C.inStep, Registry.vars, List.getElem?_map, List.getElem?_eq_getElem hk]
      rfl
    rw [place i hi, place j hj, decide_eq_false_iff_not]
    omega
  exact find?_eq_some_of_pairwise apart listed (decide_eq_true rfl)

/-- Binding a key in a session is binding it in its registry. -/
theorem bind_turn {ending : Except Fault Variable}
    (ran : (bind key minimum maximum description).on s = (ending, t)) :
    Registry.Turn Model.newVariable s.registry s.model key minimum maximum description ending
      t.registry t.model := by
  rw [bind, Attempt.on_focus] at ran
  obtain ⟨rfl, rfl⟩ := Prod.mk.inj ran
  exact Registry.bind_turn rfl

/-- In a session without handles among its keys, nothing is found by a handle as a key. -/
theorem LacksHandles.variableOf?_eq_none (L : s.LacksHandles) (v : Variable) :
    s.registry.variableOf? (.handle v) = none := by
  by_contra known
  obtain ⟨w, known⟩ := Option.ne_none_iff_exists'.1 known
  obtain ⟨k, listed, same⟩ := Registry.exists_mem_of_variableOf? known
  obtain ⟨normal, left, right⟩ := Value.isSameKey_iff.1 same
  obtain rfl : .handle v = normal := Option.some.inj right
  exact L _ listed v (Value.eq_handle_of_key? left)

/-- A call that has bound a key has done so in the session. -/
theorem bind_of_make
    (ran : (Call.request (.bind key minimum maximum description)).make.on s =
      (.ok (.variable h), t)) : (bind key minimum maximum description).on s = (.ok h, t) := by
  obtain ⟨made, bound, same⟩ := Attempt.on_map_cases ran
  cases made with
  | ok v =>
    obtain rfl : h = v := by simpa using same
    exact bound
  | error fault => simp [Functor.map, Except.map] at same

/-- A key that a call has returned a variable for is no handle. -/
theorem LacksHandles.plain_of_bind (L : s.LacksHandles)
    (ran : (bind key minimum maximum description).on s = (.ok h, t)) (v : Variable) :
    key ≠ .handle v := by
  rintro rfl
  rw [bind, Attempt.on_focus] at ran
  obtain ⟨returned, -⟩ := Prod.mk.inj ran
  obtain ⟨fault, failed⟩ := Registry.on_bind_handle (L.variableOf?_eq_none v)
  rw [failed] at returned
  simp at returned

/-- A key that a call has returned a variable for is bound to it from then on. -/
theorem LacksHandles.binds (L : s.LacksHandles)
    (ran : (bind key minimum maximum description).on s = (.ok h, t)) : t.Binds key h := by
  have known := (bind_turn ran).variableOf?_eq_some
  exact ⟨Registry.exists_mem_of_variableOf? known,
    (Registry.resolve_key_eq_ok (L.plain_of_bind ran)).2 known⟩

/-- No call makes a handle a key. -/
theorem LacksHandles.step (C : s.IsCoherent) (L : s.LacksHandles) (possible : call.IsPossible s) :
    (s.step call).after.LacksHandles := by
  suffices kept : ∀ ending t, call.make.on s = (ending, t) → s.Turn call ending t →
      t.LacksHandles from kept _ _ rfl (step_turn C possible)
  intro ending t ran turn
  cases turn with
  | refused | found | valued | related | unposed | unanswered | answered => exact L
  | entered =>
    exact List.forall_mem_append.2
      ⟨L, List.forall_mem_singleton.2 (L.plain_of_bind (bind_of_make ran))⟩
  | implied => exact List.forall_mem_append.2 ⟨L, List.forall_mem_singleton.2 fun v => by simp⟩

/-- **What calls have bound is bound after them**, and no handle is a key. -/
theorem binds_after {config : Config} (made : Session.new config = .ok s) {calls : List Call}
    (possible : ∀ step ∈ s.trace calls, step.call.IsPossible step.before) :
    (s.after calls).IsCoherent ∧ (s.after calls).LacksHandles ∧
      ∀ step ∈ s.trace calls, ∀ key minimum maximum description h,
        step.call = .request (.bind key minimum maximum description) →
        step.ending = .ok (.variable h) → (s.after calls).Binds key h := by
  induction calls using List.reverseRecOn with
  | nil =>
    have empty : s.registry.entries = [] := by
      obtain ⟨valid, -, same⟩ := bind_eq_ok.1 made
      rw [← Except.ok.inj same]
    exact ⟨isCoherent_new made, by simp [LacksHandles, empty], by simp⟩
  | append_singleton calls call ih =>
    rw [trace_append, List.forall_mem_append] at possible
    obtain ⟨C, L, bound⟩ := ih possible.1
    have last : call.IsPossible (s.after calls) := possible.2 _ (List.mem_singleton_self _)
    have turn := step_turn C last
    obtain ⟨cs, E⟩ := turn.extends C
    rw [trace_append, after_append]
    refine ⟨turn.coherent C, L.step C last, List.forall_mem_append.2 ⟨?_, ?_⟩⟩
    · intro step listed key minimum maximum description h called returned
      exact (bound step listed key minimum maximum description h called returned).of_isPrefix
        E.entries
    · refine List.forall_mem_singleton.2 fun key minimum maximum description h called returned => ?_
      obtain rfl : call = _ := called
      exact L.binds (bind_of_make (Prod.ext returned rfl))

/-- Whether the handle of a variable can stand for a key: it is resolved to the variable, it has the
key, and calls go alike with either of them, wherever they refer to it. -/
structure IsInterchangeable (s : Session) (key : Value) (h : Variable) : Prop where
  resolved : s.registry.resolve (.handle h) = .ok h
  named : ∃ k, s.registry.keyOf (.handle h) = .ok k ∧ k.isSameKey key = true
  contained : s.registry.contains (.handle h) = .ok true
  described : s.registry.describe (.handle h) = s.registry.describe key
  called : ∀ call other, call.Exchanges (fun a b => b = a ∨ a = key ∧ b = .handle h) other →
    (s.step other).ending = (s.step call).ending ∧ (s.step other).after = (s.step call).after

/-- The entry of a key that is bound, which has the key nothing only for this key itself. -/
theorem Binds.exists_entryAt? (C : s.IsCoherent) (B : s.Binds key h) :
    ∃ k, s.registry.entryAt? h.index = some (k, h) ∧ k.isSameKey key = true ∧
      (k = .none ↔ key = .none) := by
  obtain ⟨k, listed, same⟩ := B.entered
  exact ⟨k, C.entryAt?_eq_some listed, same, Value.eq_none_iff_of_isSameKey same⟩

theorem Binds.isInterchangeable (C : s.IsCoherent) (B : s.Binds key h) (other : key ≠ .none) :
    s.IsInterchangeable key h := by
  obtain ⟨k, here, same, nothing⟩ := B.exists_entryAt? C
  have resolved : s.registry.resolve (.handle h) = .ok h :=
    Registry.resolve_handle_eq_ok.2 ⟨rfl, k, here, nothing.not.2 other⟩
  have alike : s.registry.IsAlike key (.handle h) := B.found.trans resolved.symm
  refine ⟨resolved, ⟨k, ?_, same⟩, ?_, ?_, fun call other exchanged => ?_⟩
  · simp [Registry.keyOf, resolved, Registry.keyAt?, here]
  · simp [Registry.contains, resolved]
  · rw [Registry.describe, Registry.describe, resolved, B.found]
  · obtain ⟨ending, after⟩ := step_congr (s := s) exchanged fun a b given => by
      rcases given with rfl | ⟨rfl, rfl⟩
      · exact rfl
      · exact alike
    exact ⟨ending.symm, after.symm⟩

/-- The handle of the key nothing is taken for one from elsewhere. -/
theorem Binds.rejects (C : s.IsCoherent) (B : s.Binds .none h) : s.registry.Rejects h := by
  obtain ⟨k, here, -, nothing⟩ := B.exists_entryAt? C
  obtain rfl := nothing.2 rfl
  simp [Registry.Rejects, Registry.resolve, here]

/-- **The handle that binding a key has returned can stand for the key** from then on, after any
calls, unless the key is nothing. That key is found, but its handle is rejected. -/
theorem isInterchangeable_iff {config : Config} (made : Session.new config = .ok s)
    {calls : List Call} (possible : ∀ step ∈ s.trace calls, step.call.IsPossible step.before)
    {step : Step} (listed : step ∈ s.trace calls)
    (called : step.call = .request (.bind key minimum maximum description))
    (returned : step.ending = .ok (.variable h)) :
    ((s.after calls).IsInterchangeable key h ↔ key ≠ .none) ∧
      (key = .none → (s.after calls).registry.resolve key = .ok h ∧
        (s.after calls).registry.Rejects h) := by
  obtain ⟨C, -, bound⟩ := binds_after made possible
  have B : (s.after calls).Binds key h := bound step listed _ _ _ _ h called returned
  refine ⟨⟨?_, B.isInterchangeable C⟩, ?_⟩
  · rintro I rfl
    exact absurd (I.resolved.symm.trans (B.rejects C)) (by simp)
  · rintro rfl
    exact ⟨B.found, B.rejects C⟩

/-- A tuple is bound, and its handle stands for it after an implication over both. -/
theorem isInterchangeable_iff_tuple :
    ∃ (s : Session) (calls : List Call) (step : Step) (h : Variable), Session.new {} = .ok s ∧
      (∀ step ∈ s.trace calls, step.call.IsPossible step.before) ∧ step ∈ s.trace calls ∧
      step.call = .request (.bind (.tuple [.int 1, .none]) (.int 0) (.int 3) (.text "x")) ∧
      step.ending = .ok (.variable h) ∧ (s.after calls).model.constraints.length = 3 ∧
      (s.after calls).IsInterchangeable (.tuple [.int 1, .none]) h := by
  let key : Value := .tuple [.int 1, .none]
  let h : Variable := Session.fresh { config := {} } 0 3 "x"
  let side (ref : Value) (r : Relation) : ConditionRequest := ⟨[ref], [.int 1], .int 1, .relation r⟩
  let calls : List Call := [.request (.bind key (.int 0) (.int 3) (.text "x")),
    .request (.ifThen (side key .gte) (side (.handle h) .eq) (.text "both"))]
  have possible : ∀ step ∈ Session.trace { config := {} } calls,
      step.call.IsPossible step.before := by
    simp [calls, key, Call.IsPossible, Request.IsPossible, Value.key?, Value.tupleKey?]
  have recorded : (Session.after { config := {} } calls).model.constraints.length = 3 := by
    decide +kernel
  have both := isInterchangeable_iff (h := h) (show Session.new {} = .ok _ from rfl) possible
    List.mem_cons_self rfl rfl
  exact ⟨_, calls, _, h, rfl, possible, List.mem_cons_self, rfl, rfl, recorded,
    both.1.2 (by simp [key])⟩

/-- The key nothing is bound, and its handle cannot stand for it. -/
theorem not_isInterchangeable :
    ¬∀ (s : Session) (calls : List Call) (step : Step)
      (key minimum maximum description : Value) (h : Variable), Session.new {} = .ok s →
      (∀ step ∈ s.trace calls, step.call.IsPossible step.before) → step ∈ s.trace calls →
      step.call = .request (.bind key minimum maximum description) →
      step.ending = .ok (.variable h) → (s.after calls).IsInterchangeable key h := by
  intro every
  let calls : List Call := [.request (.bind .none (.int 0) (.int 1) (.text "n"))]
  have possible : ∀ step ∈ Session.trace { config := {} } calls,
      step.call.IsPossible step.before := by
    simp [calls, Call.IsPossible, Request.IsPossible, Value.key?]
  let h : Variable := Session.fresh { config := {} } 0 1 "n"
  have I := every { config := {} } calls _ .none (.int 0) (.int 1) (.text "n") h rfl possible
    List.mem_cons_self rfl rfl
  have rejected : (Session.after { config := {} } calls).registry.resolve (.handle h) =
      .error (.raised (.foreignHandle h)) := rfl
  exact absurd (I.resolved.symm.trans rejected) (by simp)

end Bound

end Session

end IntegerProgram
