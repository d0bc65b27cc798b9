import IntegerProgram.Proofs.Integer
import IntegerProgram.Proofs.Session.History

/-!
# Numbers on their way into a session

The bounds, coefficients, values and constants that a caller passes are recorded as the integers
that they count as, and a call with a number that counts as none is refused for that number. So no
number is altered on its way but a fraction whose nearest double is whole and that is not whole
itself.

## Main definitions

* `Call.numbers`: the numbers among the arguments of a call.
* `Call.IsInOrder`: whether the other arguments of a call are in order.
* `Call.Leaves`: what a call that is accepted records of its numbers.
* `Call.Refuses`: how a call is refused for a number.

## Main statements

* `Session.Run.step_numbers`: what is recorded of the numbers of a call, and which are refused.
* `Session.Run.not_step_numbers`: a fraction that loses its fractional part.
-/
namespace IntegerProgram

/-- Whether what a caller states is a given linear relation, with integers to which its numbers are
related. -/
structure ConditionRequest.States (R : Value → Int → Prop) (s : Session) (c : ConditionRequest)
    (r : LinearRelation) : Prop where
  vars : List.Forall₂ (fun k v => s.registry.resolve k = .ok v) c.keys r.sum.vars
  coefficients : List.Forall₂ R c.coefficients r.sum.coefficients
  relation : c.relation.asRelation = .ok r.relation
  constant : R c.constant r.constant

/-- Whether a side of an implication is in order but for its numbers. -/
structure ConditionRequest.IsInOrder (s : Session) (c : ConditionRequest) : Prop where
  arity : c.keys.length = c.coefficients.length
  keys : ∀ key ∈ c.keys, ∃ v, s.registry.resolve key = .ok v
  relation : ∃ r, c.relation.asRelation = .ok r

namespace Call

/-- The numbers among the arguments of a call. -/
def numbers : Call → List Value
  | request (.bind _ minimum maximum _) => [minimum, maximum]
  | request (.enforceValue _ value) => [value]
  | request (.enforce _ coefficients value _ _) => coefficients ++ [value]
  | request (.ifThen premise consequence _) =>
    premise.coefficients ++ consequence.coefficients ++ [premise.constant, consequence.constant]
  | solve _ _ coefficients _ => coefficients

/-- The description that a call is given, if it takes one. -/
def description? : Call → Option Value
  | request (.bind _ _ _ description) | request (.enforce _ _ _ _ description)
  | request (.ifThen _ _ description) => some description
  | request (.enforceValue ..) | solve .. => none

/-- Whether a call is in order but for its numbers: its references are bound, or the key that it
binds is new, it has as many coefficients as keys, and its relations are known. -/
def IsInOrder (s : Session) : Call → Prop
  | request (.bind key _ _ _) =>
    key.isHashable = true ∧ s.registry.isRefused key = false ∧ s.registry.variableOf? key = none ∧
      ∀ w, key ≠ .handle w
  | request (.enforceValue key _) => ∃ v, s.registry.resolve key = .ok v
  | request (.enforce keys coefficients value relation _) =>
    ConditionRequest.IsInOrder s ⟨keys, coefficients, value, relation⟩
  | request (.ifThen premise consequence _) => premise.IsInOrder s ∧ consequence.IsInOrder s
  | solve _ keys coefficients _ =>
    keys.length = coefficients.length ∧ ∀ key ∈ keys, ∃ v, s.registry.resolve key = .ok v

/-- What a call leaves if it is accepted, with integers to which its numbers are related. The bounds
of a key that is bound already are not looked at. -/
inductive Leaves (R : Value → Int → Prop) (s : Session) : Call → Session → Prop where
  | found {key minimum maximum description : Value} {v : Variable}
      (known : s.registry.variableOf? key = some v) :
      Leaves R s (.request (.bind key minimum maximum description)) s
  | entered {key minimum maximum description : Value} {lower upper : Int}
      (low : R minimum lower) (high : R maximum upper) :
      Leaves R s (.request (.bind key minimum maximum description))
        (s.enter key (s.fresh lower upper description.shown))
  | valued {key value : Value} {v : Variable} {n : Int} (text : Value)
      (resolved : s.registry.resolve key = .ok v) (integer : R value n) :
      Leaves R s (.request (.enforceValue key value))
        (s.record [LinearRelation.constraint ⟨⟨[(v, 1)]⟩, .eq, n⟩ text])
  | related {keys coefficients : List Value} {value relation description : Value}
      {r : LinearRelation}
      (states : ConditionRequest.States R s ⟨keys, coefficients, value, relation⟩ r) :
      Leaves R s (.request (.enforce keys coefficients value relation description))
        (s.record [r.constraint description])
  | implied {premise consequence : ConditionRequest} {description : Value} {p e : LinearRelation}
      (premised : premise.States R s p) (concluded : consequence.States R s e) :
      Leaves R s (.request (.ifThen premise consequence description)) (s.imply p e description)
  | posed {engine : Engine} {keys coefficients : List Value} {sense : Sense} {sum : WeightedSum}
      {t : Session} (vars : List.Forall₂ (fun k v => s.registry.resolve k = .ok v) keys sum.vars)
      (integers : List.Forall₂ R coefficients sum.coefficients)
      (model : t.model = (s.posed sum sense).model) :
      Leaves R s (.solve engine keys coefficients sense) t

/-- A value that is required of a key is recorded as an integer. -/
theorem exists_of_leaves_enforceValue {R : Value → Int → Prop} {s t : Session} {key value : Value}
    (leaves : (request (.enforceValue key value)).Leaves R s t) : ∃ n, R value n := by
  cases leaves with
  | valued text resolved integer => exact ⟨_, integer⟩

end Call

/-- Whether a call was accepted: it has returned something, or it has changed the session, as a
solve may that fails later. -/
def Step.IsAccepted (step : Step) : Prop :=
  (∃ reply, step.ending = .ok reply) ∨ step.after ≠ step.before

/-- What the message needs by which a call is refused for a number: its description, and the
number. -/
def Call.Needs (call : Call) (v : Value) : Prop :=
  call.description? = some v ∨ v ∈ call.numbers ∧ ∀ n, ¬v.CountsAs n

/-- How a call is refused for one of its numbers that counts as no integer: the number is named, or
else what the message needs cannot be written. -/
inductive Call.Refuses (call : Call) : Fault → Prop
  | number {v : Value} (what : String) (passed : v ∈ call.numbers) (other : ∀ n, ¬v.CountsAs n) :
      Refuses call (.notInteger what v)
  | text {v : Value} {o : Obstacle} (needed : call.Needs v) (unwritable : v.obstacle? = some o) :
      Refuses call o.fault

/-- If everything can be written then it is a matter of configuration. -/
theorem Call.Refuses.kind_eq {call : Call} {fault : Fault} (refuses : call.Refuses fault)
    (writable : ∀ v, call.Needs v → v.obstacle? = none) : fault.kind = .configuration := by
  cases refuses with
  | number => rfl
  | text needed unwritable => simp [writable _ needed] at unwritable

/-- An integer that a value was read as is one that it counts as. -/
theorem Value.countsAs_of_asInteger {value : Value} {n : Int}
    (integer : value.asInteger "" = .ok n) : value.CountsAs n :=
  (Value.asInteger_eq_ok_iff.1 integer).2

theorem ConditionRequest.states_of_read {s : Session} {c : ConditionRequest} {r : LinearRelation}
    (read : c.read s = .ok r) : c.States Value.CountsAs s r := by
  obtain ⟨summed, relation, constant⟩ := read_eq_ok.1 read
  obtain ⟨vars, integers⟩ := Session.sumOf_eq_ok.1 summed
  exact ⟨vars, integers.imp fun _ _ => Value.countsAs_of_asInteger, relation,
    Value.countsAs_of_asInteger constant⟩

namespace Session

variable {s : Session} {log : List Event} {call : Call}

/-- What binding a key records of its bounds. -/
theorem IsCoherent.leaves_bind (C : s.IsCoherent) {key minimum maximum description : Value}
    (accepted : (s.step (.request (.bind key minimum maximum description))).IsAccepted) :
    (Call.request (.bind key minimum maximum description)).Leaves Value.CountsAs s
      (s.step (.request (.bind key minimum maximum description))).after := by
  cases ran : (bind key minimum maximum description).on s with
  | mk ending t =>
    have made : s.step (.request (.bind key minimum maximum description)) =
        ⟨s, .request (.bind key minimum maximum description), .variable <$> ending, t⟩ := by
      simp [step, Attempt.result, Attempt.state, Call.make, ran]
    rw [made] at accepted ⊢
    rcases bind_cases C ran with ⟨fault, rfl, rfl⟩ | ⟨v, rfl, known, rfl⟩ |
      ⟨lower, upper, v, rfl, -, range, rfl, rfl⟩
    · rcases accepted with ⟨reply, returned⟩ | changed
      · simp [Functor.map, Except.map] at returned
      · exact absurd rfl changed
    · exact .found known
    · obtain ⟨-, low, high, -⟩ := Registry.range_eq_ok.1 range
      exact .entered (Value.countsAs_of_asInteger low) (Value.countsAs_of_asInteger high)

/-- **What a coherent session records of the numbers of a call that it accepts.** -/
theorem IsCoherent.leaves (C : s.IsCoherent) (possible : call.IsPossible s)
    (accepted : (s.step call).IsAccepted) :
    call.Leaves Value.CountsAs s (s.step call).after := by
  by_cases binds : ∃ key minimum maximum description,
      call = .request (.bind key minimum maximum description)
  · obtain ⟨key, minimum, maximum, description, rfl⟩ := binds
    exact C.leaves_bind accepted
  have turn : s.Turn call (s.step call).ending (s.step call).after := step_turn C possible
  unfold Step.IsAccepted at accepted
  rw [show (s.step call).before = s from rfl] at accepted
  generalize (s.step call).ending = ending at accepted turn
  generalize (s.step call).after = t at accepted turn ⊢
  cases turn with
  | refused | unposed => simp at accepted
  | found | entered => exact absurd ⟨_, _, _, _, rfl⟩ binds
  | valued text resolved integer =>
    exact .valued text resolved (Value.countsAs_of_asInteger integer)
  | related read => exact .related (ConditionRequest.states_of_read read)
  | implied readP readE =>
    exact .implied (ConditionRequest.states_of_read readP) (ConditionRequest.states_of_read readE)
  | unanswered summed | answered summed =>
    obtain ⟨vars, integers⟩ := sumOf_eq_ok.1 summed
    exact .posed vars (integers.imp fun _ _ => Value.countsAs_of_asInteger) rfl

section Refusal

variable {keys coefficients : List Value}

/-- A number that is not too large is refused by its name, if it counts as no integer. -/
theorem failsOnly_asInteger_refuses (bounded : ∀ v ∈ call.numbers, ¬v.IsBeyondDoubles) {v : Value}
    (passed : v ∈ call.numbers) (what : String) : FailsOnly call.Refuses (v.asInteger what) := by
  intro fault failed
  have other (n : Int) : ¬v.CountsAs n := fun counts => by
    simp [Value.asInteger_eq_ok_iff.2 ⟨bounded v passed, counts⟩] at failed
  refine Value.failsOnly_asInteger (fun beyond => absurd beyond (bounded v passed)) ?_ fault failed
  rcases written : v.obstacle? with _ | o
  · rw [Fault.raised_of_none (show (Fault.notInteger what v).obstacle? = none from written)]
    exact .number what passed other
  · rw [Fault.raised_of_some (show (Fault.notInteger what v).obstacle? = some o from written)]
    exact .text (.inr ⟨passed, other⟩) written

/-- So is a call whose description cannot be written. -/
theorem failsOnly_requireText_refuses {description : Value}
    (described : ∀ o, description.obstacle? = some o → call.description? = some description) :
    FailsOnly call.Refuses description.requireText := by
  intro fault failed
  rw [Value.requireText] at failed
  rcases written : description.obstacle? with _ | o
  · simp [written] at failed
  · obtain rfl : o.fault = fault := by simpa [written] using failed
    exact .text (.inl (described o written)) written

/-- A sum whose keys are in order is refused for a coefficient. -/
theorem failsOnly_sumOf_refuses (bounded : ∀ v ∈ call.numbers, ¬v.IsBeyondDoubles)
    (arity : keys.length = coefficients.length)
    (bound : ∀ key ∈ keys, ∃ v, s.registry.resolve key = .ok v)
    (passed : coefficients ⊆ call.numbers) (context : Value)
    (described : ∀ o, context.obstacle? = some o → call.description? = some context) :
    FailsOnly call.Refuses (s.sumOf keys coefficients context) := by
  obtain ⟨vars, resolved⟩ := exists_mapM_eq_ok bound
  have same : vars.length = coefficients.length := by
    rw [← arity, (mapM_eq_ok.1 resolved).length_eq]
  simp only [sumOf, arity, ne_eq, not_true_eq_false, if_false, Registry.resolveAll, resolved,
    ok_bind, WeightedSum.ofParallel, same]
  refine FailsOnly.bind (FailsOnly.mapM fun t listed => ?_) fun _ _ => by simp
  have listed := passed (List.of_mem_zip listed).2
  refine (failsOnly_requireText_refuses described).bind fun _ _ => ?_
  exact (failsOnly_asInteger_refuses bounded listed _).bind fun _ _ => by simp

/-- The coefficients of a sum that is made are read. -/
theorem forall_mem_of_sumOf {sum : WeightedSum} {context : Value}
    (summed : s.sumOf keys coefficients context = .ok sum) :
    ∀ c ∈ coefficients, ∃ n, c.asInteger "" = .ok n := by
  intro c hc
  obtain ⟨n, -, integer⟩ := exists_mem_of_forall₂ (sumOf_eq_ok_iff.1 summed).2.2 c hc
  exact ⟨n, integer⟩

/-- **How a coherent session refuses a number**: a call that is in order but for its numbers, of
which one counts as no integer, is refused for such a number. -/
theorem isRefused_make (order : call.IsInOrder s)
    (bounded : ∀ v ∈ call.numbers, ¬v.IsBeyondDoubles)
    (unread : ¬∀ v ∈ call.numbers, ∃ n, v.asInteger "" = .ok n) :
    call.make.IsRefused call.Refuses s := by
  have reads {v : Value} (passed : v ∈ call.numbers) (what : String) :=
    failsOnly_asInteger_refuses bounded passed what
  cases call with
  | request request =>
    cases request with
    | bind key minimum maximum description =>
      obtain ⟨hashable, met, new, plain⟩ := order
      apply Attempt.IsRefused.map
      cases range : Registry.range minimum maximum description with
      | ok bounds =>
        obtain ⟨-, low, high, -⟩ := Registry.range_eq_ok.1 range
        exact absurd (by simp [Call.numbers, low, high]) unread
      | error fault =>
        have unknown := Registry.entryOf?_eq_none_iff.2 ⟨met, new⟩
        have left : (bind key minimum maximum description).on s = (.error fault, s) := by
          simp [bind, Registry.on_bind_new hashable unknown plain, range]
        refine ⟨fault, ?_, left⟩
        suffices F : FailsOnly (Call.Refuses _) (Registry.range minimum maximum description) from
          F fault range
        refine (failsOnly_requireText_refuses fun _ _ => rfl).bind fun _ _ => ?_
        refine (reads (by simp [Call.numbers]) _).bind fun lower low => ?_
        refine (reads (by simp [Call.numbers]) _).bind fun upper high => ?_
        rw [Value.asInteger_eq_ok _ ""] at low high
        exact absurd (by simp [Call.numbers, low, high]) unread
    | enforceValue key value =>
      obtain ⟨v, resolved⟩ := order
      apply Attempt.IsRefused.map
      refine .get (.check (.of_eq_ok resolved) fun w _ => ?_)
      refine .check (reads (by simp [Call.numbers]) _) fun n integer => ?_
      rw [Value.asInteger_eq_ok _ ""] at integer
      exact absurd (by simp [Call.numbers, integer]) unread
    | enforce keys coefficients value relation description =>
      obtain ⟨arity, bound, r, related⟩ := order
      apply Attempt.IsRefused.map
      have summed := failsOnly_sumOf_refuses bounded arity bound (by simp [Call.numbers])
        description fun _ _ => rfl
      refine .get (.check summed fun sum summed => ?_)
      refine .check (.of_eq_ok related) fun _ _ => ?_
      refine .check (failsOnly_requireText_refuses fun _ _ => rfl) fun _ _ => ?_
      refine .check (reads (by simp [Call.numbers]) _) fun n integer => ?_
      rw [Value.asInteger_eq_ok _ ""] at integer
      refine absurd ?_ unread
      rw [Call.numbers, List.forall_mem_append, List.forall_mem_singleton]
      exact ⟨forall_mem_of_sumOf summed, n, integer⟩
    | ifThen premise consequence description =>
      obtain ⟨⟨arityP, boundP, _, relatedP⟩, ⟨arityE, boundE, _, relatedE⟩⟩ := order
      apply Attempt.IsRefused.map
      have sumsP := failsOnly_sumOf_refuses bounded arityP boundP (by simp [Call.numbers])
        description fun _ _ => rfl
      have sumsE := failsOnly_sumOf_refuses bounded arityE boundE (by simp [Call.numbers])
        description fun _ _ => rfl
      refine .check (.of_eq_ok (if_pos arityP)) fun _ _ => ?_
      refine .check (.of_eq_ok (if_pos arityE)) fun _ _ => ?_
      refine .get (.check sumsP fun p summedP => .check sumsE fun e summedE => ?_)
      refine .check (.of_eq_ok relatedP) fun _ _ => .check (.of_eq_ok relatedE) fun _ _ => ?_
      refine .check (failsOnly_requireText_refuses fun _ _ => rfl) fun _ _ => ?_
      refine .check (reads (by simp [Call.numbers]) _) fun l₁ integerP => ?_
      refine .check (reads (by simp [Call.numbers]) _) fun l₂ integerE => ?_
      rw [Value.asInteger_eq_ok _ ""] at integerP integerE
      refine absurd ?_ unread
      simp only [Call.numbers, List.forall_mem_append, List.forall_mem_cons]
      exact ⟨⟨forall_mem_of_sumOf summedP, forall_mem_of_sumOf summedE⟩, ⟨l₁, integerP⟩,
        ⟨l₂, integerE⟩, by simp⟩
  | solve engine keys coefficients sense =>
    apply Attempt.IsRefused.map
    cases named : s.sumOf keys coefficients (.text s!"{sense.name} objective") with
    | ok sum => exact absurd (forall_mem_of_sumOf named) unread
    | error fault =>
      have F := failsOnly_sumOf_refuses bounded order.1 order.2 (List.Subset.refl _)
        (.text s!"{sense.name} objective") (by simp)
      exact ⟨fault, F fault named, on_solve_unposed named⟩

end Refusal

/-- **No number is altered on its way into a session** but a fraction that loses its fractional
part. What a call that is accepted records are the integers that its numbers count as. A call that
is in order but for its numbers, of which one counts as none, is refused for such a number and
changes nothing: it names the number, unless what the message needs cannot be written. Only a
fraction that is too large for a double is refused in another way. -/
theorem Run.step_numbers (run : Run s log) (possible : call.IsPossible s) :
    ((s.step call).IsAccepted → call.Leaves Value.CountsAs s (s.step call).after) ∧
      (call.IsInOrder s → (∀ v ∈ call.numbers, ¬v.IsBeyondDoubles) →
        (∃ v ∈ call.numbers, ∀ n, ¬v.CountsAs n) →
        ∃ fault, (s.step call).ending = .error fault ∧ (s.step call).after = s ∧
          call.Refuses fault ∧
          ((∀ v, call.Needs v → v.obstacle? = none) → fault.kind = .configuration)) := by
  obtain ⟨ds, H⟩ := run.explained
  refine ⟨H.coherent.leaves possible, fun order bounded ⟨v, passed, other⟩ => ?_⟩
  have unread : ¬∀ v ∈ call.numbers, ∃ n, v.asInteger "" = .ok n := fun all => by
    obtain ⟨n, integer⟩ := all v passed
    exact other n (Value.countsAs_of_asInteger integer)
  obtain ⟨fault, refuses, failed⟩ := isRefused_make order bounded unread
  exact ⟨fault, congrArg Prod.fst failed, congrArg Prod.snd failed, refuses, refuses.kind_eq⟩

/-- A step that has returned something was accepted. -/
theorem isAccepted_of_isOk (returned : (s.step call).ending.isOk = true) :
    (s.step call).IsAccepted := by
  cases ended : (s.step call).ending with
  | ok reply => exact .inl ⟨reply, ended⟩
  | error fault => simp [ended, Except.isOk, Except.toBool] at returned

/-- A key whose upper bound is a double, and a value that is a truth value. -/
theorem Run.step_numbers_bool :
    ∃ (s : Session) (log : List Event) (call call' : Call) (fault : Fault), Run s log ∧
      call.IsPossible s ∧ call'.IsPossible s ∧ (s.step call).IsAccepted ∧
      call.Leaves Value.CountsAs s (s.step call).after ∧ call'.IsInOrder s ∧
      (∀ v ∈ call'.numbers, ¬v.IsBeyondDoubles) ∧ (∃ v ∈ call'.numbers, ∀ n, ¬v.CountsAs n) ∧
      (s.step call').ending = .error fault ∧ (s.step call').after = s ∧
      fault.kind = .configuration := by
  have new : Run { config := {} } [] := .new (show Session.new {} = .ok _ from rfl)
  let first : Request := .bind (.text "a") (.int 0) (.int 3) (.text "a")
  have bound := new.next first none (by simp [first, Request.IsPossible, Value.key?]) rfl
  let s := (first.perform.on { config := {} }).2
  let call : Call := .request (.bind (.text "b") (.int 0) (.float (.ofInt 3)) (.text "b"))
  let call' : Call := .request (.enforceValue (.text "a") (.bool true))
  have possible : call.IsPossible s := by
    simp [call, Call.IsPossible, Request.IsPossible, Value.key?]
  have accepted : (s.step call).IsAccepted := isAccepted_of_isOk (by decide +kernel)
  have order : call'.IsInOrder s := ⟨_, rfl⟩
  have bounded : ∀ v ∈ call'.numbers, ¬v.IsBeyondDoubles := by
    simp [call', Call.numbers, Value.IsBeyondDoubles]
  have other : ∃ v ∈ call'.numbers, ∀ n, ¬v.CountsAs n :=
    ⟨.bool true, by simp [call', Call.numbers], by
      simp [Value.CountsAs, Value.IsExactly, Value.real?, Value.IsCutTo, Value.rounded?]⟩
  have possible' : call'.IsPossible s := trivial
  have writable (v : Value) (needed : call'.Needs v) : v.obstacle? = none := by
    rcases needed with described | ⟨passed, -⟩
    · simp [call', Call.description?] at described
    · obtain rfl : v = .bool true := by simpa [call', Call.numbers] using passed
      decide +kernel
  obtain ⟨fault, failed, same, -, kind⟩ := (bound.step_numbers possible').2 order bounded other
  exact ⟨s, _, call, call', fault, bound, possible, possible', accepted,
    (bound.step_numbers possible).1 accepted, order, bounded, other, failed, same, kind writable⟩

/-- A fraction that is half of an odd integer of 58 bits is taken for the integer below it. -/
theorem Run.not_step_numbers :
    ∃ (s : Session) (log : List Event) (call : Call), Run s log ∧ call.IsPossible s ∧
      (s.step call).IsAccepted ∧ ¬call.Leaves Value.IsExactly s (s.step call).after := by
  have new : Run { config := {} } [] := .new (show Session.new {} = .ok _ from rfl)
  let first : Request := .bind (.text "x") (.int 0) (.int (10 ^ 18)) (.text "x")
  have bound := new.next first none (by simp [first, Request.IsPossible, Value.key?]) rfl
  let s := (first.perform.on { config := {} }).2
  let half : Rat := mkRat 200000000000000001 2
  let call : Call := .request (.enforceValue (.text "x") (.fraction half))
  have accepted : (s.step call).IsAccepted := isAccepted_of_isOk (by decide +kernel)
  refine ⟨s, _, call, bound, trivial, accepted, fun leaves => ?_⟩
  obtain ⟨n, exact⟩ := Call.exists_of_leaves_enforceValue leaves
  obtain whole : half = n := Option.some.inj exact
  have den : half.den = 2 := by decide +kernel
  simp [whole] at den

end Session

end IntegerProgram
