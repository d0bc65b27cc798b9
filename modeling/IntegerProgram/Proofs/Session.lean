import IntegerProgram.Proofs.Implication
import IntegerProgram.Proofs.Registry
import IntegerProgram.Session.Request

/-!
# Coherent sessions

In a session the registry and the model stay in step: each variable of the table is entered under
one key. On such a session every call either fails and leaves the session as it was, or does one
thing: it enters a fresh variable, or it records constraints over the variables that are there.

## Main definitions

* `Session.IsCoherent`: a session with its registry and its model in step.
* `ConditionRequest.read`: the linear relation that a caller states.

## Main statements

* `Session.bind_cases`, `Session.enforceValue_cases`, `Session.enforce_cases`,
  `Session.ifThen_cases`: what the calls do.
-/
namespace IntegerProgram

namespace Session

variable {s t : Session} {keys coefficients : List Value} {sum : WeightedSum}

/-- A sum of keys is the sum of the variables that they refer to. A term can be made only where the
context can be written. -/
theorem sumOf_eq_ok_iff {context : Value} :
    s.sumOf keys coefficients context = .ok sum ↔
      (coefficients ≠ [] → context.obstacle? = none) ∧
        List.Forall₂ (fun k v => s.registry.resolve k = .ok v) keys sum.vars ∧
        List.Forall₂ (fun c n => c.asInteger "" = .ok n) coefficients sum.coefficients := by
  by_cases same : keys.length = coefficients.length
  · simp only [sumOf, same, ne_eq, not_true_eq_false, if_false, bind_eq_ok,
      Registry.resolveAll, mapM_eq_ok, WeightedSum.ofParallel_eq_ok]
    constructor
    · rintro ⟨vs, resolved, writable, rfl, integers⟩
      exact ⟨writable, resolved, integers⟩
    · rintro ⟨writable, resolved, integers⟩
      exact ⟨_, resolved, writable, rfl, integers⟩
  · simp only [sumOf, ne_eq, same, not_false_eq_true, if_true, throw_eq_error, error_bind,
      reduceCtorEq, false_iff]
    rintro ⟨-, resolved, integers⟩
    apply same
    rw [resolved.length_eq, integers.length_eq]
    simp [WeightedSum.vars, WeightedSum.coefficients]

/-- **A sum of keys is the sum of the variables that they refer to.** -/
theorem sumOf_eq_ok {context : String} :
    s.sumOf keys coefficients (.text context) = .ok sum ↔
      List.Forall₂ (fun k v => s.registry.resolve k = .ok v) keys sum.vars ∧
        List.Forall₂ (fun c n => c.asInteger "" = .ok n) coefficients sum.coefficients := by
  simp [sumOf_eq_ok_iff]

/-- Which operation asks for a sum matters only for the fault. -/
theorem sumOf_context {context : String} (context' : String) :
    s.sumOf keys coefficients (.text context) = .ok sum ↔
      s.sumOf keys coefficients (.text context') = .ok sum := by
  rw [sumOf_eq_ok, sumOf_eq_ok]

/-- A description that can be written is as good as any. -/
theorem sumOf_of_writable {context : Value} (writable : context.obstacle? = none)
    (made : s.sumOf keys coefficients (.text "") = .ok sum) :
    s.sumOf keys coefficients context = .ok sum :=
  sumOf_eq_ok_iff.2 ⟨fun _ => writable, sumOf_eq_ok.1 made⟩

/-- A sum that is made under a description is made without one. -/
theorem sumOf_of_described {context : Value} (made : s.sumOf keys coefficients context = .ok sum) :
    s.sumOf keys coefficients (.text "") = .ok sum :=
  sumOf_eq_ok.2 (sumOf_eq_ok_iff.1 made).2

/-- The variables of a sum of keys are those of the registry. -/
theorem mem_vars_of_sumOf {context : Value} (made : s.sumOf keys coefficients context = .ok sum) :
    ∀ v ∈ sum.vars, v ∈ s.registry.vars :=
  Registry.mem_vars_of_resolveAll (sumOf_eq_ok_iff.1 made).2.1

/-- More entries change no sum. -/
theorem sumOf_of_isPrefix {context : Value} (more : s.registry.entries <+: t.registry.entries)
    (made : s.sumOf keys coefficients context = .ok sum) :
    t.sumOf keys coefficients context = .ok sum := by
  obtain ⟨writable, resolved, integers⟩ := sumOf_eq_ok_iff.1 made
  refine sumOf_eq_ok_iff.2 ⟨writable, resolved.imp ?_, integers⟩
  intro k v found
  exact Registry.resolve_of_isPrefix more found

end Session

/-- The linear relation that a caller states. -/
def ConditionRequest.read (s : Session) (c : ConditionRequest) : Except Fault LinearRelation := do
  let sum ← s.sumOf c.keys c.coefficients (.text "")
  let relation ← c.relation.asRelation
  let constant ← c.constant.asInteger ""
  return { sum, relation, constant }

namespace ConditionRequest

variable {s t : Session} {c : ConditionRequest} {r : LinearRelation}

theorem read_eq_ok :
    c.read s = .ok r ↔ s.sumOf c.keys c.coefficients (.text "") = .ok r.sum ∧
      c.relation.asRelation = .ok r.relation ∧ c.constant.asInteger "" = .ok r.constant := by
  obtain ⟨sum, relation, constant⟩ := r
  simp only [read, bind_eq_ok, pure_eq_ok, Except.ok.injEq, LinearRelation.mk.injEq]
  constructor
  · rintro ⟨_, summed, _, related, _, integer, rfl, rfl, rfl⟩
    exact ⟨summed, related, integer⟩
  · rintro ⟨summed, related, integer⟩
    exact ⟨_, summed, _, related, _, integer, rfl, rfl, rfl⟩

theorem mem_vars_of_read (read : c.read s = .ok r) : ∀ v ∈ r.sum.vars, v ∈ s.registry.vars :=
  Session.mem_vars_of_sumOf (read_eq_ok.1 read).1

/-- More entries change nothing of what a caller has stated. -/
theorem read_of_isPrefix (more : s.registry.entries <+: t.registry.entries)
    (read : c.read s = .ok r) : c.read t = .ok r := by
  obtain ⟨summed, rest⟩ := read_eq_ok.1 read
  exact read_eq_ok.2 ⟨Session.sumOf_of_isPrefix more summed, rest⟩

end ConditionRequest

namespace Session

variable {s t : Session}

/-- The registry and the model in step: each variable of the table is entered under one key, and no
key is a holder that has not been issued. -/
structure IsCoherent (s : Session) : Prop where
  model : s.model.IsWellFormed
  inStep : s.registry.vars = s.model.vars
  issued : ∀ e ∈ s.registry.entries, ∀ id, e.1.key? = some (.holder id) → id < s.nextCondition

/-- The variable that a session makes next. -/
def fresh (s : Session) (lower upper : Int) (name : String) : Variable where
  origin := ⟨s.model.table, s.model.vars.length⟩
  index := s.model.vars.length
  name := name
  lower := lower
  upper := upper

/-- The session with one more variable, entered under a key. -/
def enter (s : Session) (key : Value) (v : Variable) : Session :=
  { s with
    registry := ⟨s.registry.entries ++ [(key, v)]⟩
    model := { s.model with vars := s.model.vars ++ [v] } }

/-- The session with more constraints. -/
def record (s : Session) (cs : List Constraint) : Session := { s with model := s.model.record cs }

/-- The session with the number of its next implication used up. -/
def issue (s : Session) : Session := { s with nextCondition := s.nextCondition + 1 }

/-- The indicator of the next implication. -/
def indicator (s : Session) (description : Value) : Variable :=
  s.fresh 0 1 (description.orElse (.text s!"condition {s.nextCondition}")).shown

/-- The session with one more implication, whose holder is entered with a fresh indicator. -/
def imply (s : Session) (premise consequence : LinearRelation) (description : Value) : Session :=
  (s.issue.enter (.holder s.nextCondition description) (s.indicator description)).record
    (Implication.constraints ⟨s.indicator description, premise, consequence⟩ description.shown)

@[simp] theorem enter_entries (s : Session) (key : Value) (v : Variable) :
    (s.enter key v).registry.entries = s.registry.entries ++ [(key, v)] := rfl

@[simp] theorem enter_vars (s : Session) (key : Value) (v : Variable) :
    (s.enter key v).model.vars = s.model.vars ++ [v] := rfl

@[simp] theorem enter_constraints (s : Session) (key : Value) (v : Variable) :
    (s.enter key v).model.constraints = s.model.constraints := rfl

@[simp] theorem enter_nextCondition (s : Session) (key : Value) (v : Variable) :
    (s.enter key v).nextCondition = s.nextCondition := rfl

@[simp] theorem enter_config (s : Session) (key : Value) (v : Variable) :
    (s.enter key v).config = s.config := rfl

@[simp] theorem record_registry (s : Session) (cs : List Constraint) :
    (s.record cs).registry = s.registry := rfl

@[simp] theorem record_model (s : Session) (cs : List Constraint) :
    (s.record cs).model = s.model.record cs := rfl

@[simp] theorem record_nextCondition (s : Session) (cs : List Constraint) :
    (s.record cs).nextCondition = s.nextCondition := rfl

@[simp] theorem record_config (s : Session) (cs : List Constraint) :
    (s.record cs).config = s.config := rfl

@[simp] theorem issue_registry (s : Session) : s.issue.registry = s.registry := rfl

@[simp] theorem issue_model (s : Session) : s.issue.model = s.model := rfl

@[simp] theorem issue_nextCondition (s : Session) : s.issue.nextCondition = s.nextCondition + 1 :=
  rfl

@[simp] theorem issue_config (s : Session) : s.issue.config = s.config := rfl

theorem IsCoherent.issue (C : s.IsCoherent) : s.issue.IsCoherent := by
  refine ⟨C.model, C.inStep, ?_⟩
  intro e he id holder
  exact Nat.lt_succ_of_lt (C.issued e he id holder)

theorem IsCoherent.record (C : s.IsCoherent) {cs : List Constraint}
    (covered : ∀ c ∈ cs, c.IsOver s.model.vars) : (s.record cs).IsCoherent :=
  ⟨C.model.record covered, C.inStep, C.issued⟩

/-- A session stays coherent if a fresh variable is entered. -/
theorem IsCoherent.enter (C : s.IsCoherent) {lower upper : Int} (ordered : lower ≤ upper)
    {key : Value} (name : String)
    (known : ∀ id, key.key? = some (.holder id) → id < s.nextCondition) :
    (s.enter key (s.fresh lower upper name)).IsCoherent := by
  refine ⟨⟨?_, ?_, ?_, ?_⟩, ?_, ?_⟩
  · exact Model.index_snoc C.model.index rfl
  · exact List.forall_mem_append.2 ⟨C.model.nonempty, List.forall_mem_singleton.2 ordered⟩
  · exact List.forall_mem_append.2 ⟨C.model.declared, List.forall_mem_singleton.2 rfl⟩
  · intro c hc
    exact (C.model.constraints c hc).mono (List.subset_append_left _ _)
  · simp [Session.enter, Registry.vars, ← C.inStep]
  · intro e he id holder
    rcases List.mem_append.1 he with old | new
    · exact C.issued e old id holder
    · obtain rfl := List.mem_singleton.1 new
      exact known id holder

variable {key minimum maximum description : Value}

theorem IsCoherent.keyAt?_length (C : s.IsCoherent) :
    s.registry.keyAt? s.model.vars.length = none := by
  simp only [Registry.keyAt?, Registry.entryAt?, Option.map_eq_none_iff, List.find?_eq_none,
    decide_eq_true_eq]
  intro e he same
  have own : e.2 ∈ s.model.vars := by
    rw [← C.inStep]
    exact List.mem_map_of_mem he
  have := C.model.index_nonneg own
  omega

/-- What a session makes for a new key is a fresh variable. -/
theorem on_newVariable {lower upper : Int} (ordered : lower ≤ upper) (name : String) :
    (Model.newVariable lower upper name).on s.model =
      (.ok (s.fresh lower upper name),
        { s.model with vars := s.model.vars ++ [s.fresh lower upper name] }) := by
  simp [Model.newVariable, Int.not_lt.2 ordered, fresh]

/-- A key that is bound is left with its variable. -/
theorem on_bind_known (hashable : key.isHashable = true) {v : Variable}
    (known : s.registry.variableOf? key = some v) :
    (bind key minimum maximum description).on s = (.ok v, s) := by
  simp only [bind, Attempt.on_focus, Registry.on_bind_known hashable known]

/-- A new key whose bounds are not in order is not entered. -/
theorem on_bind_unranged (hashable : key.isHashable = true)
    (new : s.registry.entryOf? key = none) (plain : ∀ w, key ≠ .handle w) {fault : Fault}
    (failed : Registry.range minimum maximum description = .error fault) :
    (bind key minimum maximum description).on s = (.error fault, s) := by
  simp only [bind, Attempt.on_focus, Registry.on_bind_new hashable new plain, failed]

/-- A new key is entered with a fresh variable. -/
theorem on_bind_new (C : s.IsCoherent) (hashable : key.isHashable = true)
    (new : s.registry.entryOf? key = none) (plain : ∀ w, key ≠ .handle w) {lower upper : Int}
    (ranged : Registry.range minimum maximum description = .ok (lower, upper)) :
    (bind key minimum maximum description).on s =
      (.ok (s.fresh lower upper description.shown),
        s.enter key (s.fresh lower upper description.shown)) := by
  have allocated := on_newVariable (s := s) (Registry.le_of_range_eq_ok ranged) description.shown
  have free : s.registry.keyAt? (s.fresh lower upper description.shown).index = none :=
    C.keyAt?_length
  simp only [bind, Attempt.on_focus, Registry.on_bind_new hashable new plain, ranged, allocated,
    free, enter]

/-- **What binding a key does**: it fails and changes nothing, or finds the variable of the key and
changes nothing, or enters a fresh variable. -/
theorem bind_cases (C : s.IsCoherent) {ending : Except Fault Variable}
    (ran : (bind key minimum maximum description).on s = (ending, t)) :
    (∃ fault, ending = .error fault ∧ t = s) ∨
      (∃ v, ending = .ok v ∧ s.registry.variableOf? key = some v ∧ t = s) ∨
      ∃ lower upper v, ending = .ok v ∧ s.registry.entryOf? key = none ∧
        Registry.range minimum maximum description = .ok (lower, upper) ∧
        v = s.fresh lower upper description.shown ∧ t = s.enter key v := by
  rw [bind, Attempt.on_focus] at ran
  obtain ⟨rfl, rfl⟩ := Prod.mk.inj ran
  rcases bound : (Registry.bind Model.newVariable key minimum maximum description).on
    (s.registry, s.model) with ⟨made, registry, model⟩
  generalize same : s.registry = r at bound
  cases Registry.bind_turn bound with
  | refused => exact .inl ⟨_, rfl, by rw [← same]⟩
  | found known => exact .inr (.inl ⟨_, rfl, known, by rw [← same]⟩)
  | unallocated ranged failed =>
    simp [on_newVariable (Registry.le_of_range_eq_ok ranged)] at failed
  | stray ranged allocated taken =>
    rw [on_newVariable (Registry.le_of_range_eq_ok ranged)] at allocated
    obtain ⟨rfl, rfl⟩ := by simpa using allocated
    exact absurd taken (by simp [← same, fresh, C.keyAt?_length])
  | entered hashable new ranged allocated free =>
    rw [on_newVariable (Registry.le_of_range_eq_ok ranged)] at allocated
    obtain ⟨rfl, rfl⟩ := by simpa using allocated
    exact .inr (.inr ⟨_, _, _, rfl, same ▸ new, ranged, rfl, by rw [← same]; rfl⟩)

/-- A holder that has not been issued meets no key. -/
theorem IsCoherent.entryOf?_holder (C : s.IsCoherent) (description : Value) :
    s.registry.entryOf? (.holder s.nextCondition description) = none := by
  rw [Registry.entryOf?, List.find?_eq_none]
  intro e he met
  have same : e.1.key? = some (.holder s.nextCondition) := by
    rw [Value.meets, Value.refuses_holder, Bool.or_false, Value.isSameKey] at met
    cases key : e.1.key? with
    | none => simp [key] at met
    | some k => simpa [key, Value.key?] using met
  exact Nat.lt_irrefl _ (C.issued e he _ same)

/-- A new holder is entered with its indicator. -/
theorem on_bind_holder (C : s.IsCoherent) (description : Value) {name : Value}
    (writable : name.obstacle? = none) :
    (bind (.holder s.nextCondition description) (.int 0) (.int 1) name).on s.issue =
      (.ok (s.fresh 0 1 name.shown),
        s.issue.enter (.holder s.nextCondition description) (s.fresh 0 1 name.shown)) := by
  have new := C.entryOf?_holder description
  apply on_bind_new C.issue
  · rfl
  · exact new
  · simp
  · rw [Registry.range_int 0 1 writable]
    rfl

/-- A holder that was just entered is resolved to its indicator. -/
theorem IsCoherent.resolve_holder (C : s.IsCoherent) (premise consequence : LinearRelation)
    (description : Value) :
    (s.imply premise consequence description).registry.resolve
      (.holder s.nextCondition description) = .ok (s.indicator description) := by
  have new := C.entryOf?_holder description
  rw [Registry.resolve_key_eq_ok (by simp), Registry.variableOf?_eq_some]
  refine ⟨.holder s.nextCondition description, ?_, Value.refuses_self _⟩
  rw [Registry.entryOf?] at new ⊢
  have found : (Value.holder s.nextCondition description).meets
      (.holder s.nextCondition description) = true := by
    simp [Value.meets, Value.isSameKey, Value.key?]
  simp [imply, List.find?_append, new, found]

variable {value relation : Value}

/-- A linear relation is recorded as it is, if what its constraint is named by can be written. -/
theorem on_onModel_add (C : s.IsCoherent) (r : LinearRelation)
    (own : ∀ v ∈ r.sum.vars, v ∈ s.registry.vars) {description : Value}
    (named : Model.requireName (.whole r.sum) description = .ok ()) :
    (onModel (Model.add (.whole r.sum) (.known r.relation.comparison) (.int r.constant) none
      description)).on s =
      (.ok (r.constraint description), s.record [r.constraint description]) := by
  rw [C.inStep] at own
  have covered : (r.constraint description).IsOver s.model.vars :=
    ⟨⟨r.sum, rfl, own⟩, ⟨_, rfl⟩, by simp [LinearRelation.constraint]⟩
  have added := Model.on_add C.model covered named
  simp only [LinearRelation.constraint] at added
  rw [onModel, Attempt.on_focus, added]
  rfl

/-- A value that can be written is required of a variable. -/
theorem on_enforceValue (C : s.IsCoherent) {v : Variable} {n : Int}
    (resolved : s.registry.resolve key = .ok v) (integer : value.asInteger "" = .ok n)
    (writable : Obstacle.ofInt? n = none) :
    (enforceValue key value).on s =
      (.ok (LinearRelation.constraint ⟨⟨[(v, 1)]⟩, .eq, n⟩ (.text s!"{v.name} == {n}")),
        s.record [LinearRelation.constraint ⟨⟨[(v, 1)]⟩, .eq, n⟩ (.text s!"{v.name} == {n}")]) := by
  have own : v ∈ s.registry.vars := Registry.mem_vars_of_resolve resolved
  have written : (Value.int n).requireText = .ok () := by
    simpa [Value.requireText_eq_ok] using writable
  rw [enforceValue, Attempt.on_get_bind, Attempt.on_check_ok resolved,
    Attempt.on_check_ok ((Value.asInteger_eq_ok _ _).2 integer), Attempt.on_check_ok written]
  exact on_onModel_add C ⟨⟨[(v, 1)]⟩, .eq, n⟩ (by simpa using own)
    (Model.requireName_text _ (by simp [toString]))

/-- **What requesting a value does**: it fails and changes nothing, or records one constraint. -/
theorem enforceValue_cases (C : s.IsCoherent) {ending : Except Fault Constraint}
    (ran : (enforceValue key value).on s = (ending, t)) :
    (∃ fault, ending = .error fault ∧ t = s) ∨
      ∃ v n c text, s.registry.resolve key = .ok v ∧ value.asInteger "" = .ok n ∧ ending = .ok c ∧
        t = s.record [LinearRelation.constraint ⟨⟨[(v, 1)]⟩, .eq, n⟩ text] := by
  have rest := ran
  rw [enforceValue, Attempt.on_get_bind] at rest
  obtain failed | ⟨v, resolved, rest⟩ := Attempt.on_check_cases rest
  · exact .inl failed
  obtain failed | ⟨n, integer, rest⟩ := Attempt.on_check_cases rest
  · exact .inl failed
  obtain failed | ⟨⟨⟩, written, -⟩ := Attempt.on_check_cases rest
  · exact .inl failed
  replace integer := (Value.asInteger_eq_ok _ "").1 integer
  have writable : Obstacle.ofInt? n = none := by simpa [Value.requireText_eq_ok] using written
  obtain ⟨rfl, rfl⟩ := Prod.mk.inj ((on_enforceValue C resolved integer writable).symm.trans ran)
  exact .inr ⟨v, n, _, _, resolved, integer, rfl, rfl⟩

/-- A relation is required of a sum, under a description that can be written. -/
theorem on_enforce (C : s.IsCoherent) {r : LinearRelation}
    (read : ConditionRequest.read s ⟨keys, coefficients, value, relation⟩ = .ok r)
    (writable : description.obstacle? = none)
    (named : Model.requireName (.whole r.sum) description = .ok ()) :
    (enforce keys coefficients value relation description).on s =
      (.ok (r.constraint description), s.record [r.constraint description]) := by
  obtain ⟨summed, related, integer⟩ := ConditionRequest.read_eq_ok.1 read
  rw [enforce, Attempt.on_get_bind, Attempt.on_check_ok (sumOf_of_writable writable summed),
    Attempt.on_check_ok related, Attempt.on_check_ok (Value.requireText_eq_ok.2 writable),
    Attempt.on_check_ok ((Value.asInteger_eq_ok _ _).2 integer)]
  exact on_onModel_add C r (mem_vars_of_sumOf summed) named

/-- A relation whose constraint is named by what cannot be written is refused. -/
theorem on_enforce_unnamed (C : s.IsCoherent) {r : LinearRelation}
    (read : ConditionRequest.read s ⟨keys, coefficients, value, relation⟩ = .ok r)
    (writable : description.obstacle? = none) {fault : Fault}
    (unnamed : Model.requireName (.whole r.sum) description = .error fault) :
    (enforce keys coefficients value relation description).on s = (.error fault, s) := by
  obtain ⟨summed, related, integer⟩ := ConditionRequest.read_eq_ok.1 read
  have own : ∀ v ∈ (LinearForm.whole r.sum).vars, v ∈ s.model.vars := by
    rw [LinearForm.vars_whole, ← C.inStep]
    exact mem_vars_of_sumOf summed
  rw [enforce, Attempt.on_get_bind, Attempt.on_check_ok (sumOf_of_writable writable summed),
    Attempt.on_check_ok related, Attempt.on_check_ok (Value.requireText_eq_ok.2 writable),
    Attempt.on_check_ok ((Value.asInteger_eq_ok _ _).2 integer)]
  rw [onModel, Attempt.on_focus, Model.on_add_unnamed C.model own unnamed]

/-- **What requesting a relation does**: it fails and changes nothing, or records one constraint. -/
theorem enforce_cases (C : s.IsCoherent) {ending : Except Fault Constraint}
    (ran : (enforce keys coefficients value relation description).on s = (ending, t)) :
    (∃ fault, ending = .error fault ∧ t = s) ∨
      ∃ r c, ConditionRequest.read s ⟨keys, coefficients, value, relation⟩ = .ok r ∧
        ending = .ok c ∧ t = s.record [r.constraint description] := by
  have rest := ran
  rw [enforce, Attempt.on_get_bind] at rest
  obtain failed | ⟨sum, summed, rest⟩ := Attempt.on_check_cases rest
  · exact .inl failed
  obtain failed | ⟨r, related, rest⟩ := Attempt.on_check_cases rest
  · exact .inl failed
  obtain failed | ⟨⟨⟩, written, rest⟩ := Attempt.on_check_cases rest
  · exact .inl failed
  obtain failed | ⟨n, integer, -⟩ := Attempt.on_check_cases rest
  · exact .inl failed
  have read : ConditionRequest.read s ⟨keys, coefficients, value, relation⟩ = .ok ⟨sum, r, n⟩ :=
    ConditionRequest.read_eq_ok.2
      ⟨sumOf_of_described summed, related, (Value.asInteger_eq_ok _ _).1 integer⟩
  have writable := Value.requireText_eq_ok.1 written
  rcases named : Model.requireName (.whole sum) description with fault | ⟨⟨⟩⟩
  · -- without a description the constraint is named by its sum, which may not be written
    obtain ⟨rfl, rfl⟩ := Prod.mk.inj ((on_enforce_unnamed C read writable named).symm.trans ran)
    exact .inl ⟨fault, rfl, rfl⟩
  · obtain ⟨rfl, rfl⟩ := Prod.mk.inj
      ((on_enforce C read writable named).symm.trans ran)
    exact .inr ⟨_, _, read, rfl, rfl⟩

theorem indicator_isBoolean (s : Session) (description : Value) :
    (s.indicator description).isBoolean = true := by
  rw [Variable.isBoolean, Variable.isExact_of_declared_none rfl]
  rfl

theorem IsCoherent.enter_holder (C : s.IsCoherent) (description : Value) :
    (s.issue.enter (.holder s.nextCondition description) (s.indicator description)).IsCoherent := by
  apply C.issue.enter (by omega)
  intro id holder
  obtain rfl : s.nextCondition = id := by simpa [Value.key?] using holder
  simp

section

variable {p e : LinearRelation} (ownP : ∀ v ∈ p.sum.vars, v ∈ s.registry.vars)
  (ownE : ∀ v ∈ e.sum.vars, v ∈ s.registry.vars) (description : Value)

include ownP ownE

theorem IsCoherent.isOver_indicator (C : s.IsCoherent) :
    Implication.IsOver ⟨s.indicator description, p, e⟩
      (s.model.vars ++ [s.indicator description]) := by
  rw [C.inStep] at ownP ownE
  refine ⟨by simp, indicator_isBoolean s description, ?_, ?_⟩
  · exact fun v hv => List.mem_append_left _ (ownP v hv)
  · exact fun v hv => List.mem_append_left _ (ownE v hv)

theorem IsCoherent.imply (C : s.IsCoherent) : (s.imply p e description).IsCoherent :=
  (C.enter_holder description).record ((C.isOver_indicator ownP ownE description).constraints _)

/-- The encoding of an implication on the session in which its holder has just been entered. -/
theorem on_onModel_encodeImplication (C : s.IsCoherent) :
    (onModel (Model.encodeImplication (s.indicator description)
      ⟨.ok (.whole p.sum), .relation p.relation, .int p.constant⟩
      ⟨.ok (.whole e.sum), .relation e.relation, .int e.constant⟩ description.shown)).on
      (s.issue.enter (.holder s.nextCondition description) (s.indicator description)) =
      (.ok (), s.imply p e description) := by
  have encoded := Model.on_encodeImplication (C.enter_holder description).model
    (C.isOver_indicator ownP ownE description) description.shown
  rw [onModel, Attempt.on_focus, encoded]
  rfl

end

/-- What is read has as many coefficients as keys. -/
theorem requireArity_of_read {c : ConditionRequest} {r : LinearRelation} (read : c.read s = .ok r)
    (side : Side) (description : Value) : requireArity side c description = .ok () := by
  obtain ⟨resolved, integers⟩ := sumOf_eq_ok.1 (ConditionRequest.read_eq_ok.1 read).1
  have same : c.keys.length = c.coefficients.length := by
    rw [resolved.length_eq, integers.length_eq]
    simp [WeightedSum.vars, WeightedSum.coefficients]
  rw [requireArity, if_pos same]
  rfl

/-- What is not nothing and can be written, or a text in its place, can be written. -/
theorem obstacle?_orElse {description : Value} (writable : description.obstacle? = none)
    (text : String) : (description.orElse (.text text)).obstacle? = none := by
  rw [Value.orElse]
  split
  · exact writable
  · simp

/-- An implication is required, under a description that can be written. Nothing can fail once its
sides are read, for its holder is new and its indicator is fresh. -/
theorem on_ifThen (C : s.IsCoherent) {premise consequence : ConditionRequest} {p e : LinearRelation}
    (readP : premise.read s = .ok p) (readE : consequence.read s = .ok e)
    (writable : description.obstacle? = none) :
    (ifThen premise consequence description).on s =
      (.ok (.holder s.nextCondition description), s.imply p e description) := by
  obtain ⟨summedP, relatedP, integerP⟩ := ConditionRequest.read_eq_ok.1 readP
  obtain ⟨summedE, relatedE, integerE⟩ := ConditionRequest.read_eq_ok.1 readE
  have bound := on_bind_holder C description
    (obstacle?_orElse writable s!"condition {s.nextCondition}")
  have encoded := on_onModel_encodeImplication (mem_vars_of_sumOf summedP)
    (mem_vars_of_sumOf summedE) description C
  rw [ifThen, Attempt.on_check_ok (requireArity_of_read readP _ _),
    Attempt.on_check_ok (requireArity_of_read readE _ _), Attempt.on_get_bind,
    Attempt.on_check_ok (sumOf_of_writable writable summedP),
    Attempt.on_check_ok (sumOf_of_writable writable summedE), Attempt.on_check_ok relatedP,
    Attempt.on_check_ok relatedE, Attempt.on_check_ok (Value.requireText_eq_ok.2 writable),
    Attempt.on_check_ok ((Value.asInteger_eq_ok _ _).2 integerP),
    Attempt.on_check_ok ((Value.asInteger_eq_ok _ _).2 integerE), Attempt.on_modify_bind]
  exact (Attempt.on_bind_ok bound).trans (Attempt.on_bind_ok encoded)

/-- **What requesting an implication does**: it fails and changes nothing, or records the
constraints of the implication under a fresh indicator, to which its holder is bound. -/
theorem ifThen_cases (C : s.IsCoherent) {premise consequence : ConditionRequest}
    {ending : Except Fault Value}
    (ran : (ifThen premise consequence description).on s = (ending, t)) :
    (∃ fault, ending = .error fault ∧ t = s) ∨
      ∃ p e, premise.read s = .ok p ∧ consequence.read s = .ok e ∧
        ending = .ok (.holder s.nextCondition description) ∧ t = s.imply p e description := by
  have rest := ran
  rw [ifThen] at rest
  obtain failed | ⟨-, -, rest⟩ := Attempt.on_check_cases rest
  · exact .inl failed
  obtain failed | ⟨-, -, rest⟩ := Attempt.on_check_cases rest
  · exact .inl failed
  rw [Attempt.on_get_bind] at rest
  obtain failed | ⟨p, summedP, rest⟩ := Attempt.on_check_cases rest
  · exact .inl failed
  obtain failed | ⟨e, summedE, rest⟩ := Attempt.on_check_cases rest
  · exact .inl failed
  obtain failed | ⟨r₁, relatedP, rest⟩ := Attempt.on_check_cases rest
  · exact .inl failed
  obtain failed | ⟨r₂, relatedE, rest⟩ := Attempt.on_check_cases rest
  · exact .inl failed
  obtain failed | ⟨⟨⟩, written, rest⟩ := Attempt.on_check_cases rest
  · exact .inl failed
  obtain failed | ⟨l₁, integerP, rest⟩ := Attempt.on_check_cases rest
  · exact .inl failed
  obtain failed | ⟨l₂, integerE, -⟩ := Attempt.on_check_cases rest
  · exact .inl failed
  have readP : premise.read s = .ok ⟨p, r₁, l₁⟩ := ConditionRequest.read_eq_ok.2
    ⟨sumOf_of_described summedP, relatedP, (Value.asInteger_eq_ok _ _).1 integerP⟩
  have readE : consequence.read s = .ok ⟨e, r₂, l₂⟩ := ConditionRequest.read_eq_ok.2
    ⟨sumOf_of_described summedE, relatedE, (Value.asInteger_eq_ok _ _).1 integerE⟩
  obtain ⟨rfl, rfl⟩ := Prod.mk.inj
    ((on_ifThen C readP readE (Value.requireText_eq_ok.1 written)).symm.trans ran)
  exact .inr ⟨_, _, readP, readE, rfl, rfl⟩

end Session

end IntegerProgram
