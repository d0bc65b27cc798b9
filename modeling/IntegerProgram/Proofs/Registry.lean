import IntegerProgram.Proofs.Integer
import IntegerProgram.Proofs.Key
import IntegerProgram.Registry

/-!
# Registries that grow

A reference that a registry resolves is resolved to the same variable for ever: later entries come
after the one that was found, and the first that is found counts. Binding a key changes nothing, or
enters one key with one variable, whatever the allocator is.

## Main definitions

* `Registry.Turn`: what binding a key does.

## Main statements

* `Registry.resolve_handle_eq_ok`, `Registry.resolve_key_eq_ok`: what a reference is resolved to.
* `Registry.resolve_of_isPrefix`: more entries change no answer.
* `Registry.bind_turn`: binding a key does one of these things.
-/
namespace IntegerProgram.Registry

section Resolve

variable {r t : Registry} {key ref : Value} {v w : Variable}

theorem isRefused_eq_false : r.isRefused key = false ↔ r.refusal? key = none := by
  simp [isRefused]

/-- A key is refused if the first entry that it meets refuses it. -/
theorem isRefused_eq : r.isRefused key = (r.entryOf? key).any fun e => e.1.refuses key := by
  unfold isRefused refusal?
  cases r.entryOf? key <;> rfl

/-- The variable of a key is that of the first entry that the key meets, unless the entry refuses to
be compared with the key. -/
theorem variableOf?_eq_some :
    r.variableOf? key = some v ↔ ∃ k, r.entryOf? key = some (k, v) ∧ k.refuses key = false := by
  rw [variableOf?, isRefused_eq]
  cases found : r.entryOf? key with
  | none => simp
  | some e =>
    obtain ⟨k, u⟩ := e
    cases refused : k.refuses key <;> simp [refused]

/-- What is found from a key is the variable of an equal one. -/
theorem exists_mem_of_variableOf? (known : r.variableOf? key = some v) :
    ∃ k, (k, v) ∈ r.entries ∧ k.isSameKey key = true := by
  obtain ⟨k, found, accepted⟩ := variableOf?_eq_some.1 known
  have met : k.meets key = true := by simpa using List.find?_some found
  exact ⟨k, List.mem_of_find?_eq_some found, by simpa [Value.meets, accepted] using met⟩

/-- A handle refers to its variable if that is the entry at its index, unless the key is nothing. -/
theorem resolve_handle_eq_ok :
    r.resolve (.handle w) = .ok v ↔ w = v ∧ ∃ k, r.entryAt? v.index = some (k, v) ∧ k ≠ .none := by
  simp only [resolve]
  split
  · next u found =>
    simp only [throw_eq_error, reduceCtorEq, false_iff]
    rintro ⟨rfl, k, same, other⟩
    simp_all
  · next found =>
    simp only [throw_eq_error, reduceCtorEq, false_iff]
    rintro ⟨rfl, k, same, other⟩
    simp_all
  · next k u other found =>
    by_cases same : u = w
    · subst same
      simp only [if_true, pure_eq_ok, Except.ok.injEq]
      constructor
      · rintro rfl
        exact ⟨rfl, k, found, other⟩
      · exact fun h => h.1
    · simp only [same, if_false, throw_eq_error, reduceCtorEq, false_iff]
      rintro ⟨rfl, k, equal, -⟩
      simp_all

/-- Any other reference is a key. -/
theorem resolve_key_eq_ok (plain : ∀ w, ref ≠ .handle w) :
    r.resolve ref = .ok v ↔ r.variableOf? ref = some v := by
  cases ref with
  | handle w => exact absurd rfl (plain w)
  | _ =>
    simp only [resolve]
    split <;> simp_all

/-- What a reference refers to is a variable of the registry. -/
theorem mem_vars_of_resolve (resolved : r.resolve ref = .ok v) : v ∈ r.vars := by
  by_cases handle : ∃ w, ref = .handle w
  · obtain ⟨w, rfl⟩ := handle
    obtain ⟨-, k, found, -⟩ := resolve_handle_eq_ok.1 resolved
    exact List.mem_map_of_mem (f := (·.2)) (List.mem_of_find?_eq_some found)
  · rw [resolve_key_eq_ok (not_exists.1 handle)] at resolved
    obtain ⟨k, entered, -⟩ := exists_mem_of_variableOf? resolved
    exact List.mem_map_of_mem (f := (·.2)) entered

/-- What references refer to are variables of the registry. -/
theorem mem_vars_of_resolveAll {refs : List Value} {vs : List Variable}
    (resolved : List.Forall₂ (fun k v => r.resolve k = .ok v) refs vs) : ∀ v ∈ vs, v ∈ r.vars := by
  induction resolved with
  | nil => simp
  | cons first _ ih =>
    rw [List.forall_mem_cons]
    exact ⟨mem_vars_of_resolve first, ih⟩

/-- **More entries change no answer.** -/
theorem resolve_of_isPrefix (more : r.entries <+: t.entries) (resolved : r.resolve ref = .ok v) :
    t.resolve ref = .ok v := by
  by_cases handle : ∃ w, ref = .handle w
  · obtain ⟨w, rfl⟩ := handle
    obtain ⟨same, k, found, other⟩ := resolve_handle_eq_ok.1 resolved
    exact resolve_handle_eq_ok.2 ⟨same, k, more.find?_eq_some found, other⟩
  · rw [resolve_key_eq_ok (not_exists.1 handle)] at resolved ⊢
    obtain ⟨k, found, accepted⟩ := variableOf?_eq_some.1 resolved
    exact variableOf?_eq_some.2 ⟨k, more.find?_eq_some found, accepted⟩

/-- If no key meets a later one, each key is resolved to the variable that it is listed with. -/
theorem resolve_of_mem (apart : r.keys.Pairwise fun k l => k.meets l = false)
    {e : Value × Variable} (listed : e ∈ r.entries) (self : e.1.meets e.1 = true)
    (plain : ∀ w, e.1 ≠ .handle w) : r.resolve e.1 = .ok e.2 := by
  obtain ⟨before, after, all⟩ := List.append_of_mem listed
  rw [keys, all, List.map_append, List.pairwise_append] at apart
  have earlier : before.find? (fun k => k.1.meets e.1) = none := by
    rw [List.find?_eq_none]
    intro k hk met
    simp [apart.2.2 k.1 (List.mem_map_of_mem hk) e.1 (by simp)] at met
  rw [resolve_key_eq_ok plain, variableOf?_eq_some]
  refine ⟨e.1, ?_, Value.refuses_self e.1⟩
  rw [entryOf?, all, List.find?_append, earlier, Option.none_or]
  exact List.find?_cons_of_pos self

end Resolve

section Bind

variable {σ : Type} {allocate : Allocator σ} {r t : Registry} {s u : σ}
  {key minimum maximum description : Value} {ending : Except Fault Variable} {v : Variable}

theorem entryOf?_eq_none_iff :
    r.entryOf? key = none ↔ r.isRefused key = false ∧ r.variableOf? key = none := by
  rw [variableOf?, isRefused_eq]
  cases r.entryOf? key with
  | none => simp
  | some e => cases e.1.refuses key <;> simp

/-- The bounds of a new key are integers in order, under a description that can be written. -/
theorem range_eq_ok {lower upper : Int} :
    range minimum maximum description = .ok (lower, upper) ↔
      description.obstacle? = none ∧ minimum.asInteger "" = .ok lower ∧
        maximum.asInteger "" = .ok upper ∧ lower ≤ upper := by
  rw [range, check_bind_eq_ok, Value.requireText_eq_ok]
  refine and_congr_right fun _ => ?_
  simp only [bind_eq_ok, Value.asInteger_eq_ok _ ""]
  constructor
  · rintro ⟨l, low, u, high, ordered⟩
    by_cases inverted : u < l
    · simp [inverted] at ordered
    · obtain ⟨rfl, rfl⟩ : l = lower ∧ u = upper := by simpa [inverted] using ordered
      exact ⟨low, high, Int.not_lt.1 inverted⟩
  · rintro ⟨low, high, ordered⟩
    exact ⟨lower, low, upper, high, by simp [Int.not_lt.2 ordered]⟩

/-- Integers are bounds if they are in order. -/
theorem range_int (lower upper : Int) {description : Value}
    (writable : description.obstacle? = none) :
    range (.int lower) (.int upper) description =
      if upper < lower then .error (.raised (.invertedRange lower upper description))
      else .ok (lower, upper) := by
  have described := Value.requireText_eq_ok.2 writable
  by_cases inverted : upper < lower <;> simp [range, described, Value.asInteger, inverted]

theorem le_of_range_eq_ok {lower upper : Int}
    (ranged : range minimum maximum description = .ok (lower, upper)) : lower ≤ upper :=
  (range_eq_ok.1 ranged).2.2.2

/-- Whether a fault is another one than that a variable is there. -/
def IsUnbound (fault : Fault) : Prop := ∀ v k, fault ≠ .alreadyBound v k

/-- A fault that is another one is so where it cannot be told. -/
theorem isUnbound_raised {fault : Fault} (other : IsUnbound fault) : IsUnbound fault.raised :=
  Fault.of_raised other fun o => by cases o <;> simp [IsUnbound, Obstacle.fault]

theorem isUnbound_refusalFault (key : Value) (refusal : Value.Refusal) :
    IsUnbound (refusalFault key refusal) := by
  cases refusal with
  | incomparable => exact isUnbound_raised (by simp [IsUnbound])
  | tooDeep => simp [IsUnbound, refusalFault]

/-- Bounds are not refused for a variable that is there. -/
theorem failsOnly_range : FailsOnly IsUnbound (range minimum maximum description) := by
  have integer (value : Value) (what : String) : FailsOnly IsUnbound (value.asInteger what) :=
    Value.failsOnly_asInteger (by simp [IsUnbound]) (isUnbound_raised (by simp [IsUnbound]))
  refine FailsOnly.bind ?_ fun _ _ => (integer _ _).bind fun lower _ => (integer _ _).bind
    fun upper _ => ?_
  · intro fault failed
    cases obstacle : description.obstacle? with
    | none => simp [Value.requireText, obstacle] at failed
    | some o =>
      obtain rfl : o.fault = fault := by simpa [Value.requireText, obstacle] using failed
      cases o <;> simp [IsUnbound, Obstacle.fault]
  · split
    · exact (FailsOnly.throw_iff _).2 (isUnbound_raised (by simp [IsUnbound]))
    · simp

/-- What cannot be a key is refused. -/
theorem on_bind_unhashable (unhashable : key.isHashable = false) :
    (bind allocate key minimum maximum description).on (r, s) =
      (.error (.raised (.unhashableKey key)), r, s) := by
  simp [bind, unhashable]

/-- A key that cannot be looked up is refused. -/
theorem on_bind_refused {refusal : Value.Refusal} (refused : r.refusal? key = some refusal) :
    (bind allocate key minimum maximum description).on (r, s) =
      (.error (refusalFault key refusal), r, s) := by
  obtain ⟨e, -, met⟩ := Option.bind_eq_some_iff.1 refused
  simp [bind, Value.isHashable_of_refusal? met, Attempt.on_bind, refused]

/-- A key that is bound has its variable, whatever the bounds and the description. -/
theorem on_bind_known (hashable : key.isHashable = true) (known : r.variableOf? key = some v) :
    (bind allocate key minimum maximum description).on (r, s) = (.ok v, r, s) := by
  obtain ⟨k, found, accepted⟩ := variableOf?_eq_some.1 known
  have met : r.refusal? key = none := isRefused_eq_false.1 (by simp [isRefused_eq, found, accepted])
  simp [bind, hashable, Attempt.on_bind, met, known]

/-- A new key is entered with what is allocated for it, unless that has an index that is taken. -/
theorem on_bind_new (hashable : key.isHashable = true) (new : r.entryOf? key = none)
    (plain : ∀ w, key ≠ .handle w) :
    (bind allocate key minimum maximum description).on (r, s) =
      match range minimum maximum description with
      | .error fault => (.error fault, r, s)
      | .ok (lower, upper) =>
        match (allocate lower upper description.shown).on s with
        | (.error fault, u) => (.error fault, r, u)
        | (.ok v, u) =>
          match r.keyAt? v.index with
          | some k => (.error (.raised (.alreadyBound v k)), r, u)
          | none => (.ok v, ⟨r.entries ++ [(key, v)]⟩, u) := by
  obtain ⟨met, unknown⟩ := entryOf?_eq_none_iff.1 new
  simp only [bind, hashable, Bool.not_true, Bool.false_eq_true, if_false, Attempt.on_get_bind,
    isRefused_eq_false.1 met, unknown]
  cases ranged : range minimum maximum description with
  | error fault => simp [Attempt.on_bind]
  | ok bounds =>
    obtain ⟨lower, upper⟩ := bounds
    cases allocated : (allocate lower upper description.shown).on s with
    | mk made u =>
      cases made with
      | error fault => simp [Attempt.on_bind, allocated]
      | ok v => cases taken : r.keyAt? v.index <;> simp [Attempt.on_bind, allocated, taken]

/-- What binding a key does to a registry and to the state of its allocator. -/
inductive Turn (allocate : Allocator σ) (r : Registry) (s : σ)
    (key minimum maximum description : Value) : Except Fault Variable → Registry → σ → Prop where
  /-- It is refused before anything is allocated. -/
  | refused {fault : Fault} (other : IsUnbound fault) :
      Turn allocate r s key minimum maximum description (.error fault) r s
  /-- The key is bound. -/
  | found {v : Variable} (known : r.variableOf? key = some v) :
      Turn allocate r s key minimum maximum description (.ok v) r s
  /-- Nothing can be allocated. -/
  | unallocated {fault : Fault} {u : σ} {lower upper : Int}
      (ranged : range minimum maximum description = .ok (lower, upper))
      (failed : (allocate lower upper description.shown).on s = (.error fault, u)) :
      Turn allocate r s key minimum maximum description (.error fault) r u
  /-- The index of what was allocated is taken. -/
  | stray {v : Variable} {k : Value} {u : σ} {lower upper : Int}
      (ranged : range minimum maximum description = .ok (lower, upper))
      (allocated : (allocate lower upper description.shown).on s = (.ok v, u))
      (taken : r.keyAt? v.index = some k) :
      Turn allocate r s key minimum maximum description (.error (.raised (.alreadyBound v k))) r u
  /-- The key is entered. -/
  | entered {v : Variable} {u : σ} {lower upper : Int} (hashable : key.isHashable = true)
      (new : r.entryOf? key = none)
      (ranged : range minimum maximum description = .ok (lower, upper))
      (allocated : (allocate lower upper description.shown).on s = (.ok v, u))
      (free : r.keyAt? v.index = none) :
      Turn allocate r s key minimum maximum description (.ok v) ⟨r.entries ++ [(key, v)]⟩ u

/-- **What binding a key does**, whatever the allocator. -/
theorem bind_turn
    (ran : (bind allocate key minimum maximum description).on (r, s) = (ending, t, u)) :
    Turn allocate r s key minimum maximum description ending t u := by
  cases hashable : key.isHashable with
  | false =>
    rw [on_bind_unhashable hashable] at ran
    obtain ⟨rfl, rfl, rfl⟩ := by simpa using ran
    exact .refused (isUnbound_raised (by simp [IsUnbound]))
  | true => ?_
  cases met : r.refusal? key with
  | some refusal =>
    rw [on_bind_refused met] at ran
    obtain ⟨rfl, rfl, rfl⟩ := by simpa using ran
    exact .refused (isUnbound_refusalFault key refusal)
  | none => ?_
  cases known : r.variableOf? key with
  | some v =>
    rw [on_bind_known hashable known] at ran
    obtain ⟨rfl, rfl, rfl⟩ := by simpa using ran
    exact .found known
  | none =>
    by_cases handle : ∃ w, key = .handle w
    · obtain ⟨w, rfl⟩ := handle
      simp [bind, hashable, Attempt.on_bind, met, known] at ran
      obtain ⟨rfl, rfl, rfl⟩ := ran
      exact .refused (isUnbound_raised (by simp [IsUnbound]))
    have new := entryOf?_eq_none_iff.2 ⟨isRefused_eq_false.2 met, known⟩
    rw [on_bind_new hashable new (not_exists.1 handle)] at ran
    cases ranged : range minimum maximum description with
    | error fault =>
      simp only [ranged, Prod.mk.injEq] at ran
      obtain ⟨rfl, rfl, rfl⟩ := ran
      exact .refused (failsOnly_range fault ranged)
    | ok bounds =>
      obtain ⟨lower, upper⟩ := bounds
      cases allocated : (allocate lower upper description.shown).on s with
      | mk made left =>
        cases made with
        | error fault =>
          simp only [ranged, allocated, Prod.mk.injEq] at ran
          obtain ⟨rfl, rfl, rfl⟩ := ran
          exact .unallocated ranged allocated
        | ok v =>
          cases taken : r.keyAt? v.index with
          | some k =>
            simp only [ranged, allocated, taken, Prod.mk.injEq] at ran
            obtain ⟨rfl, rfl, rfl⟩ := ran
            exact .stray ranged allocated taken
          | none =>
            simp only [ranged, allocated, taken, Prod.mk.injEq] at ran
            obtain ⟨rfl, rfl, rfl⟩ := ran
            exact .entered hashable new ranged allocated taken

/-- A key that a call has returned a variable for is found from then on. -/
theorem Turn.variableOf?_eq_some
    (turn : Turn allocate r s key minimum maximum description (.ok v) t u) :
    t.variableOf? key = some v := by
  cases turn with
  | found known => exact known
  | entered hashable new =>
    refine Registry.variableOf?_eq_some.2 ⟨key, ?_, Value.refuses_self key⟩
    rw [entryOf?] at new ⊢
    rw [List.find?_append, new, Option.none_or]
    exact List.find?_cons_of_pos (by simp [Value.meets, Value.isSameKey_self, hashable])

/-- A handle that is no key does not become one. -/
theorem on_bind_handle {w : Variable} (unknown : r.variableOf? (.handle w) = none) :
    ∃ fault, (bind allocate (.handle w) minimum maximum description).on (r, s) =
      (.error fault, r, s) := by
  cases met : r.refusal? (.handle w) with
  | some refusal => exact ⟨_, on_bind_refused met⟩
  | none => exact ⟨_, by simp [bind, Value.isHashable, Attempt.on_bind, met, unknown]; rfl⟩

end Bind

end IntegerProgram.Registry
