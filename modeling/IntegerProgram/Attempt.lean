import IntegerProgram.Fault

/-!
# Attempts

An operation on a state may fail after it has changed the state. An attempt records both: how it
ends, and the state that it leaves behind either way.

## Main definitions

* `Attempt`: such an operation.
* `Attempt.on`: its ending and the state after it. A lemma says for each way of building attempts
  what it does to these.
-/
namespace IntegerProgram

/-- An operation on a state that returns or fails, and leaves a state in both cases. -/
abbrev Attempt (σ α : Type) := ExceptT Fault (StateM σ) α

namespace Attempt

variable {σ τ α β : Type}

/-- How the attempt ends, and the state after it. -/
def on (m : Attempt σ α) (s : σ) : Except Fault α × σ := (ExceptT.run m).run s

/-- How the attempt ends. -/
def result (m : Attempt σ α) (s : σ) : Except Fault α := (m.on s).1

/-- The state that the attempt leaves. -/
def state (m : Attempt σ α) (s : σ) : σ := (m.on s).2

/-- An attempt on a part of a larger state. -/
def focus (part : τ → σ) (replace : τ → σ → τ) (m : Attempt σ α) : Attempt τ α :=
  ExceptT.mk do
    let whole ← get
    let (ending, left) := m.on (part whole)
    set (replace whole left)
    return ending

@[simp] theorem on_pure (a : α) (s : σ) : (pure a : Attempt σ α).on s = (.ok a, s) := rfl

@[simp] theorem on_throw (fault : Fault) (s : σ) :
    (throw fault : Attempt σ α).on s = (.error fault, s) := rfl

@[simp] theorem on_get (s : σ) : (get : Attempt σ σ).on s = (.ok s, s) := rfl

@[simp] theorem on_set (t s : σ) : (set t : Attempt σ PUnit).on s = (.ok ⟨⟩, t) := rfl

@[simp] theorem on_modify (f : σ → σ) (s : σ) :
    (modify f : Attempt σ PUnit).on s = (.ok ⟨⟩, f s) := rfl

/-- What cannot change the state leaves it as it was. -/
@[simp] theorem on_liftM (r : Except Fault α) (s : σ) : (liftM r : Attempt σ α).on s = (r, s) := by
  cases r <;> rfl

/-- The second of two attempts starts where the first has ended, unless that failed. -/
theorem on_bind (m : Attempt σ α) (f : α → Attempt σ β) (s : σ) :
    (m >>= f).on s =
      match m.on s with
      | (.ok a, t) => (f a).on t
      | (.error fault, t) => (.error fault, t) := by
  change (ExceptT.bindCont f (m.on s).1).run (m.on s).2 = _
  cases m.on s with
  | mk ending left => cases ending <;> rfl

theorem on_bind_ok {m : Attempt σ α} {f : α → Attempt σ β} {s t : σ} {a : α}
    (first : m.on s = (.ok a, t)) : (m >>= f).on s = (f a).on t := by
  rw [on_bind, first]

theorem on_bind_error {m : Attempt σ α} {f : α → Attempt σ β} {s t : σ} {fault : Fault}
    (first : m.on s = (.error fault, t)) : (m >>= f).on s = (.error fault, t) := by
  rw [on_bind, first]

/-- An attempt on a part leaves the rest as it was, as far as replacing the part does. -/
@[simp] theorem on_focus (part : τ → σ) (replace : τ → σ → τ) (m : Attempt σ α) (s : τ) :
    (m.focus part replace).on s = ((m.on (part s)).1, replace s (m.on (part s)).2) := rfl

end Attempt

end IntegerProgram
