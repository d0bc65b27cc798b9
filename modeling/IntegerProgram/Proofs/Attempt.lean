import IntegerProgram.Attempt
import Mathlib.Data.List.Forall2

/-!
# Inverting attempts

What can be concluded from the way an operation that may fail has ended: a sequence returned only if
every part of it did, and a list was processed only if each of its items was.

## Main statements

* `bind_eq_ok`, `mapM_eq_ok`, `forM_eq_ok`: operations without a state.
* `Attempt.on_check_cases`: attempts that begin with a check.
-/
namespace IntegerProgram

section Except

variable {ε α β : Type}

theorem bind_eq_ok {x : Except ε α} {f : α → Except ε β} {b : β} :
    (x >>= f) = .ok b ↔ ∃ a, x = .ok a ∧ f a = .ok b := by
  cases x <;> simp [bind, Except.bind]

/-- What begins with a check returns if the check is passed and the rest returns. -/
theorem check_bind_eq_ok {x : Except ε Unit} {f : Unit → Except ε β} {b : β} :
    (x >>= f) = .ok b ↔ x = .ok () ∧ f () = .ok b := by
  cases x <;> simp [bind, Except.bind]

@[simp] theorem pure_eq_ok (a : α) : (pure a : Except ε α) = .ok a := rfl

@[simp] theorem throw_eq_error (e : ε) : (throw e : Except ε α) = .error e := rfl

@[simp] theorem ok_bind (a : α) (f : α → Except ε β) : (Except.ok a >>= f) = f a := rfl

@[simp] theorem map_ok (f : α → β) (a : α) : f <$> (Except.ok a : Except ε α) = .ok (f a) := rfl

@[simp] theorem error_bind (e : ε) (f : α → Except ε β) :
    ((Except.error e : Except ε α) >>= f) = .error e := rfl

/-- A list is turned into another one item by item. -/
theorem mapM_eq_ok {f : α → Except ε β} {xs : List α} {ys : List β} :
    xs.mapM f = .ok ys ↔ List.Forall₂ (fun x y => f x = .ok y) xs ys := by
  induction xs generalizing ys with
  | nil => cases ys <;> simp
  | cons x xs ih =>
    rw [List.mapM_cons]
    simp only [bind_eq_ok, pure_eq_ok, Except.ok.injEq, ih]
    constructor
    · rintro ⟨y, first, rest, others, rfl⟩
      exact .cons first others
    · rintro (_ | ⟨first, others⟩)
      exact ⟨_, first, _, others, rfl⟩

/-- Two functions that agree on a list turn it into the same list. -/
theorem mapM_congr {f g : α → Except ε β} {xs : List α} (same : ∀ x ∈ xs, f x = g x) :
    xs.mapM f = xs.mapM g := by
  induction xs with
  | nil => rfl
  | cons x xs ih =>
    rw [List.forall_mem_cons] at same
    rw [List.mapM_cons, List.mapM_cons, same.1, ih same.2]

/-- A list is turned into that of the results for its items. -/
theorem mapM_eq_ok_map {f : α → Except ε β} {g : α → β} {xs : List α}
    (each : ∀ x ∈ xs, f x = .ok (g x)) : xs.mapM f = .ok (xs.map g) := by
  rw [mapM_congr each]
  exact List.mapM_pure ..

/-- A list is turned into another one if each of its items is. -/
theorem exists_mapM_eq_ok {f : α → Except ε β} {xs : List α} (each : ∀ x ∈ xs, ∃ y, f x = .ok y) :
    ∃ ys, xs.mapM f = .ok ys := by
  simp only [mapM_eq_ok]
  induction xs with
  | nil => exact ⟨[], .nil⟩
  | cons x xs ih =>
    rw [List.forall_mem_cons] at each
    obtain ⟨⟨y, first⟩, others⟩ := each
    obtain ⟨ys, rest⟩ := ih others
    exact ⟨y :: ys, .cons first rest⟩

/-- All items of a list are turned into one value. -/
theorem mapM_eq_ok_replicate {f : α → Except ε β} {xs : List α} {b : β} :
    (∃ ys, xs.mapM f = .ok ys ∧ ∀ y ∈ ys, y = b) ↔ ∀ x ∈ xs, f x = .ok b := by
  simp only [mapM_eq_ok]
  induction xs with
  | nil => simp
  | cons x xs ih =>
    rw [List.forall_mem_cons, ← ih]
    constructor
    · rintro ⟨_, _ | ⟨first, others⟩, all⟩
      rw [List.forall_mem_cons] at all
      exact ⟨all.1 ▸ first, _, others, all.2⟩
    · rintro ⟨first, ys, others, all⟩
      exact ⟨b :: ys, .cons first others, List.forall_mem_cons.2 ⟨rfl, all⟩⟩

/-- An item of one list has a counterpart in the other. -/
theorem exists_mem_of_forall₂ {R : α → β → Prop} {xs : List α} {ys : List β}
    (related : List.Forall₂ R xs ys) : ∀ x ∈ xs, ∃ y ∈ ys, R x y := by
  induction related with
  | nil => simp
  | cons first rest ih =>
    rw [List.forall_mem_cons]
    refine ⟨⟨_, List.mem_cons_self, first⟩, fun x hx => ?_⟩
    obtain ⟨y, hy, xy⟩ := ih x hx
    exact ⟨y, List.mem_cons_of_mem _ hy, xy⟩

/-- What items say just as their counterparts do, all items of one list say just if all of the other
do. -/
theorem forall_mem_iff_of_forall₂ {R : α → β → Prop} {P : α → Prop} {Q : β → Prop} {xs : List α}
    {ys : List β} (related : List.Forall₂ R xs ys)
    (same : ∀ x ∈ xs, ∀ y ∈ ys, R x y → (P x ↔ Q y)) : (∀ x ∈ xs, P x) ↔ ∀ y ∈ ys, Q y := by
  induction related with
  | nil => simp
  | @cons x y xs ys first rest ih =>
    have others := ih fun x hx y hy =>
      same x (List.mem_cons_of_mem _ hx) y (List.mem_cons_of_mem _ hy)
    rw [List.forall_mem_cons, List.forall_mem_cons]
    exact and_congr (same x List.mem_cons_self y List.mem_cons_self first) others

/-- An item of one list has its counterpart in the same place of the other. -/
theorem exists_getElem?_of_forall₂ {R : α → β → Prop} {xs : List α} {ys : List β} {i : Nat} {x : α}
    (related : List.Forall₂ R xs ys) (here : xs[i]? = some x) : ∃ y, ys[i]? = some y ∧ R x y := by
  induction related generalizing i with
  | nil => simp at here
  | cons first rest ih =>
    cases i with
    | zero =>
      obtain rfl := Option.some.inj here
      exact ⟨_, rfl, first⟩
    | succ i => exact ih here

/-- What is found in one list has a counterpart that is found in the other, if the two lists are
searched alike. -/
theorem exists_find?_of_forall₂ {R : α → β → Prop} {p : α → Bool} {q : β → Bool} {xs : List α}
    {ys : List β} {x : α} (related : List.Forall₂ R xs ys) (alike : ∀ a b, R a b → p a = q b)
    (found : xs.find? p = some x) : ∃ y, ys.find? q = some y ∧ R x y := by
  induction related with
  | nil => simp at found
  | @cons a b as bs first rest ih =>
    rw [List.find?_cons] at found ⊢
    rw [alike a b first] at found
    cases met : q b with
    | true =>
      rw [met] at found
      obtain rfl := Option.some.inj found
      exact ⟨b, rfl, first⟩
    | false =>
      rw [met] at found
      exact ih found

/-- All items of a list pass a check. -/
theorem forM_eq_ok {f : α → Except ε Unit} {xs : List α} :
    xs.forM f = .ok () ↔ ∀ x ∈ xs, f x = .ok () := by
  induction xs with
  | nil => simp
  | cons x xs ih =>
    have unfolded : (x :: xs).forM f = (f x >>= fun _ => xs.forM f) := rfl
    rw [unfolded, bind_eq_ok, List.forall_mem_cons, ← ih]
    exact ⟨fun ⟨_, first, others⟩ => ⟨first, others⟩, fun ⟨first, others⟩ => ⟨(), first, others⟩⟩

end Except

namespace Attempt

variable {σ α β : Type}

/-- Changing what is returned changes nothing else. -/
@[simp] theorem on_map (f : α → β) (m : Attempt σ α) (s : σ) :
    (f <$> m).on s = (f <$> (m.on s).1, (m.on s).2) := by
  rw [← bind_pure_comp, on_bind]
  cases m.on s with
  | mk ending left => cases ending <;> rfl

theorem on_map_cases {f : α → β} {m : Attempt σ α} {s t : σ} {ending : Except Fault β}
    (ran : (f <$> m).on s = (ending, t)) : ∃ e, m.on s = (e, t) ∧ ending = f <$> e := by
  rw [on_map] at ran
  obtain ⟨rfl, rfl⟩ := Prod.mk.inj ran
  exact ⟨_, rfl, rfl⟩

@[simp] theorem on_get_bind (f : σ → Attempt σ β) (s : σ) : (get >>= f).on s = (f s).on s :=
  on_bind_ok (on_get s)

@[simp] theorem on_set_bind (f : PUnit → Attempt σ β) (s t : σ) :
    (set t >>= f).on s = (f ⟨⟩).on t :=
  on_bind_ok (on_set t s)

@[simp] theorem on_modify_bind (change : σ → σ) (f : PUnit → Attempt σ β) (s : σ) :
    (modify change >>= f).on s = (f ⟨⟩).on (change s) :=
  on_bind_ok (on_modify change s)

/-- A sequence that has returned has a first part that has. -/
theorem on_bind_eq_ok {m : Attempt σ α} {f : α → Attempt σ β} {s t : σ} {b : β}
    (ran : (m >>= f).on s = (.ok b, t)) :
    ∃ a u, m.on s = (.ok a, u) ∧ (f a).on u = (.ok b, t) := by
  rw [on_bind] at ran
  cases first : m.on s with
  | mk ending u =>
    rw [first] at ran
    cases ending with
    | ok a => exact ⟨a, u, rfl, ran⟩
    | error fault => simp at ran

/-- Sequences that begin alike and go on alike end alike. -/
theorem on_bind_congr {m n : Attempt σ α} {f g : α → Attempt σ β} {s : σ}
    (first : m.on s = n.on s) (next : ∀ a t, m.on s = (.ok a, t) → (f a).on t = (g a).on t) :
    (m >>= f).on s = (n >>= g).on s := by
  rw [on_bind, on_bind, ← first]
  cases begun : m.on s with
  | mk ending t =>
    cases ending with
    | ok a => exact next a t begun
    | error fault => rfl

/-- A check that is passed is followed by the rest. -/
theorem on_check_ok {r : Except Fault α} {f : α → Attempt σ β} {a : α} (passed : r = .ok a)
    (s : σ) : ((liftM r : Attempt σ α) >>= f).on s = (f a).on s :=
  on_bind_ok (by rw [on_liftM, passed])

/-- A check that fails is followed by nothing. -/
theorem on_check_error {r : Except Fault α} {f : α → Attempt σ β} {fault : Fault}
    (failed : r = .error fault) (s : σ) :
    ((liftM r : Attempt σ α) >>= f).on s = (.error fault, s) :=
  on_bind_error (by rw [on_liftM, failed])

/-- **What begins with a check** fails with it and changes nothing, or goes on from the same state.
-/
theorem on_check_cases {r : Except Fault α} {f : α → Attempt σ β} {s t : σ}
    {ending : Except Fault β} (ran : ((liftM r : Attempt σ α) >>= f).on s = (ending, t)) :
    (∃ fault, ending = .error fault ∧ t = s) ∨ ∃ a, r = .ok a ∧ (f a).on s = (ending, t) := by
  rw [on_bind, on_liftM] at ran
  cases r with
  | error fault =>
    obtain ⟨rfl, rfl⟩ := Prod.mk.inj ran
    exact .inl ⟨fault, rfl, rfl⟩
  | ok a => exact .inr ⟨a, rfl, ran⟩

end Attempt

end IntegerProgram
