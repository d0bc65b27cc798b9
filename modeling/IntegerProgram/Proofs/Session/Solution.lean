import IntegerProgram.Proofs.Session.Run
import IntegerProgram.Proofs.Verification

/-!
# Solutions of a session

A point solves a session if it gives every key a value within its bounds and meets everything that
the session has accepted. The model of the session admits just these points, so the check of an
engine's values finds them, whatever the engine is.

## Main definitions

* `Session.IsSolution`: the points that a session allows.
* `Session.valuesIn`: the keys with their values at a point.

## Main statements

* `Session.Explains.isSolution_iff`: the model of a session admits its solutions.
* `Session.Run.solve_verified`: what a verified solve returns is a solution.
-/
namespace IntegerProgram

/-- Whether a point meets what an event demands. -/
def Event.isMetAt (s : Session) (x : Point) (event : Event) : Except Fault Bool := do
  return (← event.demand s).holds x

namespace Session

variable {s t : Session} {log : List Event} {ds : List Demand} {x : Point}

/-- What a session says of a point: that the values of all keys lie within their bounds, and that
everything it has accepted is met. -/
structure IsSolution (s : Session) (log : List Event) (x : Point) : Prop where
  bounds : ∀ v ∈ s.registry.vars, v.lower ≤ x v.index ∧ x v.index ≤ v.upper
  met : ∀ event ∈ log, event.isMetAt s x = .ok true

theorem Explains.switch_of_bounds (H : s.Explains log ds)
    (bounds : ∀ v ∈ s.registry.vars, v.lower ≤ x v.index ∧ x v.index ≤ v.upper) :
    ∀ i ∈ Demand.implications ds, x i.indicator.index = 0 ∨ x i.indicator.index = 1 := by
  intro i hi
  have covered := H.covered i hi
  have within := bounds _ covered.indicator
  have boolean := covered.boolean
  simp only [Variable.isBoolean, Bool.and_eq_true, decide_eq_true_eq] at boolean
  omega

/-- What all events recorded holds where what they demand is met. -/
theorem Explains.hold_iff (H : s.Explains log ds)
    (switch : ∀ i ∈ Demand.implications ds,
      x i.indicator.index = 0 ∨ x i.indicator.index = 1) :
    (∀ c ∈ s.model.constraints, c.Holds x) ↔ ∀ event ∈ log, event.isMetAt s x = .ok true := by
  rw [H.constraints, List.forall_mem_flatMap]
  refine forall₂_congr fun event listed => ?_
  obtain ⟨d, hd, demanded, recorded⟩ := H.demand_of_mem listed
  have met : event.isMetAt s x = .ok true ↔ d.holds x = true := by
    simp [Event.isMetAt, demanded]
  rw [met]
  exact recorded.hold_iff fun i asked => switch i (Demand.mem_implications_of_mem hd asked)

/-- **The model of a session admits just the points that the session allows.** -/
theorem Explains.isSolution_iff (H : s.Explains log ds) :
    s.IsSolution log x ↔ s.model.Admits x := by
  have bounds : (∀ v ∈ s.model.vars, v.admits (x v.index) = true) ↔
      ∀ v ∈ s.registry.vars, v.lower ≤ x v.index ∧ x v.index ≤ v.upper := by
    rw [H.coherent.inStep]
    simp [Variable.admits]
  constructor
  · rintro ⟨within, met⟩
    exact ⟨bounds.2 within, (H.hold_iff (H.switch_of_bounds within)).2 met⟩
  · rintro ⟨admitted, holds⟩
    have within := bounds.1 admitted
    exact ⟨within, (H.hold_iff (H.switch_of_bounds within)).1 holds⟩

/-- The keys of a session with the values of a point. -/
def valuesIn (s : Session) (x : Point) : List (Value × Value) :=
  s.registry.entries.map fun e => (e.1, .int (x e.2.index))

theorem valuesOf_eq {values : Valuation} (at_ : values.IsAt x s.registry.vars) :
    s.valuesOf values = .ok (s.valuesIn x) := by
  refine mapM_eq_ok_map fun e he => ?_
  simp [at_.get (List.mem_map_of_mem he : e.2 ∈ s.registry.vars)]

theorem valuesAt_eq_ok {o : Outcome} {values : List (Value × Value)}
    (returned : s.valuesAt o = .ok values) :
    o.status = .optimal ∧ (s.config.verify.isTrue = true → verify s.model o.values = .ok ()) ∧
      s.valuesOf o.values = .ok values := by
  by_cases optimal : o.status = .optimal
  · by_cases checks : s.config.verify.isTrue = true
    · simp only [valuesAt, optimal, checks, ne_eq, not_true_eq_false, if_false, if_true] at returned
      obtain ⟨⟨⟩, passed, read⟩ := bind_eq_ok.1 returned
      exact ⟨optimal, fun _ => passed, read⟩
    · simp only [valuesAt, optimal, checks] at returned
      exact ⟨optimal, fun on => absurd on checks, returned⟩
  · simp [valuesAt, optimal] at returned

/-- **What a verified solve returns is right, whatever the engine**: integers for all keys, within
their bounds, at which everything that was ever accepted is met. -/
theorem Run.solve_verified (run : Run s log) (checks : s.config.verify.isTrue = true)
    (engine : Engine)
    (integral : ∀ m c o, engine m c = .ok o → ∀ i value, o.values i = some value →
      ∃ n, value = .int n)
    {keys coefficients : List Value} {sense : Sense} {values : List (Value × Value)}
    (ran : (Session.solve engine keys coefficients sense).on s = (.ok values, t)) :
    ∃ x, values = s.valuesIn x ∧ s.IsSolution log x := by
  obtain ⟨ds, H⟩ := run.explained
  rcases solve_cases H.coherent ran with ⟨fault, failed, -⟩ |
    ⟨sum, summed, ⟨fault, -, failed, -⟩ | ⟨o, r, answered, concluded, -⟩⟩
  · simp at failed
  · simp at failed
  · obtain ⟨-, passed, read⟩ := valuesAt_eq_ok concluded.symm
    have passed : verify s.model o.values = .ok () := passed checks
    obtain ⟨x, at_⟩ := exists_isAt_of_verify passed (integral _ _ _ answered)
    refine ⟨x, ?_, H.isSolution_iff.2 ((H.coherent.model.verify_iff at_).1 passed)⟩
    rw [← H.coherent.inStep] at at_
    exact Except.ok.inj (read.symm.trans (valuesOf_eq at_))

/-- An engine that is right by chance. -/
theorem Run.solve_verified_least :
    ∃ s log x, Run s log ∧ s.IsSolution log x ∧ x 0 = 2 := by
  let engine : Engine := fun _ _ => .ok { status := .optimal, values := fun _ => some (.int 2) }
  have new : Run { config := {} } [] := .new (show Session.new {} = .ok _ from rfl)
  have bound := new.next (.bind (.text "a") (.int 0) (.int 3) (.text "a")) none
    (by simp [Request.IsPossible, Value.key?]) rfl
  have enforced := bound.next
    (.enforce [.text "a"] [.int 1] (.int 1) (.relation .gte) (.text "at least one")) none trivial
    rfl
  have integral : ∀ m c o, engine m c = .ok o → ∀ i value, o.values i = some value →
      ∃ n, value = .int n := by
    rintro m c o ⟨⟩ i value ⟨⟩
    exact ⟨2, rfl⟩
  obtain ⟨x, values, solution⟩ := enforced.solve_verified rfl engine integral
    (Prod.ext (show ((Session.solve engine [.text "a"] [.int 1] .minimize).on _).1 =
      .ok [(.text "a", .int 2)] from rfl) rfl)
  have listed : [(Value.text "a", Value.int 2)] = [(.text "a", .int (x 0))] := values
  exact ⟨_, _, x, enforced, solution, by simpa using listed.symm⟩

end Session

end IntegerProgram
