import IntegerProgram.Proofs.Fault
import IntegerProgram.Proofs.Model
import IntegerProgram.Session

/-!
# Verification of values

A session checks the values of an engine against its model. The check passes only if no value is
missing, and where all of them are integers it passes exactly at the points that the model admits.
Integers that fail it are told with what they violate, if that can be written.

## Main definitions

* `Valuation.IsAt`: a valuation with the values of a point.
* `Model.Passes`, `Model.Fails`: whether values pass the checks of a model, or fail one of them.
* `Model.TellsFailure`: whether it can be told what values violate.

## Main statements

* `Session.verify_eq_ok`: what the check looks at.
* `Model.IsWellFormed.verify_cases`: how the check ends.
* `Model.IsWellFormed.verify_iff`: the check finds the points that the model admits.
-/
namespace IntegerProgram

/-- A valuation that has the values of a point for some variables. -/
def Valuation.IsAt (values : Valuation) (x : Point) (vs : List Variable) : Prop :=
  ∀ v ∈ vs, values v.index = some (.int (x v.index))

variable {values : Valuation} {x : Point} {vs : List Variable}

theorem Point.valuation_isAt (x : Point) (vs : List Variable) : x.valuation.IsAt x vs :=
  fun _ _ => rfl

theorem Valuation.IsAt.get (at_ : values.IsAt x vs) {v : Variable} (hv : v ∈ vs) :
    values.get v.index = x.valuation.get v.index := by
  rw [Valuation.get, at_ v hv]
  rfl

/-- A sum of variables with the values of a point has its value there. -/
theorem Valuation.IsAt.evaluate (at_ : values.IsAt x vs) {s : WeightedSum}
    (own : ∀ v ∈ s.vars, v ∈ vs) : s.evaluate values = .ok (s.value x) := by
  have same : s.vars.mapM (fun v => values.get v.index) =
      s.vars.mapM fun v => x.valuation.get v.index :=
    mapM_congr fun v hv => at_.get (own v hv)
  rw [← WeightedSum.evaluate_valuation, WeightedSum.evaluate, WeightedSum.evaluate, same]

/-- What a constraint makes of a valuation depends on the values of its variables only. -/
theorem Constraint.IsOver.isSatisfied_congr {c : Constraint} (H : c.IsOver vs)
    (at_ : values.IsAt x vs) : c.isSatisfied values = c.isSatisfied x.valuation := by
  obtain ⟨s, whole, own⟩ := H.whole
  have evaluated : s.evaluate values = s.evaluate x.valuation := by
    rw [at_.evaluate own, s.evaluate_valuation]
  have operated : c.operator.holds c.sum c.rhs values =
      c.operator.holds c.sum c.rhs x.valuation := by
    cases c.operator <;> simp [Operator.holds, whole, LinearForm.evaluate, evaluated]
  cases gated : c.gate with
  | none => simp [isSatisfied, gated, operated]
  | some g =>
    have active : g.isActive values = g.isActive x.valuation := by
      rw [Gate.isActive, Gate.isActive, at_.get (H.gate g gated).own]
    simp [isSatisfied, gated, operated, active]

/-- A constraint over variables is found to hold or not to hold at a point. -/
theorem Constraint.IsOver.exists_isSatisfied {c : Constraint} {vs : List Variable}
    (H : c.IsOver vs) (x : Point) : ∃ holds, c.isSatisfied x.valuation = .ok holds := by
  obtain ⟨s, whole, -⟩ := H.whole
  obtain ⟨op, known⟩ := H.known
  have compared : c.operator.holds c.sum c.rhs x.valuation = .ok (op.holds (s.value x) c.rhs) := by
    rw [known, whole, Operator.holds_valuation]
  cases gated : c.gate with
  | none => exact ⟨_, by simpa [isSatisfied, gated] using compared⟩
  | some g =>
    have active := g.isActive_valuation x (H.gate g gated).isSignaling
    by_cases isOpen : g.IsOpen x
    · exact ⟨_, by simpa [isSatisfied, gated, active, isOpen] using compared⟩
    · exact ⟨true, by simp [isSatisfied, gated, active, isOpen]⟩

namespace Model

variable {m : Model}

/-- No item of a list is picked out if all answers are positive. -/
theorem filter_zip_eq_nil {α : Type} {xs : List α} {answers : List Bool}
    (same : xs.length = answers.length) :
    (xs.zip answers).filter (fun a => !a.2) = [] ↔ ∀ b ∈ answers, b = true := by
  induction xs generalizing answers with
  | nil =>
    obtain rfl := List.length_eq_zero_iff.1 same.symm
    simp
  | cons x xs ih =>
    obtain ⟨b, answers, rfl⟩ := List.exists_cons_of_length_eq_add_one same.symm
    cases b <;> simp [ih (Nat.succ.inj same)]

theorem outOfBounds_eq_nil :
    m.outOfBounds values = .ok [] ↔
      ∀ v ∈ m.vars, ∃ value, values.get v.index = .ok value ∧ v.admitsValue value = .ok true := by
  simp only [← bind_eq_ok]
  rw [← mapM_eq_ok_replicate]
  simp only [outOfBounds, bind_eq_ok, pure_eq_ok, Except.ok.injEq, List.map_eq_nil_iff]
  refine exists_congr fun admitted => and_congr_right fun answered => ?_
  exact filter_zip_eq_nil (mapM_eq_ok.1 answered).length_eq

theorem violated_eq_nil :
    m.violated values = .ok [] ↔ ∀ c ∈ m.constraints, c.isSatisfied values = .ok true := by
  rw [← mapM_eq_ok_replicate]
  simp only [violated, bind_eq_ok, pure_eq_ok, Except.ok.injEq, List.map_eq_nil_iff]
  refine exists_congr fun satisfied => and_congr_right fun answered => ?_
  apply filter_zip_eq_nil
  rw [List.length_zipIdx, (mapM_eq_ok.1 answered).length_eq]

/-- Integers for all variables are compared with the bounds. -/
theorem IsWellFormed.exists_outOfBounds (H : m.IsWellFormed) (at_ : values.IsAt x m.vars) :
    ∃ vs, m.outOfBounds values = .ok vs := by
  have admitted : ∃ answers, (m.vars.mapM fun v => do v.admitsValue (← values.get v.index)) =
      (.ok answers : Except Fault (List Bool)) := by
    refine exists_mapM_eq_ok fun v hv => ⟨v.admits (x v.index), ?_⟩
    simp [at_.get hv, Variable.admitsValue, H.declared v hv]
  obtain ⟨answers, admitted⟩ := admitted
  exact ⟨_, by rw [outOfBounds, admitted]; rfl⟩

/-- Integers for all variables are tried in the constraints. -/
theorem IsWellFormed.exists_violated (H : m.IsWellFormed) (at_ : values.IsAt x m.vars) :
    ∃ cs, m.violated values = .ok cs := by
  have satisfied : ∃ answers, (m.constraints.mapM fun c => c.isSatisfied values) =
      (.ok answers : Except Fault (List Bool)) := by
    refine exists_mapM_eq_ok fun c hc => ?_
    rw [(H.constraints c hc).isSatisfied_congr at_]
    exact (H.constraints c hc).exists_isSatisfied x
  obtain ⟨answers, satisfied⟩ := satisfied
  exact ⟨_, by rw [violated, satisfied]; rfl⟩

end Model

/-- Values pass both checks of a model: none lies outside its bounds, and no constraint is violated.
-/
structure Model.Passes (m : Model) (values : Valuation) : Prop where
  bounds : m.outOfBounds values = .ok []
  constraints : m.violated values = .ok []

/-- Values fail a check of a model: some are outside their bounds, or some constraint is violated.
-/
def Model.Fails (m : Model) (values : Valuation) : Prop :=
  (∃ v vs, m.outOfBounds values = .ok (v :: vs)) ∨ ∃ c cs, m.violated values = .ok (c :: cs)

/-- Values do not both pass the checks and fail one. -/
theorem Model.Passes.not_fails {m : Model} {values : Valuation} (passes : m.Passes values) :
    ¬m.Fails values := by
  rintro (⟨v, vs, outside⟩ | ⟨c, cs, violated⟩)
  · simp [passes.bounds] at outside
  · simp [passes.constraints] at violated

/-- Whether it can be told what values violate: the bounds of some variables, which can be written,
or else constraints that can be written with their descriptions. -/
def Model.TellsFailure (m : Model) (values : Valuation) : Prop :=
  ∃ vs, m.outOfBounds values = .ok vs ∧ (∀ v ∈ vs, v.obstacle? = none) ∧
    (vs = [] → ∃ cs, m.violated values = .ok cs ∧
      ∀ c ∈ cs, c.1.requireShown = .ok () ∧ c.1.description.obstacle? = none)

/-- A constraint over whole numbers is shown unless something in it cannot be written. -/
theorem Constraint.IsOver.isUnwritten_of_requireShown {c : Constraint} (H : c.IsOver vs) :
    FailsOnly Fault.IsUnwritten c.requireShown := by
  obtain ⟨s, whole, -⟩ := H.whole
  rw [requireShown, whole, LinearForm.requireShown]
  exact (Obstacle.isUnwritten_of_requireNone _).bind fun _ _ =>
    (Obstacle.isUnwritten_of_requireNone _).bind fun _ _ => Obstacle.isUnwritten_of_requireNone _

/-- What is violated is a constraint of the model. -/
theorem Model.mem_constraints_of_violated {m : Model} {cs : List (Constraint × Nat)}
    (violated : m.violated values = .ok cs) : ∀ c ∈ cs, c.1 ∈ m.constraints := by
  obtain ⟨satisfied, -, same⟩ := bind_eq_ok.1 violated
  obtain rfl := Except.ok.inj same
  intro c listed
  obtain ⟨answer, kept, rfl⟩ := List.mem_map.1 listed
  exact List.fst_mem_of_mem_zipIdx (List.of_mem_zip (List.mem_of_mem_filter kept)).1

/-- The check of values outside their bounds tells of these, if they can be written. -/
theorem Session.verify_of_outside {m : Model} {v : Variable}
    (outside : m.outOfBounds values = .ok (v :: vs)) :
    m.TellsFailure values ∧ (∃ fault, verify m values = .error fault ∧ fault.kind = .verification) ∨
      ¬m.TellsFailure values ∧ ∃ o : Obstacle, verify m values = .error o.fault := by
  have ended : verify m values = .error (Fault.outOfBounds (v :: vs)).raised := by
    simp [verify, outside]
  have tells : m.TellsFailure values ↔ (Fault.outOfBounds (v :: vs)).obstacle? = none := by
    simp [Model.TellsFailure, outside, Fault.obstacle?]
  rcases written : (Fault.outOfBounds (v :: vs)).obstacle? with _ | o
  · rw [Fault.raised_of_none written] at ended
    exact .inl ⟨tells.2 written, _, ended, rfl⟩
  · rw [Fault.raised_of_some written] at ended
    exact .inr ⟨by simp [tells, written], o, ended⟩

/-- The check of values that violate constraints tells of these, if they can be written. -/
theorem Model.IsWellFormed.verify_of_violated {m : Model} (H : m.IsWellFormed)
    (inside : m.outOfBounds values = .ok []) {c : Constraint × Nat} {cs : List (Constraint × Nat)}
    (violated : m.violated values = .ok (c :: cs)) :
    m.TellsFailure values ∧
        (∃ fault, Session.verify m values = .error fault ∧ fault.kind = .verification) ∨
      ¬m.TellsFailure values ∧ ∃ o : Obstacle, Session.verify m values = .error o.fault := by
  let shows (c : Constraint × Nat) : Except Fault Unit := do
    c.1.requireShown
    c.1.description.requireText
  have ended : Session.verify m values =
      ((c :: cs).forM shows >>= fun _ => throw (.violated ((c :: cs).map (·.1)))) := by
    simp only [Session.verify, inside, violated, ok_bind]
    rfl
  have shown (c : Constraint × Nat) : shows c = .ok () ↔
      c.1.requireShown = .ok () ∧ c.1.description.obstacle? = none :=
    check_bind_eq_ok.trans (and_congr_right fun _ => Value.requireText_eq_ok)
  have tells : m.TellsFailure values ↔ (c :: cs).forM shows = .ok () := by
    simp only [TellsFailure, forM_eq_ok, shown, inside, violated, Except.ok.injEq]
    constructor
    · rintro ⟨vs, rfl, -, rest⟩
      obtain ⟨cs', rfl, each⟩ := rest rfl
      exact each
    · intro each
      exact ⟨[], rfl, by simp, fun _ => ⟨_, rfl, each⟩⟩
  cases told : (c :: cs).forM shows with
  | error fault =>
    have unwritten : FailsOnly Fault.IsUnwritten ((c :: cs).forM shows) := by
      refine .forM fun c listed => ?_
      have covered := H.constraints _ (mem_constraints_of_violated violated c listed)
      exact covered.isUnwritten_of_requireShown.bind fun _ _ =>
        Obstacle.isUnwritten_of_requireNone _
    obtain ⟨o, rfl⟩ := unwritten fault told
    exact .inr ⟨by simp [tells, told], o, by rw [ended, told]; rfl⟩
  | ok _ => exact .inl ⟨tells.2 told, _, by rw [ended, told]; rfl, rfl⟩

/-- **How the check of integers for all variables ends**: it is passed, or it is told what they
violate, or what would tell it cannot be written. -/
theorem Model.IsWellFormed.verify_cases {m : Model} (H : m.IsWellFormed)
    (at_ : values.IsAt x m.vars) :
    m.Passes values ∧ Session.verify m values = .ok () ∨
      (m.Fails values ∧ m.TellsFailure values ∧
        ∃ fault, Session.verify m values = .error fault ∧ fault.kind = .verification) ∨
      (m.Fails values ∧ ¬m.TellsFailure values ∧
        ∃ o : Obstacle, Session.verify m values = .error o.fault) := by
  obtain ⟨vs, outside⟩ := H.exists_outOfBounds at_
  obtain ⟨cs, violated⟩ := H.exists_violated at_
  cases vs with
  | cons v vs =>
    have fails : m.Fails values := .inl ⟨v, vs, outside⟩
    exact .inr ((Session.verify_of_outside outside).imp (.intro fails) (.intro fails))
  | nil =>
    cases cs with
    | nil => exact .inl ⟨⟨outside, violated⟩, by simp [Session.verify, outside, violated]⟩
    | cons c cs =>
      have fails : m.Fails values := .inr ⟨c, cs, violated⟩
      exact .inr ((H.verify_of_violated outside violated).imp (.intro fails) (.intro fails))

/-- **What a session looks at when it checks values**: all bounds, and all constraints. -/
theorem Session.verify_eq_ok {m : Model} :
    verify m values = .ok () ↔
      (∀ v ∈ m.vars, ∃ value, values.get v.index = .ok value ∧ v.admitsValue value = .ok true) ∧
        ∀ c ∈ m.constraints, c.isSatisfied values = .ok true := by
  rw [← Model.outOfBounds_eq_nil, ← Model.violated_eq_nil, verify]
  cases outside : m.outOfBounds values with
  | error fault => simp
  | ok vs =>
    cases vs with
    | cons v vs => simp
    | nil =>
      cases violated : m.violated values with
      | error fault => simp
      | ok cs => cases cs <;> simp [check_bind_eq_ok]

/-- **Integers pass the check at the points that the model admits.** -/
theorem Model.IsWellFormed.verify_iff {m : Model} (H : m.IsWellFormed)
    (at_ : values.IsAt x m.vars) : Session.verify m values = .ok () ↔ m.Admits x := by
  rw [Session.verify_eq_ok]
  have bounds : (∀ v ∈ m.vars, ∃ value, values.get v.index = .ok value ∧
        v.admitsValue value = .ok true) ↔ ∀ v ∈ m.vars, v.admits (x v.index) = true := by
    refine forall₂_congr fun v hv => ?_
    simp [at_.get hv, Variable.admitsValue, H.declared v hv]
  have satisfied : (∀ c ∈ m.constraints, c.isSatisfied values = .ok true) ↔
      ∀ c ∈ m.constraints, c.Holds x := by
    refine forall₂_congr fun c hc => ?_
    rw [(H.constraints c hc).isSatisfied_congr at_]
    exact (H.constraints c hc).isSatisfied_iff x
  rw [bounds, satisfied]
  exact ⟨fun ⟨inside, holds⟩ => ⟨inside, holds⟩, fun ⟨inside, holds⟩ => ⟨inside, holds⟩⟩

/-- Integers that pass the check are the values of a point. -/
theorem Session.exists_isAt_of_verify {m : Model} (passed : verify m values = .ok ())
    (integral : ∀ i value, values i = some value → ∃ n, value = .int n) :
    ∃ x : Point, values.IsAt x m.vars := by
  refine ⟨fun i => ((values i).map Value.whole).getD 0, fun v hv => ?_⟩
  obtain ⟨value, present, -⟩ := (verify_eq_ok.1 passed).1 v hv
  cases found : values v.index with
  | none => simp [Valuation.get, found] at present
  | some w =>
    obtain ⟨n, rfl⟩ := integral _ _ found
    simp [found]

end IntegerProgram
