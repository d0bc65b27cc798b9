import IntegerProgram.Proofs.Model

/-!
# Models that operations build

A caller builds a model by calls, in any order and with any arguments, and goes on after calls that
fail. A call fails and leaves the model as it was, or adds one thing that refers to the variables of
the model only. So a built model has its variables in place, and nothing in it refers to others.

## Main definitions

* `Model.Operation`: a call with its arguments.
* `Model.after`: the model that calls lead to.
* `Model.Operation.Adds`: what a call adds if it succeeds.
* `Model.IsSound`: what holds of every model that calls lead to.

## Main statements

* `Model.Operation.perform_cases`: a call fails and changes nothing, or adds one thing.
* `Model.isSound_after`: what calls lead to is sound.
-/
namespace IntegerProgram

/-- A gate on one of some variables, which has the values zero and one, at one of which the gate is
active. The value may be any that equals the integer. -/
structure Gate.IsAccepted (g : Gate) (vs : List Variable) : Prop where
  own : g.indicator ∈ vs
  boolean : g.indicator.isBoolean = true
  switch : Model.isSwitch g.activeWhen = .ok true

theorem Gate.IsAccepted.mono {g : Gate} {vs ws : List Variable} (G : g.IsAccepted vs)
    (more : vs ⊆ ws) : g.IsAccepted ws :=
  ⟨more G.own, G.boolean, G.switch⟩

namespace Model

variable {m t : Model}

section Checks

variable {v : Variable}

/-- A variable that is found to be in the table is the one at its index. -/
theorem variableAt?_of_requireOwn (own : m.requireOwn v = .ok ()) :
    m.variableAt? v.index = some v := by
  unfold requireOwn at own
  split at own
  · simp at own
  · split at own
    · assumption
    · simp at own

/-- What is found to be a variable of the table is one. -/
theorem mem_vars_of_requireOwn (own : m.requireOwn v = .ok ()) : v ∈ m.vars := by
  have found := variableAt?_of_requireOwn own
  unfold variableAt? at found
  split at found
  · simp at found
  · exact List.mem_of_getElem? found

theorem mem_vars_of_requireAllOwn {vs : List Variable} (own : m.requireAllOwn vs = .ok ()) :
    ∀ v ∈ vs, v ∈ m.vars := by
  rw [requireAllOwn, forM_eq_ok] at own
  intro v hv
  exact mem_vars_of_requireOwn (own v hv)

theorem isAccepted_of_requireGate {g : Gate} (gated : m.requireGate g = .ok ()) :
    g.IsAccepted m.vars := by
  simp only [requireGate, bind_eq_ok] at gated
  obtain ⟨⟨⟩, own, gated⟩ := gated
  cases boolean : g.indicator.isBoolean with
  | false => simp [boolean] at gated
  | true =>
    cases switch : isSwitch g.activeWhen with
    | error fault => simp [boolean, switch] at gated
    | ok answer =>
      cases answer with
      | false => simp [boolean, switch] at gated
      | true => exact ⟨mem_vars_of_requireOwn own, boolean, switch⟩

theorem isAccepted_of_requireGate? {gate : Option Gate} (gated : m.requireGate? gate = .ok ()) :
    ∀ g, gate = some g → g.IsAccepted m.vars := by
  rintro g rfl
  exact isAccepted_of_requireGate gated

end Checks

/-- The variable that a model makes next. -/
def fresh (m : Model) (lower upper : Int) (name : String) : Variable where
  origin := ⟨m.table, m.vars.length⟩
  index := m.vars.length
  name := name
  lower := lower
  upper := upper

/-- A call that adds to a model, with its arguments. -/
inductive Operation where
  | newVariable (lower upper : Int) (name : String)
  | add (sum : LinearForm) (operator : Operator) (rhs : Value) (gate : Option Gate)
      (description : Value)
  | fix (v : Variable) (value description : Value)
  | addStrategy (vs : List Variable)
  | setObjective (sum : LinearForm) (sense : Value)
  deriving Inhabited

namespace Operation

/-- Makes the call. -/
def perform : Operation → Attempt Model Unit
  | newVariable lower upper name => do
    let _ ← Model.newVariable lower upper name
  | add sum operator rhs gate description => do
    let _ ← Model.add sum operator rhs gate description
  | fix v value description => do
    let _ ← Model.fix v value description
  | addStrategy vs => Model.addStrategy vs
  | setObjective sum sense => setObjectiveNamed sum sense

/-- What a call adds to a model, if it succeeds. -/
inductive Adds (m : Model) : Operation → Model → Prop where
  | newVariable {lower upper : Int} (ordered : lower ≤ upper) (name : String) :
      Adds m (.newVariable lower upper name)
        { m with vars := m.vars ++ [m.fresh lower upper name] }
  | add {sum : LinearForm} {operator : Operator} {rhs : Value} {n : Int} {gate : Option Gate}
      {description : Value} (own : ∀ v ∈ sum.vars, v ∈ m.vars)
      (gates : ∀ g, gate = some g → g.IsAccepted m.vars) :
      Adds m (.add sum operator rhs gate description)
        (m.record [⟨sum, operator, n, gate, description⟩])
  | fix {v : Variable} {value description : Value} {n : Int} (own : v ∈ m.vars) :
      Adds m (.fix v value description)
        (m.record [⟨.whole ⟨[(v, 1)]⟩, .known .eq, n, none, description⟩])
  | addStrategy {vs : List Variable} (own : ∀ v ∈ vs, v ∈ m.vars) :
      Adds m (.addStrategy vs) { m with strategies := m.strategies ++ [vs] }
  | setObjective {sum : LinearForm} {sense : Value} {t : Sense}
      (own : ∀ v ∈ sum.vars, v ∈ m.vars) :
      Adds m (.setObjective sum sense) { m with objective := some ⟨sum, t⟩ }

end Operation

/-- The model that calls lead to, those that fail included. -/
def after (m : Model) (ops : List Operation) : Model := ops.foldl (fun n op => op.perform.state n) m

@[simp] theorem after_nil (m : Model) : m.after [] = m := rfl

@[simp] theorem after_cons (m : Model) (op : Operation) (ops : List Operation) :
    m.after (op :: ops) = (op.perform.state m).after ops := rfl

theorem newVariable_cases {lower upper : Int} {name : String} {ending : Except Fault Variable}
    (ran : (newVariable lower upper name).on m = (ending, t)) :
    ending = .error (.raised (.emptyDomain (.int lower) (.int upper) (.text name))) ∧ t = m ∨
      ending = .ok (m.fresh lower upper name) ∧ lower ≤ upper ∧
        t = { m with vars := m.vars ++ [m.fresh lower upper name] } := by
  by_cases inverted : upper < lower
  · simp [newVariable, inverted] at ran
    exact .inl ⟨ran.1.symm, ran.2.symm⟩
  · simp [newVariable, inverted] at ran
    exact .inr ⟨ran.1.symm, by omega, ran.2.symm⟩

theorem add_cases {sum : LinearForm} {operator : Operator} {rhs description : Value}
    {gate : Option Gate} {ending : Except Fault Constraint}
    (ran : (add sum operator rhs gate description).on m = (ending, t)) :
    (∃ fault, ending = .error fault ∧ t = m) ∨
      ∃ n, ending = .ok ⟨sum, operator, n, gate, description⟩ ∧
        (∀ v ∈ sum.vars, v ∈ m.vars) ∧ (∀ g, gate = some g → g.IsAccepted m.vars) ∧
        t = m.record [⟨sum, operator, n, gate, description⟩] := by
  rw [add, Attempt.on_get_bind] at ran
  obtain failed | ⟨⟨⟩, own, ran⟩ := Attempt.on_check_cases ran
  · exact .inl failed
  obtain failed | ⟨⟨⟩, gated, ran⟩ := Attempt.on_check_cases ran
  · exact .inl failed
  obtain failed | ⟨⟨⟩, -, ran⟩ := Attempt.on_check_cases ran
  · exact .inl failed
  obtain failed | ⟨n, -, ran⟩ := Attempt.on_check_cases ran
  · exact .inl failed
  obtain ⟨rfl, rfl⟩ := Prod.mk.inj ran
  exact .inr ⟨n, rfl, mem_vars_of_requireAllOwn own, isAccepted_of_requireGate? gated, rfl⟩

theorem addStrategy_cases {vs : List Variable} {ending : Except Fault Unit}
    (ran : (addStrategy vs).on m = (ending, t)) :
    (∃ fault, ending = .error fault ∧ t = m) ∨
      ending = .ok () ∧ (∀ v ∈ vs, v ∈ m.vars) ∧
        t = { m with strategies := m.strategies ++ [vs] } := by
  rw [addStrategy, Attempt.on_get_bind] at ran
  obtain failed | ⟨⟨⟩, own, ran⟩ := Attempt.on_check_cases ran
  · exact .inl failed
  obtain ⟨rfl, rfl⟩ := Prod.mk.inj ran
  exact .inr ⟨rfl, mem_vars_of_requireAllOwn own, rfl⟩

theorem setObjectiveNamed_cases {sum : LinearForm} {sense : Value} {ending : Except Fault Unit}
    (ran : (setObjectiveNamed sum sense).on m = (ending, t)) :
    (∃ fault, ending = .error fault ∧ t = m) ∨
      ∃ s, ending = .ok () ∧ (∀ v ∈ sum.vars, v ∈ m.vars) ∧
        t = { m with objective := some ⟨sum, s⟩ } := by
  rw [setObjectiveNamed, Attempt.on_get_bind] at ran
  obtain failed | ⟨⟨⟩, own, ran⟩ := Attempt.on_check_cases ran
  · exact .inl failed
  split at ran
  · next s _ =>
    rw [setObjective, Attempt.on_get_bind] at ran
    obtain failed | ⟨⟨⟩, -, ran⟩ := Attempt.on_check_cases ran
    · exact .inl failed
    obtain ⟨rfl, rfl⟩ := Prod.mk.inj ran
    exact .inr ⟨s, rfl, mem_vars_of_requireAllOwn own, rfl⟩
  · obtain ⟨rfl, rfl⟩ := Prod.mk.inj ran
    exact .inl ⟨_, rfl, rfl⟩

/-- **A call fails and leaves the model as it was, or adds one thing.** -/
theorem Operation.perform_cases {op : Operation} {ending : Except Fault Unit}
    (ran : op.perform.on m = (ending, t)) :
    (∃ fault, ending = .error fault ∧ t = m) ∨ ending = .ok () ∧ op.Adds m t := by
  cases op with
  | newVariable lower upper name =>
    simp only [perform, bind_pure_comp] at ran
    obtain ⟨e, ended, rfl⟩ := Attempt.on_map_cases ran
    rcases newVariable_cases ended with ⟨rfl, rfl⟩ | ⟨rfl, ordered, rfl⟩
    · exact .inl ⟨_, rfl, rfl⟩
    · exact .inr ⟨rfl, .newVariable ordered name⟩
  | add sum operator rhs gate description =>
    simp only [perform, bind_pure_comp] at ran
    obtain ⟨e, ended, rfl⟩ := Attempt.on_map_cases ran
    rcases add_cases ended with ⟨fault, rfl, rfl⟩ | ⟨n, rfl, own, gates, rfl⟩
    · exact .inl ⟨fault, rfl, rfl⟩
    · exact .inr ⟨rfl, .add own gates⟩
  | fix v value description =>
    simp only [perform, bind_pure_comp] at ran
    obtain ⟨e, ended, rfl⟩ := Attempt.on_map_cases ran
    rcases add_cases ended with ⟨fault, rfl, rfl⟩ | ⟨n, rfl, own, -, rfl⟩
    · exact .inl ⟨fault, rfl, rfl⟩
    · exact .inr ⟨rfl, .fix (own v (by simp [WeightedSum.vars]))⟩
  | addStrategy vs =>
    rcases addStrategy_cases ran with failed | ⟨rfl, own, rfl⟩
    · exact .inl failed
    · exact .inr ⟨rfl, .addStrategy own⟩
  | setObjective sum sense =>
    rcases setObjectiveNamed_cases ran with failed | ⟨s, rfl, own, rfl⟩
    · exact .inl failed
    · exact .inr ⟨rfl, .setObjective own⟩

/-- What holds of a model and survives what any of some calls adds holds of what they lead to. -/
theorem after_induction {P : Model → Prop} {ops : List Operation} (start : P m)
    (step : ∀ op ∈ ops, ∀ m t, op.Adds m t → P m → P t) : P (m.after ops) := by
  induction ops generalizing m with
  | nil => exact start
  | cons op ops ih =>
    rw [List.forall_mem_cons] at step
    rw [after_cons]
    refine ih ?_ step.2
    cases ran : op.perform.on m with
    | mk ending t =>
      have left : op.perform.state m = t := congrArg Prod.snd ran
      rw [left]
      rcases Operation.perform_cases ran with ⟨-, -, rfl⟩ | ⟨-, added⟩
      · exact start
      · exact step.1 m t added start

/-- The variables are in place, and nothing refers to others. -/
structure IsSound (m : Model) : Prop where
  index : ∀ (i : Nat) (v : Variable), m.vars[i]? = some v → v.index = i
  nonempty : ∀ v ∈ m.vars, v.lower ≤ v.upper
  declared : ∀ v ∈ m.vars, v.declared = none
  sums : ∀ c ∈ m.constraints, ∀ v ∈ c.sum.vars, v ∈ m.vars
  gates : ∀ c ∈ m.constraints, ∀ g, c.gate = some g → g.IsAccepted m.vars
  strategies : ∀ vs ∈ m.strategies, ∀ v ∈ vs, v ∈ m.vars
  objective : ∀ o, m.objective = some o → ∀ v ∈ o.sum.vars, v ∈ m.vars

/-- A model in which nothing has been recorded is sound, whichever table it is. -/
theorem isSound_new (table : Nat) : ({ table } : Model).IsSound := by
  constructor <;> simp

theorem isSound_empty : ({} : Model).IsSound := isSound_new 0

theorem IsSound.record (S : m.IsSound) {c : Constraint} (own : ∀ v ∈ c.sum.vars, v ∈ m.vars)
    (gates : ∀ g, c.gate = some g → g.IsAccepted m.vars) : (m.record [c]).IsSound where
  index := S.index
  nonempty := S.nonempty
  declared := S.declared
  sums := List.forall_mem_append.2 ⟨S.sums, List.forall_mem_singleton.2 own⟩
  gates := List.forall_mem_append.2 ⟨S.gates, List.forall_mem_singleton.2 gates⟩
  strategies := S.strategies
  objective := S.objective

/-- What a call adds leaves a model sound. -/
theorem IsSound.adds (S : m.IsSound) {op : Operation} (added : op.Adds m t) : t.IsSound := by
  cases added with
  | @newVariable lower upper ordered name =>
    have kept : m.vars ⊆ m.vars ++ [m.fresh lower upper name] := List.subset_append_left _ _
    exact {
      index := index_snoc S.index rfl
      nonempty := List.forall_mem_append.2 ⟨S.nonempty, List.forall_mem_singleton.2 ordered⟩
      declared := List.forall_mem_append.2 ⟨S.declared, List.forall_mem_singleton.2 rfl⟩
      sums := fun c hc v hv => kept (S.sums c hc v hv)
      gates := fun c hc g gated => (S.gates c hc g gated).mono kept
      strategies := fun vs hvs v hv => kept (S.strategies vs hvs v hv)
      objective := fun o given v hv => kept (S.objective o given v hv) }
  | add own gates => exact S.record own gates
  | fix own => exact S.record (by simpa [WeightedSum.vars] using own) (by simp)
  | addStrategy own =>
    exact { S with strategies := List.forall_mem_append.2 ⟨S.strategies, by simpa using own⟩ }
  | setObjective own =>
    refine { S with objective := ?_ }
    rintro o ⟨⟩
    exact own

/-- **What calls lead to is sound.** -/
theorem isSound_after (ops : List Operation) : (after {} ops).IsSound :=
  after_induction isSound_empty fun _ _ _ _ added S => S.adds added

end Model

end IntegerProgram
