import IntegerProgram.Proofs.Model.Operation
import IntegerProgram.Proofs.Verification
import IntegerProgram.Proofs.WeightedSum

/-!
# Models only grow

A call on a model that calls have led to fails and changes nothing, or adds the one thing that it
is given: a variable, a constraint, a strategy or another objective. So the lists of a model are
prefixes of those of every model that further calls lead to, and a valuation that meets what has
been recorded later meets what had been recorded before.

## Main definitions

* `Model.IsExtendedBy`: one model has what another one has, and perhaps more.
* `Model.Operation.rhs?`: the number that a call compares with.

## Main statements

* `Model.IsExtendedBy.admitted`: what an extension admits is admitted.
* `Model.after_grows`: models that calls lead to are sound, and grow by one thing at a time.
-/
namespace IntegerProgram.Model

variable {m t : Model}

/-- The lists of one model are prefixes of those of another. -/
structure IsExtendedBy (m t : Model) : Prop where
  vars : m.vars <+: t.vars
  constraints : m.constraints <+: t.constraints
  strategies : m.strategies <+: t.strategies

namespace IsExtendedBy

theorem refl (m : Model) : m.IsExtendedBy m :=
  ⟨List.prefix_rfl, List.prefix_rfl, List.prefix_rfl⟩

theorem trans {k : Model} (first : m.IsExtendedBy k) (second : k.IsExtendedBy t) :
    m.IsExtendedBy t :=
  ⟨first.vars.trans second.vars, first.constraints.trans second.constraints,
    first.strategies.trans second.strategies⟩

theorem record (m : Model) (cs : List Constraint) : m.IsExtendedBy (m.record cs) :=
  ⟨List.prefix_rfl, List.prefix_append _ _, List.prefix_rfl⟩

/-- What an extension of a model admits is within the bounds of the model and meets its constraints.
-/
theorem admitted (E : m.IsExtendedBy t) {values : Valuation}
    (inside : t.outOfBounds values = .ok []) (satisfied : t.violated values = .ok []) :
    m.outOfBounds values = .ok [] ∧ m.violated values = .ok [] := by
  rw [outOfBounds_eq_nil] at inside ⊢
  rw [violated_eq_nil] at satisfied ⊢
  exact ⟨fun v hv => inside v (E.vars.subset hv), fun c hc => satisfied c (E.constraints.subset hc)⟩

end IsExtendedBy

namespace Operation

variable {op : Operation}

/-- What a call adds extends the model. -/
theorem Adds.isExtendedBy (added : op.Adds m t) : m.IsExtendedBy t := by
  cases added with
  | newVariable ordered name => exact { IsExtendedBy.refl m with vars := List.prefix_append _ _ }
  | add own gates => exact .record m _
  | fix own => exact .record m _
  | addStrategy own => exact { IsExtendedBy.refl m with strategies := List.prefix_append _ _ }
  | setObjective own => exact { IsExtendedBy.refl m with }

/-- The number that a call compares with, if it does. -/
def rhs? : Operation → Option Value
  | add _ _ rhs _ _ => some rhs
  | fix _ value _ => some value
  | _ => none

end Operation

/-- Further calls extend a model. -/
theorem isExtendedBy_after (m : Model) (ops : List Operation) : m.IsExtendedBy (m.after ops) :=
  after_induction (.refl m) fun _ _ _ _ added E => E.trans added.isExtendedBy

theorem after_append (m : Model) (ops more : List Operation) :
    m.after (ops ++ more) = (m.after ops).after more :=
  List.foldl_append ..

/-- A constraint has the integer that its right-hand side is. -/
theorem asInteger_of_add {sum : LinearForm} {operator : Operator} {rhs description : Value}
    {gate : Option Gate} {c : Constraint}
    (ran : (add sum operator rhs gate description).on m = (.ok c, t)) :
    rhs.asInteger "" = .ok c.rhs := by
  rw [add, Attempt.on_get_bind] at ran
  obtain ⟨_, ⟨⟩, -⟩ | ⟨⟨⟩, -, ran⟩ := Attempt.on_check_cases ran
  obtain ⟨_, ⟨⟩, -⟩ | ⟨⟨⟩, -, ran⟩ := Attempt.on_check_cases ran
  obtain ⟨_, ⟨⟩, -⟩ | ⟨⟨⟩, -, ran⟩ := Attempt.on_check_cases ran
  obtain ⟨_, ⟨⟩, -⟩ | ⟨n, integer, ran⟩ := Attempt.on_check_cases ran
  obtain ⟨made, rfl⟩ := Prod.mk.inj ran
  obtain rfl := Except.ok.inj made
  exact (Value.asInteger_eq_ok _ _).1 integer

/-- The constraint that a call has appended has the integer that it was given. -/
theorem Operation.asInteger_rhs {op : Operation} {value : Value} (given : op.rhs? = some value)
    (ran : op.perform.on m = (.ok (), t)) :
    ∃ c, t = m.record [c] ∧ value.asInteger "" = .ok c.rhs := by
  obtain ⟨sum, operator, gate, description, same⟩ : ∃ sum operator gate description,
      op.perform = (do let _ ← Model.add sum operator value gate description) := by
    cases op with
    | add sum operator rhs gate description =>
      obtain rfl := Option.some.inj given
      exact ⟨_, _, _, _, rfl⟩
    | fix v number description =>
      obtain rfl := Option.some.inj given
      exact ⟨_, _, _, _, rfl⟩
    | newVariable | addStrategy | setObjective => cases given
  rw [same] at ran
  obtain ⟨c, u, added, returned⟩ := Attempt.on_bind_eq_ok ran
  obtain rfl : u = t := (Prod.mk.inj returned).2
  obtain ⟨_, ⟨⟩, -⟩ | ⟨n, made, -, -, rfl⟩ := add_cases added
  obtain rfl := Except.ok.inj made
  exact ⟨_, rfl, asInteger_of_add added⟩

/-- A switch is equal to zero or to one. -/
theorem isSwitch_eq_true {value : Value} (switch : isSwitch value = .ok true) :
    (Value.int 0).equals value = .ok true ∨ (Value.int 1).equals value = .ok true := by
  obtain ⟨zero, compared, rest⟩ := bind_eq_ok.1 switch
  cases zero with
  | true => exact .inl compared
  | false => exact .inr rest

/-- **Models only grow.** Whatever calls have been made, what they lead to is sound, and each gate
is on a variable with the values zero and one, at one of these. A call that follows fails and
changes nothing, or adds what it was given, with an integer on the right if it compares. What
further calls lead to extends what there was, and so what they admit was admitted before. -/
theorem after_grows (table : Nat) (ops : List Operation) :
    (after { table } ops).IsSound ∧
      (∀ c ∈ (after { table } ops).constraints, ∀ g, c.gate = some g →
        g.indicator.lower = 0 ∧ g.indicator.upper = 1 ∧
          ((Value.int 0).equals g.activeWhen = .ok true ∨
            (Value.int 1).equals g.activeWhen = .ok true)) ∧
      (∀ op : Operation,
        (∃ fault, op.perform.on (after { table } ops) = (.error fault, after { table } ops)) ∨
          ∃ t, op.perform.on (after { table } ops) = (.ok (), t) ∧
            op.Adds (after { table } ops) t ∧
            ∀ value, op.rhs? = some value →
              ∃ c, t = (after { table } ops).record [c] ∧ value.asInteger "" = .ok c.rhs) ∧
      ∀ more, (after { table } ops).IsExtendedBy (after { table } (ops ++ more)) ∧
        ∀ values, (after { table } (ops ++ more)).outOfBounds values = .ok [] →
          (after { table } (ops ++ more)).violated values = .ok [] →
          (after { table } ops).outOfBounds values = .ok [] ∧
            (after { table } ops).violated values = .ok [] := by
  have sound : (after { table } ops).IsSound :=
    after_induction (isSound_new table) fun _ _ _ _ added S => S.adds added
  refine ⟨sound, ?_, ?_, ?_⟩
  · intro c hc g gated
    have accepted := sound.gates c hc g gated
    have boolean := accepted.boolean
    simp only [Variable.isBoolean, Bool.and_eq_true, decide_eq_true_eq] at boolean
    exact ⟨boolean.1.1, boolean.1.2, isSwitch_eq_true accepted.switch⟩
  · intro op
    cases ran : op.perform.on (after { table } ops) with
    | mk ending t =>
      rcases op.perform_cases ran with ⟨fault, rfl, rfl⟩ | ⟨rfl, added⟩
      · exact .inl ⟨fault, rfl⟩
      · exact .inr ⟨t, rfl, added, fun value given => op.asInteger_rhs given ran⟩
  · intro more
    have extended : (after { table } ops).IsExtendedBy (after { table } (ops ++ more)) := by
      rw [after_append]
      exact isExtendedBy_after _ more
    exact ⟨extended, fun values inside satisfied => extended.admitted inside satisfied⟩

end IntegerProgram.Model
