import IntegerProgram.Proofs.Implication
import IntegerProgram.Proofs.Model.Operation
import IntegerProgram.Proofs.WeightedSum

/-!
# Implications that are refused

Encoding an implication looks at the indicator and at both relations before it records anything. The
sums and the constants are looked at by the constraint that uses them: those of the consequence by
the first, those of the premise not before the third. So a refused implication leaves the model as
it was, unless nothing is wrong with it but the sum or the constant of the premise. Then the two
constraints of the consequence are there to stay.

## Main definitions

* `Condition.IsUsable`: a condition with a sum and a constant that a constraint can be made from.
* `Model.TakesConsequence`: an implication in which nothing is wrong but, perhaps, the premise.

## Main statements

* `Model.encodeImplication_refused`: what an implication that is refused leaves behind.
* `Model.not_encodeImplication_refused`: it may leave half of what it stands for.
-/
namespace IntegerProgram

/-- A condition whose sum is over variables of a model, and whose constant is an integer. -/
structure Condition.IsUsable (c : Condition) (m : Model) : Prop where
  sum : ∃ f, c.sum = .ok f ∧ ∀ v ∈ f.vars, m.requireOwn v = .ok ()
  constant : ∃ n, c.constant.asInteger "" = .ok n

/-- A condition whose relation is one, or equal to one. -/
def Condition.IsRelation (c : Condition) : Prop := ∃ r, c.relation.equalRelation? = .ok (some r)

/-- What is equal to a relation has the comparison and the complement of that. -/
theorem Condition.relation_found {c : Condition} {r : Relation}
    (found : c.relation.equalRelation? = .ok (some r)) :
    c.relation.asComparison = .ok r.comparison ∧ c.relation.asComplement = .ok r.complement := by
  simp [Value.asComparison, Value.asComplement, found]

/-- What is no relation has neither a comparison nor a complement. -/
theorem Condition.relation_refused {c : Condition} (unknown : ¬c.IsRelation) :
    (∃ fault, c.relation.asComparison = .error fault) ∧
      ∃ fault, c.relation.asComplement = .error fault := by
  unfold Value.asComparison Value.asComplement
  cases looked : c.relation.equalRelation? with
  | error fault => exact ⟨⟨fault, rfl⟩, fault, rfl⟩
  | ok found =>
    cases found with
    | none => exact ⟨⟨_, rfl⟩, _, rfl⟩
    | some r => exact absurd ⟨r, looked⟩ unknown

namespace Model

variable {m t : Model}

/-- An implication in which nothing is wrong, up to the sum and the constant of its premise: it has
an indicator of the model with the values zero and one, two relations, and a consequence that
constraints can be made from. -/
structure TakesConsequence (m : Model) (indicator : Variable) (predicate entailment : Condition) :
    Prop where
  boolean : indicator.isBoolean = true
  own : m.requireOwn indicator = .ok ()
  entails : entailment.IsRelation
  predicates : predicate.IsRelation
  usable : entailment.IsUsable m

section Add

variable {f : LinearForm} {op : Operator} {rhs description : Value} {gate : Option Gate}

/-- A constraint whose name can be written is appended if and only if its variables and its gate are
in order and its right-hand side is an integer. -/
theorem on_add_iff (named : requireName f description = .ok ()) :
    (∃ c, (add f op rhs gate description).on m = (.ok c, m.record [c])) ↔
      (∀ v ∈ f.vars, m.requireOwn v = .ok ()) ∧ m.requireGate? gate = .ok () ∧
        ∃ n, rhs.asInteger "" = .ok n := by
  rw [← forM_eq_ok, ← requireAllOwn, add, Attempt.on_get_bind]
  cases m.requireAllOwn f.vars with
  | error fault => simp [Attempt.on_bind]
  | ok =>
    cases m.requireGate? gate with
    | error fault => simp [Attempt.on_bind]
    | ok =>
      simp only [Attempt.on_check_ok rfl, Attempt.on_check_ok named]
      generalize (if description.isTrue then description.shown else f.text) = what
      cases integer : rhs.asInteger s!"right-hand side of {what}" with
      | error fault =>
        have refused : ¬∃ n, rhs.asInteger "" = .ok n := by
          rintro ⟨n, integer'⟩
          rw [Value.asInteger_eq_ok _ s!"right-hand side of {what}", integer] at integer'
          simp at integer'
        simp [Attempt.on_bind, refused]
      | ok n =>
        have accepted := (Value.asInteger_eq_ok _ "").1 integer
        simp [Attempt.on_bind, accepted, record]

end Add

section Gated

variable {c : Condition} {b : Variable} {n : Int} {text : String}

/-- A gate on a variable of a model with the values zero and one, at one of these, is in order. -/
theorem requireGate?_of_switch (own : m.requireOwn b = .ok ()) (boolean : b.isBoolean = true)
    (switch : n = 0 ∨ n = 1) : m.requireGate? (some ⟨b, .int n⟩) = .ok () := by
  have gate : Gate.IsOver ⟨b, .int n⟩ [b] :=
    ⟨List.mem_singleton_self b, boolean, switch.imp (congrArg _) (congrArg _)⟩
  exact requireGate_of_isOver gate own

/-- One of the constraints of an implication: the sum of a condition compares with its constant
while an indicator has a value. -/
def addGated (c : Condition) (op : Comparison) (b : Variable) (n : Int) (text : String) :
    Attempt Model Constraint := do
  add (← c.sum) (.known op) c.constant (some ⟨b, .int n⟩) (.text text)

theorem on_addGated_of_usable (own : m.requireOwn b = .ok ()) (boolean : b.isBoolean = true)
    (switch : n = 0 ∨ n = 1) (usable : c.IsUsable m) (op : Comparison)
    (visible : text ≠ "") :
    ∃ made, (addGated c op b n text).on m = (.ok made, m.record [made]) := by
  obtain ⟨f, sum, owned⟩ := usable.sum
  rw [addGated, Attempt.on_check_ok sum]
  exact (on_add_iff (requireName_text f visible)).2
    ⟨owned, requireGate?_of_switch own boolean switch, usable.constant⟩

theorem on_addGated_of_not (refused : ¬(m.requireOwn b = .ok () ∧ c.IsUsable m)) (op : Comparison)
    (visible : text ≠ "") :
    ∃ fault, (addGated c op b n text).on m = (.error fault, m) := by
  rw [addGated]
  cases sum : c.sum with
  | error fault => exact ⟨fault, Attempt.on_check_error rfl m⟩
  | ok f =>
    rw [Attempt.on_check_ok rfl]
    cases ran : (add f (.known op) c.constant (some ⟨b, .int n⟩) (.text text)).on m with
    | mk ending t =>
      rcases add_cases ran with ⟨fault, rfl, rfl⟩ | ⟨k, rfl, -, -, rfl⟩
      · exact ⟨fault, rfl⟩
      · obtain ⟨owned, gated, integer⟩ := (on_add_iff (requireName_text f visible)).1 ⟨_, ran⟩
        have own : m.requireOwn b = .ok () := by
          obtain ⟨⟨⟩, own, -⟩ := bind_eq_ok.1 gated
          exact own
        exact absurd ⟨own, ⟨f, sum, owned⟩, integer⟩ refused

end Gated

/-- An implication with an indicator and relations that are in order is recorded by three
constraints. -/
theorem on_encodeImplication_of_relations {b : Variable} {predicate entailment : Condition}
    {r s : Relation} (boolean : b.isBoolean = true)
    (entails : entailment.relation.equalRelation? = .ok (some r))
    (predicates : predicate.relation.equalRelation? = .ok (some s)) (description : String) :
    (encodeImplication b predicate entailment description).on m =
      (do
        let _ ← addGated entailment r.comparison b 1 (description ++ " [then]")
        let _ ← addGated entailment r.complement b 0 (description ++ " [then, negated]")
        let _ ← addGated predicate s.complement b 0 (description ++ " [if, negated]")
        : Attempt Model Unit).on m := by
  obtain ⟨holds, fails⟩ := Condition.relation_found entails
  obtain ⟨-, predicateFails⟩ := Condition.relation_found predicates
  simp [encodeImplication, boolean, holds, fails, predicateFails, addGated, Attempt.on_bind]

section Refused

/-- What ends with a text that is not empty is not empty. -/
theorem append_ne_empty (text : String) {suffix : String} (visible : suffix ≠ "") :
    text ++ suffix ≠ "" := by
  simp [visible]

/-- A model is the same with no more constraints. -/
theorem record_eq_self {cs : List Constraint} : m.record cs = m ↔ cs = [] := by
  constructor
  · intro same
    have constraints := congrArg constraints same
    rwa [record_constraints, List.append_right_eq_self] at constraints
  · rintro rfl
    rw [record, List.append_nil]

variable {b : Variable} {predicate entailment : Condition} {description : String}

/-- Where something else is wrong than the premise, nothing is recorded. -/
theorem on_encodeImplication_of_not (refused : ¬m.TakesConsequence b predicate entailment)
    (description : String) :
    ∃ fault, (encodeImplication b predicate entailment description).on m = (.error fault, m) := by
  by_cases boolean : b.isBoolean = true
  · by_cases entails : entailment.IsRelation
    · by_cases predicates : predicate.IsRelation
      · obtain ⟨r, isEntailed⟩ := entails
        obtain ⟨s, isPredicated⟩ := predicates
        rw [on_encodeImplication_of_relations boolean isEntailed isPredicated]
        have first : ¬(m.requireOwn b = .ok () ∧ entailment.IsUsable m) := fun ⟨own, usable⟩ =>
          refused ⟨boolean, own, ⟨r, isEntailed⟩, ⟨s, isPredicated⟩, usable⟩
        obtain ⟨fault, failed⟩ := on_addGated_of_not (n := 1) first r.comparison
          (append_ne_empty description (show " [then]" ≠ "" by decide))
        exact ⟨fault, Attempt.on_bind_error failed⟩
      · obtain ⟨fault, failed⟩ := (Condition.relation_refused predicates).2
        obtain ⟨r, isEntailed⟩ := entails
        obtain ⟨holds, fails⟩ := Condition.relation_found isEntailed
        exact ⟨fault, by
          simp [encodeImplication, boolean, holds, fails, failed, Attempt.on_bind]⟩
    · obtain ⟨fault, failed⟩ := (Condition.relation_refused entails).1
      exact ⟨fault, by simp [encodeImplication, boolean, failed, Attempt.on_bind]⟩
  · exact ⟨_, by simp [encodeImplication, boolean]; rfl⟩

/-- Where nothing else is wrong than the premise, the consequence is recorded before that comes to
light. -/
theorem on_encodeImplication_of_takes (takes : m.TakesConsequence b predicate entailment)
    (description : String) :
    (predicate.IsUsable m → ∃ cs, cs.length = 3 ∧
        (encodeImplication b predicate entailment description).on m = (.ok (), m.record cs)) ∧
      (¬predicate.IsUsable m → ∃ fault cs, cs.length = 2 ∧
        (encodeImplication b predicate entailment description).on m =
          (.error fault, m.record cs)) := by
  obtain ⟨boolean, own, ⟨r, entails⟩, ⟨s, predicates⟩, usable⟩ := takes
  rw [on_encodeImplication_of_relations boolean entails predicates]
  have visible (suffix : String) (visible : suffix ≠ "") := append_ne_empty description visible
  obtain ⟨c₁, first⟩ := on_addGated_of_usable own boolean (.inr rfl) usable r.comparison
    (visible " [then]" (by decide))
  rw [Attempt.on_bind_ok first]
  -- recording constraints changes neither what is owned nor what is usable
  obtain ⟨c₂, second⟩ := on_addGated_of_usable (m := m.record [c₁]) own boolean (.inl rfl)
    ⟨usable.sum, usable.constant⟩ r.complement (visible " [then, negated]" (by decide))
  rw [Attempt.on_bind_ok second, record_record]
  constructor
  · intro premise
    obtain ⟨c₃, third⟩ := on_addGated_of_usable (m := m.record ([c₁] ++ [c₂])) own boolean
      (.inl rfl) ⟨premise.sum, premise.constant⟩ s.complement
      (visible " [if, negated]" (by decide))
    refine ⟨[c₁, c₂, c₃], rfl, ?_⟩
    rw [Attempt.on_bind_ok third, record_record]
    rfl
  · intro premise
    have refused : ¬((m.record ([c₁] ++ [c₂])).requireOwn b = .ok () ∧
        predicate.IsUsable (m.record ([c₁] ++ [c₂]))) := by
      rintro ⟨-, usable⟩
      exact premise ⟨usable.sum, usable.constant⟩
    obtain ⟨fault, third⟩ := on_addGated_of_not (n := 0) refused s.complement
      (visible " [if, negated]" (by decide))
    exact ⟨fault, [c₁, c₂], rfl, Attempt.on_bind_error third⟩

/-- **What encoding an implication leaves behind.** It returns if and only if nothing is wrong, and
has then appended three constraints. If it fails then the model is as it was, unless nothing is
wrong but the sum or the constant of the premise: in that case two constraints have been appended.
-/
theorem encodeImplication_refused {ending : Except Fault Unit}
    (ran : (encodeImplication b predicate entailment description).on m = (ending, t)) :
    (ending = .ok () ↔ m.TakesConsequence b predicate entailment ∧ predicate.IsUsable m) ∧
      (ending = .ok () → ∃ cs, cs.length = 3 ∧ t = m.record cs) ∧
      ∀ fault, ending = .error fault →
        (t = m ↔ ¬m.TakesConsequence b predicate entailment) ∧
          (m.TakesConsequence b predicate entailment → ∃ cs, cs.length = 2 ∧ t = m.record cs) := by
  by_cases takes : m.TakesConsequence b predicate entailment
  · obtain ⟨whole, half⟩ := on_encodeImplication_of_takes takes description
    by_cases usable : predicate.IsUsable m
    · obtain ⟨cs, three, recorded⟩ := whole usable
      rw [ran] at recorded
      obtain ⟨rfl, rfl⟩ := Prod.mk.inj recorded
      exact ⟨by simp [takes, usable], fun _ => ⟨cs, three, rfl⟩, by simp⟩
    · obtain ⟨fault, cs, two, recorded⟩ := half usable
      rw [ran] at recorded
      obtain ⟨rfl, rfl⟩ := Prod.mk.inj recorded
      have changed : m.record cs ≠ m := by
        intro same
        obtain rfl := record_eq_self.1 same
        simp at two
      exact ⟨by simp [usable], by simp, fun _ _ => ⟨by simp [takes, changed], fun _ =>
        ⟨cs, two, rfl⟩⟩⟩
  · obtain ⟨fault, failed⟩ := on_encodeImplication_of_not takes description
    rw [ran] at failed
    obtain ⟨rfl, rfl⟩ := Prod.mk.inj failed
    simp [takes]

namespace Half

/-- A number of the table. -/
def number : Variable := ⟨⟨0, 0⟩, 0, "x", 0, 5, none⟩

/-- A switch of the table. -/
def switch : Variable := ⟨⟨0, 1⟩, 1, "b", 0, 1, none⟩

/-- A table of a number and a switch. -/
def table : Model := { vars := [number, switch] }

/-- One and a half. -/
def constant : Value := .float (.finite false 6755399441055744 (-52))

/-- The number is to be one and a half. -/
def premise : Condition := ⟨.ok (.whole ⟨[(number, 1)]⟩), .relation .eq, constant⟩

/-- The number is to be two. -/
def consequence : Condition := ⟨.ok (.whole ⟨[(number, 1)]⟩), .relation .eq, .int 2⟩

theorem takesConsequence : table.TakesConsequence switch premise consequence where
  boolean := by decide
  own := rfl
  entails := ⟨.eq, Relation.equalRelation?_relation .eq⟩
  predicates := ⟨.eq, Relation.equalRelation?_relation .eq⟩
  usable :=
    have own : table.requireOwn number = .ok () := rfl
    ⟨⟨_, rfl, by simpa [WeightedSum.vars] using own⟩, 2, rfl⟩

theorem ended : ((encodeImplication switch premise consequence).on table).1 =
    .error (.raised (.notInteger "right-hand side of  [if, negated]" constant)) := by
  rfl

end Half

/-- A constant of one and a half in the premise comes to light too late. -/
theorem encodeImplication_refused_half :
    ∃ (m t : Model) (indicator : Variable) (predicate entailment : Condition) (fault : Fault),
      (encodeImplication indicator predicate entailment).on m = (.error fault, t) ∧
        m.TakesConsequence indicator predicate entailment ∧
        ∃ cs, cs.length = 2 ∧ t = m.record cs := by
  cases ran : (encodeImplication Half.switch Half.premise Half.consequence).on Half.table with
  | mk ending t =>
    have failed := Half.ended
    rw [ran] at failed
    obtain rfl : ending = _ := failed
    obtain ⟨-, -, fails⟩ := encodeImplication_refused ran
    exact ⟨Half.table, t, _, _, _, _, ran, Half.takesConsequence,
      (fails _ rfl).2 Half.takesConsequence⟩

/-- What is refused may leave half of what it stands for. -/
theorem not_encodeImplication_refused :
    ¬ ∀ (m t : Model) (indicator : Variable) (predicate entailment : Condition) (fault : Fault),
      (encodeImplication indicator predicate entailment).on m = (.error fault, t) →
        fault.kind.isModelFault = true → t.constraints = m.constraints := by
  intro kept
  have recorded : ((encodeImplication Half.switch Half.premise Half.consequence).on
      Half.table).2.constraints.length = 2 := rfl
  cases ran : (encodeImplication Half.switch Half.premise Half.consequence).on Half.table with
  | mk ending t =>
    have failed := Half.ended
    rw [ran] at failed recorded
    obtain rfl : ending = _ := failed
    have same := kept _ t _ _ _ _ ran rfl
    rw [same] at recorded
    simp [Half.table] at recorded

end Refused

end Model

end IntegerProgram
