import IntegerProgram.Program.Gated.Point
import IntegerProgram.Proofs.Model

/-!
# Gated programs say what models say

Every well-formed model has a gated program, and this admits just the points that the model admits.
The objective of the program has the value of the objective of the model there.

## Main statements

* `GatedProgram.Rule.ofConstraint?_holds_iff`: what the rule of a constraint says.
* `GatedProgram.exists_ofModel`: the program of a model, and what it says.
-/
namespace IntegerProgram

variable {x y : Point} {vs : List Variable}

/-- What a constraint says depends on the values of its variables only. -/
theorem Constraint.IsOver.holds_congr {c : Constraint} (C : c.IsOver vs)
    (same : ∀ v ∈ vs, x v.index = y v.index) : c.Holds x ↔ c.Holds y := by
  obtain ⟨s, whole, own⟩ := C.whole
  have sum : s.value x = s.value y := WeightedSum.value_congr fun v hv => same v (own v hv)
  have gates : (∀ g, c.gate = some g → g.IsOpen x) ↔ ∀ g, c.gate = some g → g.IsOpen y := by
    refine forall₂_congr fun g gated => ?_
    rw [Gate.IsOpen, Gate.IsOpen, same _ (C.gate g gated).own]
  rw [Constraint.Holds, Constraint.Holds, gates, whole, LinearForm.value_whole,
    LinearForm.value_whole, sum]

section Literals

variable {g : Gate}

theorem Gate.IsOver.literal_positive (G : g.IsOver vs) :
    g.activeWhen = .int (if g.literal.positive then 1 else 0) := by
  rcases G.switch with zero | one
  · simp [Gate.literal, zero, Value.isSameKey, Value.key?]
  · simp [Gate.literal, one, Value.isSameKey, Value.key?]

/-- The literal of a gate is true where the gate is open. -/
theorem Gate.IsOver.literal_isTrue_iff (G : g.IsOver vs) : g.literal.IsTrue x ↔ g.IsOpen x := by
  rw [Gate.isOpen_iff x G.literal_positive]
  rfl

/-- The opposite literal is true where the gate is closed. -/
theorem Gate.IsOver.negate_isTrue_iff (G : g.IsOver vs)
    (switch : x g.indicator.index = 0 ∨ x g.indicator.index = 1) :
    g.literal.negate.IsTrue x ↔ ¬g.IsOpen x := by
  rw [Gate.isOpen_iff x G.literal_positive]
  have same : g.literal.index = g.indicator.index := rfl
  cases positive : g.literal.positive <;>
    simp only [Literal.IsTrue, Literal.negate, positive, same, Bool.not_true, Bool.not_false] <;>
    simp only [if_true, if_false, Bool.false_eq_true] <;> omega

end Literals

namespace GatedProgram

variable {f : Int → Int}

theorem termsValue_map (terms : List (Int × Value)) :
    termsValue (terms.map fun t => (f t.1, t.2)) x = termsValue terms fun i => x (f i) := by
  simp [termsValue, List.foldr_map]

/-- A rule with other indexes says of a point what the rule says of the point with these. -/
theorem Rule.relabel_holds_iff (r : Rule) :
    (r.relabel f).Holds x ↔ r.Holds fun i => x (f i) := by
  cases r with
  | linear terms op rhs onlyIf =>
    simp only [relabel, Holds, termsValue_map]
    cases onlyIf <;> simp [Literal.relabel, Literal.IsTrue]
  | clause literals => simp [relabel, Holds, Literal.relabel, Literal.IsTrue]

/-- **What the rule of a constraint says**: that the constraint holds. -/
theorem Rule.ofConstraint?_holds_iff {c : Constraint} (C : c.IsOver vs)
    (switch : ∀ g, c.gate = some g → x g.indicator.index = 0 ∨ x g.indicator.index = 1) :
    ∃ rule, Rule.ofConstraint? c = .ok rule ∧ ((∀ r, rule = some r → r.Holds x) ↔ c.Holds x) := by
  obtain ⟨s, whole, own⟩ := C.whole
  obtain ⟨op, known⟩ := C.known
  obtain ⟨⟨terms⟩, rfl⟩ : ∃ t, t = s := ⟨s, rfl⟩
  have holds : c.Holds x ↔ ((∀ g, c.gate = some g → g.IsOpen x) →
      op.holds ((⟨terms⟩ : WeightedSum).value x) c.rhs = true) := by
    rw [Constraint.Holds, known, whole, LinearForm.value_whole]
    rfl
  rw [holds]
  cases terms with
  | nil =>
    have decided : (Operator.known op).holds (.whole ⟨[]⟩) c.rhs (fun _ => none) =
        .ok (op.holds 0 c.rhs) := rfl
    cases said : op.holds 0 c.rhs with
    | true =>
      refine ⟨none, ?_, by simp [said]⟩
      simp [ofConstraint?, whole, known, LinearForm.terms, decided, said]
    | false =>
      refine ⟨some (.clause ((c.gate.map Gate.literal).map Literal.negate).toList), ?_, ?_⟩
      · simp [ofConstraint?, whole, known, LinearForm.terms, decided, said]
      · cases gated : c.gate with
        | none => simp [Holds, said]
        | some g =>
          have closed := (C.gate g gated).negate_isTrue_iff (switch g gated)
          simp [Holds, said, closed]
  | cons t rest =>
    refine ⟨some (.linear (LinearForm.whole ⟨t :: rest⟩).indexed op c.rhs
      (c.gate.map Gate.literal)), ?_, ?_⟩
    · simp [ofConstraint?, whole, known, LinearForm.terms]
    · cases gated : c.gate with
      | none => simp [Holds]
      | some g => simp [Holds, (C.gate g gated).literal_isTrue_iff]

/-- What the rules of constraints say: that all constraints hold. -/
theorem rules_hold_iff {cs : List Constraint} {rules : List (Option Rule)}
    (made : cs.mapM Rule.ofConstraint? = .ok rules) (C : ∀ c ∈ cs, c.IsOver vs)
    (inside : ∀ v ∈ vs, v.admits (x v.index) = true) :
    (∀ r ∈ rules.filterMap id, r.Holds x) ↔ ∀ c ∈ cs, c.Holds x := by
  rw [List.forall_mem_filterMap]
  refine (forall_mem_iff_of_forall₂ (mapM_eq_ok.1 made) fun c hc rule _ same => ?_).symm
  obtain ⟨rule', same', holds⟩ := Rule.ofConstraint?_holds_iff (x := x) (C c hc)
    fun g gated => ((C c hc).gate g gated).switch_of_admits inside
  obtain rfl : rule' = rule := Except.ok.inj (same'.symm.trans same)
  exact holds.symm

/-- The domains of a program say that all values lie within their bounds. -/
theorem domains_contain_iff {m : Model} (H : m.IsWellFormed) :
    (∀ (i : Nat) (d : Domain), (m.vars.map Domain.ofVariable)[i]? = some d → d.Contains (x i)) ↔
      ∀ v ∈ m.vars, v.admits (x v.index) = true := by
  constructor
  · intro contained v hv
    obtain ⟨i, hi, rfl⟩ := List.mem_iff_getElem.1 hv
    have place := H.index i _ (List.getElem?_eq_getElem hi)
    rw [← Domain.contains_ofVariable, place]
    exact contained i _ (by simp [hi])
  · intro inside i d found
    rw [List.getElem?_map, Option.map_eq_some_iff] at found
    obtain ⟨v, listed, rfl⟩ := found
    rw [Domain.contains_ofVariable, ← H.index i v listed]
    exact inside v (List.mem_of_getElem? listed)

/-- The place of a variable is its index. -/
theorem placeOf_index {m : Model} (H : m.IsWellFormed) {v : Variable} (hv : v ∈ m.vars) :
    m.placeOf v.index = v.index := by
  have := H.index_nonneg hv
  rw [Model.placeOf, if_neg (by omega)]

/-- **A well-formed model has a gated program, which admits the same points.** Its objective has the
value of the model's. -/
theorem exists_ofModel {m : Model} (H : m.IsWellFormed) :
    ∃ p, ofModel m = .ok p ∧ p.domains = m.vars.map Domain.ofVariable ∧
      (∀ x, p.Admits x ↔ m.Admits x) ∧
      ∀ sum sense, m.objective = some ⟨.whole sum, sense⟩ → (∀ v ∈ sum.vars, v ∈ m.vars) →
        ∃ terms, p.objective = some (sense, terms) ∧ ∀ x, termsValue terms x = sum.value x := by
  obtain ⟨rules, made⟩ : ∃ rules, m.constraints.mapM Rule.ofConstraint? = .ok rules := by
    refine exists_mapM_eq_ok fun c hc => ?_
    obtain ⟨rule, same, -⟩ := Rule.ofConstraint?_holds_iff (x := fun _ => 0) (H.constraints c hc)
      fun g gated => .inl rfl
    exact ⟨rule, same⟩
  refine ⟨_, by rw [ofModel, made]; rfl, rfl, ?_, ?_⟩
  · intro x
    have own : ∀ v ∈ m.vars, x (m.placeOf v.index) = x v.index :=
      fun v hv => by rw [placeOf_index H hv]
    have rulesHold (inside : ∀ v ∈ m.vars, v.admits (x v.index) = true) :
        (∀ r ∈ (rules.filterMap id).map (Rule.relabel m.placeOf), r.Holds x) ↔
          ∀ c ∈ m.constraints, c.Holds x := by
      simp only [List.forall_mem_map, Rule.relabel_holds_iff]
      rw [rules_hold_iff made H.constraints fun v hv => by rw [own v hv]; exact inside v hv]
      exact forall₂_congr fun c hc => (H.constraints c hc).holds_congr own
    constructor
    · rintro ⟨domains, rulesOk⟩
      have inside := (domains_contain_iff H).1 domains
      exact ⟨inside, (rulesHold inside).1 rulesOk⟩
    · rintro ⟨inside, holds⟩
      exact ⟨(domains_contain_iff H).2 inside, (rulesHold inside).2 holds⟩
  · intro sum sense given own
    refine ⟨(LinearForm.whole sum).indexed.map fun t => (m.placeOf t.1, t.2), ?_, ?_⟩
    · simp [relabel, given]
    · intro x
      rw [termsValue_map, termsValue_indexed]
      exact WeightedSum.value_congr fun v hv => by rw [placeOf_index H (own v hv)]

end GatedProgram

end IntegerProgram
