import IntegerProgram.Proofs.Gate
import IntegerProgram.Proofs.Model.Operation

/-!
# Exact programs of built models

A model that calls build from integers has a gated program. The program admits the points within all
bounds at which the check of every constraint succeeds, and it refers to nothing that it does not
list; its literals are those of truth values. Search hints change nothing of what it says.

## Main definitions

* `Model.Operation.IsIntegral`: a call with integers for coefficients.
* `GatedProgram.IsClosed`: a program that refers to its own places only.
* `GatedProgram.IsExactFor`: a program that says of a point what a model says.

## Main statements

* `GatedProgram.ofModel_exact`: a built model has such a program.
-/
namespace IntegerProgram

/-- One of the comparisons, of a form with integers for coefficients. -/
structure Constraint.IsIntegral (c : Constraint) : Prop where
  whole : ∃ s : WeightedSum, c.sum = .whole s
  known : ∃ op : Comparison, c.operator = .known op

theorem Gate.IsAccepted.plain {g : Gate} {vs : List Variable} (G : g.IsAccepted vs) :
    g.plain.IsOver vs := by
  refine ⟨G.own, G.boolean, ?_⟩
  rw [Gate.plain]
  split
  · exact .inl rfl
  · exact .inr rfl

namespace Model

variable {m : Model}

/-- Whether a call has integers for coefficients and one of the comparisons. -/
def Operation.IsIntegral : Operation → Prop
  | add sum operator _ _ _ => (∃ s : WeightedSum, sum = .whole s) ∧ ∃ op, operator = .known op
  | setObjective sum _ => ∃ s : WeightedSum, sum = .whole s
  | _ => True

/-- Every form of the model has integers for coefficients. -/
structure IsIntegral (m : Model) : Prop where
  constraints : ∀ c ∈ m.constraints, c.IsIntegral
  objective : ∀ o, m.objective = some o → ∃ s : WeightedSum, o.sum = .whole s

theorem isIntegral_after {ops : List Operation} (integral : ∀ op ∈ ops, op.IsIntegral) :
    (after {} ops).IsIntegral := by
  apply after_induction
  · constructor <;> simp
  · intro op hop m t added M
    have given := integral op hop
    cases added with
    | newVariable => exact ⟨M.constraints, M.objective⟩
    | add own gates =>
      refine ⟨List.forall_mem_append.2 ⟨M.constraints, ?_⟩, M.objective⟩
      rw [List.forall_mem_singleton]
      exact ⟨given.1, given.2⟩
    | fix own =>
      refine ⟨List.forall_mem_append.2 ⟨M.constraints, ?_⟩, M.objective⟩
      rw [List.forall_mem_singleton]
      exact ⟨⟨_, rfl⟩, ⟨_, rfl⟩⟩
    | addStrategy => exact ⟨M.constraints, M.objective⟩
    | setObjective own =>
      refine ⟨M.constraints, ?_⟩
      rintro o ⟨⟩
      exact given

/-- With integers for the values of all gates a sound model is well-formed. -/
theorem IsSound.plain (S : m.IsSound) (M : m.IsIntegral) : m.plain.IsWellFormed := by
  refine ⟨S.index, S.nonempty, S.declared, ?_⟩
  rw [Model.plain, List.forall_mem_map]
  intro c hc
  obtain ⟨s, whole⟩ := (M.constraints c hc).whole
  refine ⟨⟨s, whole, ?_⟩, (M.constraints c hc).known, ?_⟩
  · simpa [whole] using S.sums c hc
  · intro g gated
    obtain ⟨g', given, rfl⟩ := Option.map_eq_some_iff.1 gated
    exact (S.gates c hc g' given).plain

/-- What the model with integers for the values of gates says of a point is what the checks find. -/
theorem IsSound.plain_admits_iff (S : m.IsSound) (M : m.IsIntegral) (x : Point) :
    m.plain.Admits x ↔ (∀ v ∈ m.vars, v.admits (x v.index) = true) ∧
      ∀ c ∈ m.constraints, c.isSatisfied x.valuation = .ok true := by
  have H := S.plain M
  have checked (inside : ∀ v ∈ m.vars, v.admits (x v.index) = true) :
      (∀ c ∈ m.plain.constraints, c.Holds x) ↔
        ∀ c ∈ m.constraints, c.isSatisfied x.valuation = .ok true := by
    rw [Model.plain, List.forall_mem_map]
    refine forall₂_congr fun c hc => ?_
    -- the values of a gate are compared with zero and one, which an indicator is within its bounds
    have inScope := H.constraints c.plain (List.mem_map_of_mem hc)
    have bit (g : Gate) (gated : c.gate = some g) :
        x g.indicator.index = 0 ∨ x g.indicator.index = 1 :=
      (S.gates c hc g gated).plain.switch_of_admits inside
    rw [← inScope.isSatisfied_iff, Constraint.isSatisfied_plain ?_ bit]
    exact fun g gated => (S.gates c hc g gated).switch
  constructor
  · rintro ⟨inside, holds⟩
    exact ⟨inside, (checked inside).1 holds⟩
  · rintro ⟨inside, holds⟩
    exact ⟨inside, (checked inside).2 holds⟩

end Model

namespace GatedProgram

/-- The domain at a place. -/
def domainAt? (p : GatedProgram) (place : Int) : Option Domain :=
  if place < 0 then none else p.domains[place.toNat]?

namespace Rule

/-- The places of the terms of a rule. -/
def places : Rule → List Int
  | linear terms _ _ _ => terms.map (·.1)
  | clause _ => []

/-- The literals of a rule. -/
def literals : Rule → List Literal
  | linear _ _ _ onlyIf => onlyIf.toList
  | clause literals => literals

@[simp] theorem places_relabel (f : Int → Int) (r : Rule) :
    (r.relabel f).places = r.places.map f := by
  cases r <;> simp [relabel, places]

@[simp] theorem literals_relabel (f : Int → Int) (r : Rule) :
    (r.relabel f).literals = r.literals.map (Literal.relabel f) := by
  cases r with
  | linear terms op rhs onlyIf => cases onlyIf <;> simp [relabel, literals]
  | clause _ => rfl

/-- The rule of a constraint refers to the variables of its sum and to the indicator of its gate. -/
theorem refers_of_ofConstraint? {c : Constraint} {r : Rule}
    (made : ofConstraint? c = .ok (some r)) :
    (∀ i ∈ r.places, ∃ v ∈ c.sum.vars, v.index = i) ∧
      ∀ l ∈ r.literals, ∃ g, c.gate = some g ∧ g.indicator.index = l.index := by
  have gates (l : Literal) (hl : l ∈ (c.gate.map Gate.literal).toList) :
      ∃ g, c.gate = some g ∧ g.indicator.index = l.index := by
    rw [Option.mem_toList, Option.map_eq_some_iff] at hl
    obtain ⟨g, gated, rfl⟩ := hl
    exact ⟨g, gated, rfl⟩
  unfold ofConstraint? at made
  simp only at made
  split at made
  · obtain ⟨answer, -, made⟩ := bind_eq_ok.1 made
    cases answer with
    | true => simp at made
    | false =>
      obtain rfl : clause ((c.gate.map Gate.literal).map Literal.negate).toList = r := by
        simpa using made
      refine ⟨by simp [places], ?_⟩
      intro l hl
      rw [literals, Option.toList_map, List.mem_map] at hl
      obtain ⟨l, hl, rfl⟩ := hl
      exact gates l hl
  · simp at made
  · obtain rfl := Option.some.inj (Except.ok.inj made)
    refine ⟨?_, gates⟩
    simp only [places, LinearForm.indexed, List.map_map, List.mem_map]
    rintro i ⟨t, ht, rfl⟩
    exact ⟨t.1, List.mem_map_of_mem ht, rfl⟩

end Rule

/-- A program that refers to its own places only, with literals of truth values. -/
structure IsClosed (p : GatedProgram) : Prop where
  terms : ∀ r ∈ p.rules, ∀ i ∈ r.places, ∃ d, p.domainAt? i = some d
  literals : ∀ r ∈ p.rules, ∀ l ∈ r.literals, ∃ v, p.domainAt? l.index = some (.truth v)
  hints : ∀ h ∈ p.hints, ∀ i ∈ h, ∃ d, p.domainAt? i = some d
  objective : ∀ o, p.objective = some o → ∀ t ∈ o.2, ∃ d, p.domainAt? t.1 = some d

section

variable {m : Model} {p : GatedProgram}

theorem ofModel_eq_ok : ofModel m = .ok p ↔
    ∃ rules, m.constraints.mapM Rule.ofConstraint? = .ok rules ∧
      p = relabel m.placeOf {
        domains := m.vars.map Domain.ofVariable
        rules := rules.filterMap id
        hints := m.strategies.map fun vs => vs.map (·.index)
        objective := m.objective.map fun o => (o.sense, o.sum.indexed) } := by
  rw [ofModel, bind_eq_ok]
  simp only [pure_eq_ok, Except.ok.injEq, eq_comm]

/-- The domain at the index of a variable is that of the variable. -/
theorem domainAt?_index (S : m.IsSound) (made : ofModel m = .ok p) {v : Variable}
    (hv : v ∈ m.vars) : p.domainAt? (m.placeOf v.index) = some (.ofVariable v) := by
  obtain ⟨rules, -, rfl⟩ := ofModel_eq_ok.1 made
  obtain ⟨i, hi, rfl⟩ := List.mem_iff_getElem.1 hv
  have place : m.placeOf m.vars[i].index = i := by
    rw [Model.placeOf, S.index i _ (List.getElem?_eq_getElem hi), if_neg (by omega)]
  rw [place, domainAt?, if_neg (by omega), Int.toNat_natCast]
  simp [relabel, hi]

/-- The program of a sound model refers to its own places only. -/
theorem isClosed_of_ofModel (S : m.IsSound) (made : ofModel m = .ok p) : p.IsClosed := by
  have listed {v : Variable} (hv : v ∈ m.vars) : ∃ d, p.domainAt? (m.placeOf v.index) = some d :=
    ⟨_, domainAt?_index S made hv⟩
  have whole (g : Gate) (G : g.IsAccepted m.vars) :
      ∃ v, p.domainAt? (m.placeOf g.indicator.index) = some (.truth v) := by
    refine ⟨g.indicator, ?_⟩
    rw [domainAt?_index S made G.own, Domain.ofVariable, if_pos G.boolean]
  obtain ⟨rules, ruled, rfl⟩ := ofModel_eq_ok.1 made
  have refers (r : Rule) (hr : r ∈ rules.filterMap id) :
      ∃ c ∈ m.constraints, Rule.ofConstraint? c = .ok (some r) := by
    obtain ⟨_, hr, rfl⟩ := List.mem_filterMap.1 hr
    exact exists_mem_of_forall₂ (mapM_eq_ok.1 ruled).flip _ hr
  constructor
  · simp only [relabel, List.forall_mem_map, Rule.places_relabel]
    intro r hr i hi
    obtain ⟨c, hc, made⟩ := refers r hr
    obtain ⟨v, hv, rfl⟩ := (Rule.refers_of_ofConstraint? made).1 i hi
    exact listed (S.sums c hc v hv)
  · simp only [relabel, List.forall_mem_map, Rule.literals_relabel]
    intro r hr l hl
    obtain ⟨c, hc, made⟩ := refers r hr
    obtain ⟨g, gated, same⟩ := (Rule.refers_of_ofConstraint? made).2 l hl
    rw [Literal.relabel, ← same]
    exact whole g (S.gates c hc g gated)
  · simp only [relabel, List.forall_mem_map]
    intro vs hvs v hv
    exact listed (S.strategies vs hvs v hv)
  · simp only [relabel, Option.map_eq_some_iff]
    rintro _ ⟨_, ⟨o, given, rfl⟩, rfl⟩
    simp only [LinearForm.indexed, List.forall_mem_map]
    intro t ht
    exact listed (S.objective o given t.1 (List.mem_map_of_mem ht))

/-- The search hints of the program of a sound model are those of the model. -/
theorem hints_of_ofModel (S : m.IsSound) (made : ofModel m = .ok p) :
    p.hints = m.strategies.map fun vs => vs.map (·.index) := by
  obtain ⟨rules, -, rfl⟩ := ofModel_eq_ok.1 made
  simp only [relabel, List.map_map]
  refine List.map_congr_left fun vs hvs => ?_
  simp only [Function.comp_apply, List.map_map]
  refine List.map_congr_left fun v hv => ?_
  obtain ⟨i, hi, rfl⟩ := List.mem_iff_getElem.1 (S.strategies vs hvs v hv)
  rw [Function.comp_apply, Model.placeOf, S.index i _ (List.getElem?_eq_getElem hi),
    if_neg (by omega)]

/-- With other search hints a model has the same program but for these. -/
theorem ofModel_strategies (made : ofModel m = .ok p) (vss : List (List Variable)) :
    ∃ hints, ofModel { m with strategies := vss } = .ok { p with hints } := by
  obtain ⟨rules, ruled, rfl⟩ := ofModel_eq_ok.1 made
  exact ⟨_, ofModel_eq_ok.2 ⟨rules, ruled, rfl⟩⟩

end

/-- A program that says of a point what a model says: its rules hold within all domains just where
the checks find every constraint satisfied within all bounds, and its objective has the value of the
model's. It lists the search hints of the model, which are no part of what it says: with others in
their place only the list of hints is another. -/
structure IsExactFor (p : GatedProgram) (m : Model) : Prop where
  closed : p.IsClosed
  admits : ∀ x, p.Admits x ↔ (∀ v ∈ m.vars, v.admits (x v.index) = true) ∧
    ∀ c ∈ m.constraints, c.isSatisfied x.valuation = .ok true
  unposed : m.objective = none → p.objective = none
  objective : ∀ o, m.objective = some o → ∃ terms, p.objective = some (o.sense, terms) ∧
    ∀ x, o.sum.evaluate x.valuation = .ok (termsValue terms x)
  hints : p.hints = m.strategies.map fun vs => vs.map (·.index)
  unhinted : ∀ vss, ∃ hints, ofModel { m with strategies := vss } = .ok { p with hints } ∧
    ∀ x, GatedProgram.Admits { p with hints } x ↔ p.Admits x

/-- **A model that calls build from integers has a program that says what the model says.** -/
theorem ofModel_exact (ops : List Model.Operation) (integral : ∀ op ∈ ops, op.IsIntegral) :
    ∃ p, ofModel (.after {} ops) = .ok p ∧ p.IsExactFor (.after {} ops) := by
  have S := Model.isSound_after ops
  have M := Model.isIntegral_after integral
  obtain ⟨p, made, -, admits, objective⟩ := exists_ofModel (S.plain M)
  rw [ofModel_plain] at made
  refine ⟨p, made, isClosed_of_ofModel S made, ?_, ?_, ?_, hints_of_ofModel S made, ?_⟩
  · intro x
    rw [admits, S.plain_admits_iff M]
  · intro unposed
    obtain ⟨rules, -, rfl⟩ := ofModel_eq_ok.1 made
    simp [relabel, unposed]
  · intro o given
    obtain ⟨sum, whole⟩ := M.objective o given
    have own := S.objective o given
    rw [whole, LinearForm.vars_whole] at own
    obtain ⟨form, sense⟩ := o
    obtain rfl : form = .whole sum := whole
    obtain ⟨terms, same, value⟩ := objective sum sense given own
    refine ⟨terms, same, fun x => ?_⟩
    rw [value, LinearForm.evaluate, WeightedSum.evaluate_valuation]
  · intro vss
    obtain ⟨hints, other⟩ := ofModel_strategies made vss
    exact ⟨hints, other, fun x => ⟨fun A => ⟨A.domains, A.rules⟩, fun A => ⟨A.domains, A.rules⟩⟩⟩

/-- Calls of which two fail: a range that is empty, and a sum over a variable from elsewhere. A gate
is active at a truth value, and a sum without terms forbids a gate. -/
theorem ofModel_exact_gated :
    ∃ ops p, (∀ op ∈ ops, op.IsIntegral) ∧ (Model.after {} ops).constraints.length = 2 ∧
      ofModel (.after {} ops) = .ok p ∧ p.IsExactFor (.after {} ops) := by
  let b : Variable := ⟨⟨0, 0⟩, 0, "b", 0, 1, none⟩
  let x : Variable := ⟨⟨0, 1⟩, 1, "x", -2, 5, none⟩
  let ops : List Model.Operation := [
    .newVariable 0 1 "b",
    .newVariable (-2) 5 "x",
    .newVariable 3 2 "y",
    .add (.whole ⟨[(x, 2), (b, -1), (x, 1)]⟩) (.known .ne) (.int 4) (some ⟨b, .bool false⟩)
      (.text "unless b"),
    .add (.whole ⟨[({ x with origin := ⟨1, 1⟩ }, 1)]⟩) (.known .eq) (.int 0) none (.text "other"),
    .add (.whole ⟨[]⟩) (.known .gt) (.int 0) (some ⟨b, .int 1⟩) (.text "not b"),
    .addStrategy [x, b],
    .setObjective (.whole ⟨[(x, 1), (b, 3)]⟩) (.text "maximize")]
  have integral : ∀ op ∈ ops, op.IsIntegral := by
    simp [ops, Model.Operation.IsIntegral]
  obtain ⟨p, made, exact⟩ := ofModel_exact ops integral
  have recorded : (Model.after {} ops).constraints.length = 2 := by decide +kernel
  exact ⟨ops, p, integral, recorded, made, exact⟩

end GatedProgram

end IntegerProgram
