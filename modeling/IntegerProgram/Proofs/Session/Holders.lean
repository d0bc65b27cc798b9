import IntegerProgram.Proofs.Session.Run

/-!
# Holders of implications

Every implication that a session has accepted has a holder, and the variable of the holder is its
indicator. The values of the variables that the caller has bound determine those of all holders, and
an implication says no more of the caller's variables than that its premise implies its consequence.

## Main definitions

* `Session.implicationsOf`: the accepted implications, in the order of their calls.
* `Session.HoldersSettled`: that implications define their holders and restrict nothing else.

## Main statements

* `Session.Run.holdersSettled`: they do, in every session that calls lead to.
-/
namespace IntegerProgram

/-- The constraints that were recorded for an implication. -/
def Event.implied : Event → List Constraint
  | accepted (.ifThen ..) _ recorded => recorded
  | _ => []

namespace Event

theorem implied_subset (event : Event) : event.implied ⊆ event.recorded := by
  cases event with
  | accepted request answer recorded => cases request <;> simp [implied, Event.recorded]
  | _ => simp [implied]

/-- What was recorded for an event counts if it demands an implication. -/
theorem implied_of_demand {s : Session} {event : Event} {d : Demand}
    (demanded : event.demand s = .ok d) :
    event.implied = if d.implication?.isSome then event.recorded else [] := by
  cases event with
  | accepted request answer recorded =>
    cases request with
    | ifThen premise consequence description =>
      obtain ⟨i, rfl, -⟩ := Request.demand_ifThen description demanded
      rfl
    | bind =>
      obtain rfl := Except.ok.inj demanded
      rfl
    | enforceValue key value =>
      simp only [Event.demand, Request.demand, bind_eq_ok, pure_eq_ok, Except.ok.injEq] at demanded
      obtain ⟨v, -, n, -, rfl⟩ := demanded
      rfl
    | enforce keys coefficients value relation description =>
      simp only [Event.demand, Request.demand, bind_eq_ok, pure_eq_ok, Except.ok.injEq] at demanded
      obtain ⟨r, -, rfl⟩ := demanded
      rfl
  | _ =>
    obtain rfl := Except.ok.inj demanded
    rfl

end Event

namespace Session

/-- What the events of a run demand, read by the registry of a session. -/
def demandsOf (s : Session) (log : List Event) : Except Fault (List Demand) :=
  log.mapM (Event.demand s)

/-- The accepted implications, in the order of their calls. -/
def implicationsOf (s : Session) (log : List Event) : Except Fault (List Implication) := do
  return Demand.implications (← s.demandsOf log)

/-- That given implications define their holders and restrict nothing else, where the variables of
the caller have the values of a point: among the points with these values and zeros and ones for the
indicators, the settled one alone can satisfy what was recorded for the implications, and it does
unless an implication fails there. -/
structure HoldersSettled (s : Session) (log : List Event) (is : List Implication) (x : Point) :
    Prop where
  /-- Settling leaves the variables of the caller as they are. -/
  caller : ∀ v ∈ s.registry.vars, (∀ i ∈ is, i.indicator ≠ v) →
    settle is x v.index = x v.index
  /-- A settled indicator is one where the consequence holds, and zero elsewhere. -/
  truth : ∀ i ∈ is, settle is x i.indicator.index =
    if i.consequence.holds (settle is x) then 1 else 0
  /-- No other point satisfies the constraints of all implications. -/
  unique : ∀ z : Point,
    (∀ v ∈ s.registry.vars, (∀ i ∈ is, i.indicator ≠ v) → z v.index = x v.index) →
    (∀ i ∈ is, z i.indicator.index = 0 ∨ z i.indicator.index = 1) →
    (∀ c ∈ log.flatMap Event.implied, c.isSatisfied z.valuation = .ok true) →
    ∀ v ∈ s.registry.vars, z v.index = settle is x v.index
  /-- The settled point satisfies them if every premise implies its consequence. -/
  exact : (∀ c ∈ log.flatMap Event.implied, c.isSatisfied (settle is x).valuation = .ok true) ↔
    ∀ i ∈ is, i.premise.holds (settle is x) = true → i.consequence.holds (settle is x) = true
  /-- It satisfies those of one call if that premise implies that consequence. -/
  each : ∀ premise consequence description answer recorded,
    Event.accepted (.ifThen premise consequence description) answer recorded ∈ log →
    ∃ i ∈ is, s.registry.resolve (answer.getD .none) = .ok i.indicator ∧
      premise.read s = .ok i.premise ∧ consequence.read s = .ok i.consequence ∧
      ((∀ c ∈ recorded, c.isSatisfied (settle is x).valuation = .ok true) ↔
        (i.premise.holds (settle is x) = true → i.consequence.holds (settle is x) = true))

variable {s : Session} {log : List Event} {ds : List Demand}

/-- The demands of the events are read as they were recorded. -/
theorem Explains.demandsOf (H : s.Explains log ds) : s.demandsOf log = .ok ds :=
  mapM_eq_ok.2 (H.demands.imp fun _ _ h => h.1)

theorem Explains.implicationsOf (H : s.Explains log ds) :
    s.implicationsOf log = .ok (Demand.implications ds) := by
  rw [Session.implicationsOf, H.demandsOf]
  rfl

/-- A constraint that was recorded is one of the model. -/
theorem Explains.isOver (H : s.Explains log ds) {event : Event} (listed : event ∈ log)
    {c : Constraint} (recorded : c ∈ event.recorded) : c.IsOver s.model.vars := by
  apply H.coherent.model.constraints
  rw [H.constraints]
  exact List.mem_flatMap_of_mem listed recorded

/-- What was recorded for implications is over the variables of the model. -/
theorem Explains.isOver_implied (H : s.Explains log ds) :
    ∀ c ∈ log.flatMap Event.implied, c.IsOver s.model.vars := by
  intro c hc
  obtain ⟨event, listed, implied⟩ := List.mem_flatMap.1 hc
  exact H.isOver listed (event.implied_subset implied)

/-- The constraints of one event hold where its implication does, if it is an implication. -/
theorem implied_hold_iff {event : Event} {d : Demand} {z : Point}
    (demanded : event.demand s = .ok d) (recorded : d.IsRecordedAs event.recorded)
    (switch : ∀ i, d.implication? = some i → z i.indicator.index = 0 ∨ z i.indicator.index = 1) :
    (∀ c ∈ event.implied, c.Holds z) ↔
      ∀ i, d.implication? = some i → z i.indicator.index = i.truth z ∧ i.holds z = true := by
  rw [Event.implied_of_demand demanded]
  cases d with
  | implication i =>
    simp only [Demand.implication?, Option.isSome_some, if_true, recorded.hold_iff switch]
    simp [Demand.holds, and_comm]
  | _ => simp [Demand.implication?]

/-- The constraints of all implications hold where these do and their indicators tell the truth. -/
theorem Explains.implied_hold_iff (H : s.Explains log ds) {z : Point}
    (switch : ∀ i ∈ Demand.implications ds,
      z i.indicator.index = 0 ∨ z i.indicator.index = 1) :
    (∀ c ∈ log.flatMap Event.implied, c.isSatisfied z.valuation = .ok true) ↔
      ∀ i ∈ Demand.implications ds, z i.indicator.index = i.truth z ∧ i.holds z = true := by
  have checked : (∀ c ∈ log.flatMap Event.implied, c.isSatisfied z.valuation = .ok true) ↔
      ∀ c ∈ log.flatMap Event.implied, c.Holds z :=
    forall₂_congr fun c hc => (H.isOver_implied c hc).isSatisfied_iff z
  have every : (∀ i ∈ Demand.implications ds,
        z i.indicator.index = i.truth z ∧ i.holds z = true) ↔
      ∀ d ∈ ds, ∀ i, d.implication? = some i →
        z i.indicator.index = i.truth z ∧ i.holds z = true := by
    rw [Demand.implications, List.forall_mem_filterMap]
  rw [checked, List.forall_mem_flatMap, every]
  refine forall_mem_iff_of_forall₂ H.demands fun event _ d hd demand => ?_
  obtain ⟨demanded, recorded⟩ := demand
  exact Session.implied_hold_iff demanded recorded fun i asked =>
    switch i (Demand.mem_implications_of_mem hd asked)

section

variable (H : s.Explains log ds) (x : Point)

include H

/-- Different variables of a session have different indexes. -/
theorem Explains.index_ne {v w : Variable} (hv : v ∈ s.registry.vars) (hw : w ∈ s.registry.vars)
    (other : v ≠ w) : v.index ≠ w.index := by
  rw [H.coherent.inStep] at hv hw
  exact fun same => other (H.coherent.model.eq_of_index_eq hv hw same)

theorem Explains.settle_caller {v : Variable} (hv : v ∈ s.registry.vars)
    (caller : ∀ i ∈ Demand.implications ds, i.indicator ≠ v) :
    settle (Demand.implications ds) x v.index = x v.index :=
  settle_of_notMem fun i hi => H.index_ne (H.covered i hi).indicator hv (caller i hi)

theorem Explains.settle_switch : ∀ i ∈ Demand.implications ds,
    settle (Demand.implications ds) x i.indicator.index = 0 ∨
      settle (Demand.implications ds) x i.indicator.index = 1 := by
  intro i hi
  rw [H.layered.settle_indicator i hi]
  exact i.truth_eq_zero_or_one _

/-- A point that satisfies the constraints of all implications is settled. -/
theorem Explains.eq_settle {z : Point}
    (caller : ∀ v ∈ s.registry.vars, (∀ i ∈ Demand.implications ds, i.indicator ≠ v) →
      z v.index = x v.index)
    (switch : ∀ i ∈ Demand.implications ds, z i.indicator.index = 0 ∨ z i.indicator.index = 1)
    (satisfied : ∀ c ∈ log.flatMap Event.implied, c.isSatisfied z.valuation = .ok true) :
    ∀ v ∈ s.registry.vars, z v.index = settle (Demand.implications ds) x v.index := by
  have truth := (H.implied_hold_iff switch).1 satisfied
  apply eq_of_truth H.layered.own (fun i hi => (H.covered i hi).inputs)
  · intro w hw
    rw [H.coherent.inStep] at hw
    exact (H.coherent.model.index_nonneg hw).1
  · intro w hw other
    have own : ∀ i ∈ Demand.implications ds, i.indicator ≠ w := by
      rintro i hi rfl
      exact other i hi rfl
    rw [caller w hw own, H.settle_caller x hw own]
  · exact fun i hi => (truth i hi).1
  · exact H.layered.settle_indicator

/-- The settled point satisfies the constraints of all implications if these hold there. -/
theorem Explains.settle_satisfies_iff :
    (∀ c ∈ log.flatMap Event.implied,
      c.isSatisfied (settle (Demand.implications ds) x).valuation = .ok true) ↔
      ∀ i ∈ Demand.implications ds, i.holds (settle (Demand.implications ds) x) = true := by
  rw [H.implied_hold_iff (H.settle_switch x)]
  constructor
  · exact fun holds i hi => (holds i hi).2
  · exact fun holds i hi => ⟨H.layered.settle_indicator i hi, holds i hi⟩

/-- The settled point satisfies the constraints of one implication if that holds there. -/
theorem Explains.settle_satisfies_each {premise consequence : ConditionRequest}
    {description : Value} {answer : Option Value} {recorded : List Constraint}
    (listed : .accepted (.ifThen premise consequence description) answer recorded ∈ log) :
    ∃ i ∈ Demand.implications ds, s.registry.resolve (answer.getD .none) = .ok i.indicator ∧
      premise.read s = .ok i.premise ∧ consequence.read s = .ok i.consequence ∧
      ((∀ c ∈ recorded,
          c.isSatisfied (settle (Demand.implications ds) x).valuation = .ok true) ↔
        i.holds (settle (Demand.implications ds) x) = true) := by
  obtain ⟨d, hd, demanded, made⟩ := H.demand_of_mem listed
  obtain ⟨i, rfl, resolved, readP, readE⟩ := Request.demand_ifThen description demanded
  have hi : i ∈ Demand.implications ds := Demand.mem_implications.2 hd
  refine ⟨i, hi, resolved, readP, readE, ?_⟩
  have checked : (∀ c ∈ recorded,
        c.isSatisfied (settle (Demand.implications ds) x).valuation = .ok true) ↔
      ∀ c ∈ recorded, c.Holds (settle (Demand.implications ds) x) :=
    forall₂_congr fun c hc => (H.isOver listed hc).isSatisfied_iff _
  have met : (∀ c ∈ recorded, c.Holds (settle (Demand.implications ds) x)) ↔
      (Demand.implication i).holds (settle (Demand.implications ds) x) = true :=
    made.hold_iff fun _ asked => Option.some.inj asked ▸ H.settle_switch x i hi
  rw [checked, met]
  simp [Demand.holds, H.layered.settle_indicator i hi]

end

/-- **Implications define their holders and restrict nothing else**, in every session that calls
lead to and wherever the variables of the caller are. -/
theorem Run.holdersSettled (run : Run s log) :
    ∃ is, s.implicationsOf log = .ok is ∧ ∀ x, s.HoldersSettled log is x := by
  obtain ⟨ds, H⟩ := run.explained
  refine ⟨Demand.implications ds, H.implicationsOf, fun x => ?_⟩
  refine ⟨?_, H.layered.settle_indicator, ?_, ?_, ?_⟩
  · intro v hv caller
    exact H.settle_caller x hv caller
  · intro z caller switch satisfied
    exact H.eq_settle x caller switch satisfied
  · rw [H.settle_satisfies_iff]
    exact forall₂_congr fun i _ => i.holds_iff
  · intro premise consequence description answer recorded listed
    obtain ⟨i, hi, resolved, readP, readE, met⟩ := H.settle_satisfies_each x listed
    exact ⟨i, hi, resolved, readP, readE, met.trans i.holds_iff⟩

/-- Two implications, of which the second mentions the holder of the first. -/
theorem Run.holdersSettled_nested :
    ∃ s log is, Run s log ∧ s.implicationsOf log = .ok is ∧ is.length = 2 ∧
      s.HoldersSettled log is fun _ => 2 := by
  have new : Run { config := {} } [] := .new (show Session.new {} = .ok _ from rfl)
  have bound := new.next (.bind (.text "a") (.int 0) (.int 3) (.text "a")) none
    (by simp [Request.IsPossible, Value.key?]) rfl
  have first := bound.next
    (.ifThen ⟨[.text "a"], [.int 1], .int 2, .relation .gte⟩
      ⟨[.text "a"], [.int 1], .int 1, .relation .gt⟩ (.text "first"))
    (some (.holder 1 (.text "first"))) trivial rfl
  have second := first.next
    (.ifThen ⟨[.holder 1 (.text "first")], [.int 1], .int 1, .relation .eq⟩
      ⟨[.text "a"], [.int 1], .int 3, .relation .lt⟩ (.text "second"))
    (some (.holder 2 (.text "second"))) trivial rfl
  obtain ⟨is, read, settled⟩ := second.holdersSettled
  have two : Except.ok 2 = Except.ok is.length := congrArg (Except.map List.length) read
  exact ⟨_, _, is, second, read, (Except.ok.inj two).symm, settled _⟩

end Session

end IntegerProgram
