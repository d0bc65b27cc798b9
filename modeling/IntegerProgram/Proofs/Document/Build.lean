import IntegerProgram.Proofs.Document
import IntegerProgram.Proofs.Document.Replay
import IntegerProgram.Proofs.Implication.Exact
import IntegerProgram.Proofs.Session.Solution

/-!
# Documents and their sessions

A document says something of values for its keys: the fixed ones are given, the relations hold, and
each implication has a holder that tells whether its consequence holds. The session of a document
says just that. A document has no session only if the first declaration of a key has its bounds in
the wrong order, or something else mentions a key that is not declared.

## Main definitions

* `Document.IsMetBy`: what a document says of values.
* `Document.IsReplayedTo`: a session that lists what a document declares and says what it says.

## Main statements

* `Document.build_replays`: a document is built into such a session, or refused for its first fault.
-/
namespace IntegerProgram

namespace Document

/-! ## What a document says -/

/-- The value of terms, where each key has a value. -/
def totalOf (terms : List (String × Int)) (a : Value → Int) : Int :=
  (terms.map fun t => t.2 * a (.text t.1)).sum

/-- What a relation says of values. -/
def RelationEntry.IsMetBy (r : RelationEntry) (a : Value → Int) : Prop :=
  r.relation.Relates (totalOf r.terms a) r.rhs

/-- What a document with the given holders for its implications says of values. -/
structure IsMetBy (d : Document) (holders : List Value) (a : Value → Int) : Prop where
  fixed : ∀ f ∈ d.fixed, a (.text f.1) = f.2
  constraints : ∀ c ∈ d.constraints, c.IsMetBy a
  implications : ∀ i ∈ d.implications.zip holders,
    (a i.2 = 1 ↔ i.1.consequence.IsMetBy a) ∧ (i.1.condition.IsMetBy a → a i.2 = 1)

end Document

namespace Session

open Document

variable {s t : Session} {log : List Event} {ds : List Demand} {requests : List Request}
  {answers : List (Option Value)} {answer : Option Value} {recorded : List Constraint}
  {names : List String} {x : Point}

/-! ## What its session says -/

/-- Requests that are accepted one after the other are events of a run. -/
theorem Run.performs (run : Run s log) (possible : ∀ r ∈ requests, ∀ u, r.IsPossible u)
    (ran : (requests.mapM Request.perform).on s = (.ok answers, t)) :
    ∃ more, Run t (log ++ more) ∧ List.Forall₂
      (fun made event => ∃ recorded, event = Event.accepted made.1 made.2 recorded)
      (requests.zip answers) more := by
  induction requests generalizing s log answers with
  | nil =>
    obtain ⟨-, rfl⟩ := Prod.mk.inj ran
    exact ⟨[], by rwa [List.append_nil], .nil⟩
  | cons request requests ih =>
    rw [List.forall_mem_cons] at possible
    rw [List.mapM_cons] at ran
    obtain ⟨answer, u, first, ran⟩ := Attempt.on_bind_eq_ok ran
    obtain ⟨rest, w, others, ran⟩ := Attempt.on_bind_eq_ok ran
    obtain ⟨same, rfl⟩ := Prod.mk.inj ran
    obtain rfl := Except.ok.inj same
    obtain ⟨more, run, made⟩ := ih (run.accept (possible.1 s) first) possible.2 others
    rw [List.append_assoc] at run
    exact ⟨_, run, .cons ⟨_, rfl⟩ made⟩

/-- The value of a key at a point. -/
def valueAt (s : Session) (x : Point) (key : Value) : Int := x (s.variableOf key).index

theorem value_weigh (s : Session) (x : Point) (terms : List (String × Int)) :
    (s.weigh terms).value x = totalOf terms (s.valueAt x) := by
  induction terms with
  | nil => rfl
  | cons t terms ih =>
    have first : (s.weigh (t :: terms)).value x =
        t.2 * s.valueAt x (.text t.1) + (s.weigh terms).value x := rfl
    rw [first, ih, totalOf, totalOf, List.map_cons, List.sum_cons]

theorem isMetAt_stated (s : Session) (x : Point) (r : RelationEntry) :
    (s.stated r).IsMetAt x ↔ r.IsMetBy (s.valueAt x) := by
  rw [LinearRelation.IsMetAt, RelationEntry.IsMetBy, ← value_weigh]
  rfl

/-- A fixed value is met where its key has it. -/
theorem Knows.fixed_isMetAt (K : s.Knows names) {f : String × Int} (declared : f.1 ∈ names) :
    (Event.accepted (fixedRequest f) answer recorded).isMetAt s x = .ok true ↔
      s.valueAt x (.text f.1) = f.2 := by
  simp [Event.isMetAt, Event.demand, Request.demand, fixedRequest, K.resolve_eq_ok declared,
    Value.asInteger, Demand.holds, LinearRelation.holds_iff, LinearRelation.IsMetAt,
    Relation.Relates, valueAt]

/-- A constraint is met where its relation holds. -/
theorem Knows.relation_isMetAt (K : s.Knows names) {c : RelationEntry}
    (declared : undeclared names c.keys = []) :
    (Event.accepted c.request answer recorded).isMetAt s x = .ok true ↔
      c.IsMetBy (s.valueAt x) := by
  have read : ConditionRequest.read s ⟨keysOf c.terms, coefficientsOf c.terms, .int c.rhs,
      .relation c.relation⟩ = .ok (s.stated c) := K.read_eq_ok declared
  simp [Event.isMetAt, Event.demand, Request.demand, RelationEntry.request, read, Demand.holds,
    LinearRelation.holds_iff, isMetAt_stated]

/-- An implication is met where its holder tells whether the consequence holds, and is one where the
condition does. -/
theorem Explains.implication_isMetAt (H : s.Explains log ds) (K : s.Knows names)
    (bounds : ∀ v ∈ s.registry.vars, v.lower ≤ x v.index ∧ x v.index ≤ v.upper)
    {i : ImplicationEntry} {holder : Value}
    (listed : .accepted i.request (some holder) recorded ∈ log)
    (declared : undeclared names i.keys = []) :
    (Event.accepted i.request (some holder) recorded).isMetAt s x = .ok true ↔
      (s.valueAt x holder = 1 ↔ i.consequence.IsMetBy (s.valueAt x)) ∧
        (i.condition.IsMetBy (s.valueAt x) → s.valueAt x holder = 1) := by
  rw [ImplicationEntry.keys, undeclared_append, List.append_eq_nil_iff] at declared
  obtain ⟨d, hd, demanded, -⟩ := H.demand_of_mem listed
  have met : (Event.accepted i.request (some holder) recorded).isMetAt s x = .ok true ↔
      d.holds x = true := by
    simp [Event.isMetAt, demanded]
  obtain ⟨j, rfl, resolved, readP, readE⟩ :=
    Request.demand_ifThen (.text i.description) demanded
  have condition : s.stated i.condition = j.premise :=
    Except.ok.inj ((K.read_eq_ok declared.1).symm.trans readP)
  have consequence : s.stated i.consequence = j.consequence :=
    Except.ok.inj ((K.read_eq_ok declared.2).symm.trans readE)
  have value : s.valueAt x holder = x j.indicator.index := by
    rw [valueAt, variableOf, show s.registry.resolve holder = .ok j.indicator from resolved]
    rfl
  have switch := H.switch_of_bounds bounds j (Demand.mem_implications.2 hd)
  rw [met, value, ← isMetAt_stated, ← isMetAt_stated, condition, consequence, Demand.holds,
    Bool.and_eq_true, decide_eq_true_eq, Implication.holds_iff, LinearRelation.holds_iff,
    LinearRelation.holds_iff, ← Implication.truth_eq_one_iff]
  rcases switch with off | on
  · rcases j.truth_eq_zero_or_one x with told | told <;> simp [off, told]
  · rcases j.truth_eq_zero_or_one x with told | told <;> simp [on, told]

end Session

namespace Document

variable {d : Document} {config : Config} {s t : Session} {x : Point} {log : List Event}
  {ds : List Demand}

/-- The requests of a document with their answers. -/
theorem zip_answers (d : Document) :
    d.requests.zip d.answers = (d.vars.map fun v => (v.request, none)) ++
      ((d.fixed.map fun f => (fixedRequest f, none)) ++
        ((d.constraints.map fun c => (c.request, none)) ++
          (d.implications.zip d.holders).map fun i => (i.1.request, some i.2))) := by
  rw [requests_eq, answers, List.zip_append (by simp), List.zip_append (by simp),
    List.zip_append (by simp), List.zip_map', List.zip_map', List.zip_map', List.zip_map]
  rfl

/-- An implication of a document has been accepted and answered with its holder. -/
theorem exists_accepted
    (made : List.Forall₂
      (fun made event => ∃ recorded, event = Event.accepted made.1 made.2 recorded)
      (d.requests.zip d.answers) log)
    {i : ImplicationEntry × Value} (hi : i ∈ d.implications.zip d.holders) :
    ∃ recorded, .accepted i.1.request (some i.2) recorded ∈ log := by
  have asked : (i.1.request, some i.2) ∈ d.requests.zip d.answers := by
    rw [zip_answers]
    simp only [List.mem_append]
    exact .inr (.inr (.inr (List.mem_map_of_mem hi)))
  obtain ⟨event, listed, recorded, rfl⟩ := exists_mem_of_forall₂ made _ asked
  exact ⟨recorded, listed⟩

/-- The events of a document are met where it is. -/
theorem isMetBy_iff (H : s.Explains log ds) (K : s.Knows (d.vars.map (·.key)))
    (fine : undeclared (d.vars.map (·.key)) d.mentioned = [])
    (made : List.Forall₂
      (fun made event => ∃ recorded, event = Event.accepted made.1 made.2 recorded)
      (d.requests.zip d.answers) log)
    (bounds : ∀ v ∈ s.registry.vars, v.lower ≤ x v.index ∧ x v.index ≤ v.upper) :
    (∀ event ∈ log, event.isMetAt s x = .ok true) ↔ d.IsMetBy d.holders (s.valueAt x) := by
  -- whether an event is met does not depend on what it has recorded
  have events : (∀ made ∈ d.requests.zip d.answers,
      (Event.accepted made.1 made.2 []).isMetAt s x = .ok true) ↔
        ∀ event ∈ log, event.isMetAt s x = .ok true := by
    apply forall_mem_iff_of_forall₂ made
    rintro p hp event he ⟨recorded, rfl⟩
    rfl
  simp only [mentioned, undeclared_append, List.append_eq_nil_iff, undeclared_eq_nil,
    List.forall_mem_map, List.forall_mem_flatMap] at fine
  obtain ⟨fixed, constraints, implications⟩ := fine
  have valued : ∀ f ∈ d.fixed, ((Event.accepted (fixedRequest f) none []).isMetAt s x = .ok true ↔
      s.valueAt x (.text f.1) = f.2) :=
    fun f hf => K.fixed_isMetAt (fixed f hf)
  have related : ∀ c ∈ d.constraints, ((Event.accepted c.request none []).isMetAt s x = .ok true ↔
      c.IsMetBy (s.valueAt x)) :=
    fun c hc => K.relation_isMetAt (undeclared_eq_nil.2 (constraints c hc))
  have implied : ∀ i ∈ d.implications.zip d.holders,
      ((Event.accepted i.1.request (some i.2) []).isMetAt s x = .ok true ↔
        (s.valueAt x i.2 = 1 ↔ i.1.consequence.IsMetBy (s.valueAt x)) ∧
          (i.1.condition.IsMetBy (s.valueAt x) → s.valueAt x i.2 = 1)) := by
    intro i hi
    obtain ⟨recorded, listed⟩ := exists_accepted made hi
    have declared := undeclared_eq_nil.2 (implications i.1 (List.of_mem_zip hi).1)
    have met := H.implication_isMetAt K bounds listed declared
    exact met
  rw [← events, zip_answers]
  simp only [List.forall_mem_append, List.forall_mem_map]
  rw [forall₂_congr valued, forall₂_congr related, forall₂_congr implied]
  constructor
  · rintro ⟨-, fixed, constraints, implications⟩
    exact ⟨fixed, constraints, implications⟩
  · rintro ⟨fixed, constraints, implications⟩
    exact ⟨fun v _ => rfl, fixed, constraints, implications⟩

/-! ## The replay -/

/-- Whether the bounds of a first declaration are in the wrong order. -/
def HasInversion (d : Document) : Prop := ∃ v, IsFirst d.vars v ∧ v.maximum < v.minimum

/-- Whether an entry mentions a key that is not declared. -/
def MentionsUndeclared (d : Document) : Prop := ∃ key ∈ d.mentioned, ∀ v ∈ d.vars, v.key ≠ key

/-- Whether an integer has more digits than can be written. -/
def IsUnwritable (n : Int) : Prop := Obstacle.ofInt? n ≠ none

/-- Whether an entry after the declarations names its constraint by a number that has more digits
than can be written: a fixed value, or a coefficient of a constraint that has no description. -/
def HasUnwrittenEntry (d : Document) : Prop :=
  (∃ f ∈ d.fixed, IsUnwritable f.2) ∨
    ∃ c ∈ d.constraints, c.description = "" ∧ ∃ t ∈ c.terms, IsUnwritable t.2

/-- Whether a replay comes to a number that has more digits than can be written: that of an entry,
or a bound of a first declaration whose bounds are in the wrong order. -/
def HasUnwritten (d : Document) : Prop :=
  (∃ v, IsFirst d.vars v ∧ v.maximum < v.minimum ∧
    (IsUnwritable v.minimum ∨ IsUnwritable v.maximum)) ∨ d.HasUnwrittenEntry

theorem inversions_eq_nil :
    (firsts d.vars).flatMap VariableEntry.faults = [] ↔ ¬d.HasInversion := by
  simp [List.flatMap_eq_nil_iff, mem_firsts, VariableEntry.faults, HasInversion]

theorem undeclared_mentioned_eq_nil :
    undeclared (d.vars.map (·.key)) d.mentioned = [] ↔ ¬d.MentionsUndeclared := by
  simp [undeclared_eq_nil, MentionsUndeclared]

/-- The name of a constraint is unwritable just if it is a sum with such a coefficient. -/
theorem RelationEntry.nameObstacle?_eq_none {c : RelationEntry} :
    c.nameObstacle? = none ↔ ¬(c.description = "" ∧ ∃ t ∈ c.terms, IsUnwritable t.2) := by
  rw [nameObstacle?]
  split
  · next unnamed => simp [unnamed, List.findSome?_eq_none_iff, IsUnwritable]
  · next named => simp [named]

theorem not_hasUnwrittenEntry :
    ¬d.HasUnwrittenEntry ↔ (∀ f ∈ d.fixed, Obstacle.ofInt? f.2 = none) ∧
      ∀ c ∈ d.constraints, c.nameObstacle? = none := by
  simp only [HasUnwrittenEntry, not_or, RelationEntry.nameObstacle?_eq_none, IsUnwritable]
  simp only [not_exists, not_and, ne_eq, not_not]

/-- What is wrong after the declarations: keys that are not declared, and what cannot be written. -/
theorem entries_eq_nil :
    d.fixed.flatMap (fixedFaults (d.vars.map (·.key))) ++
        (d.constraints.flatMap (RelationEntry.faults (d.vars.map (·.key))) ++
          undeclared (d.vars.map (·.key)) (d.implications.flatMap ImplicationEntry.keys)) = [] ↔
      ¬d.MentionsUndeclared ∧ ¬d.HasUnwrittenEntry := by
  rw [← undeclared_mentioned_eq_nil, not_hasUnwrittenEntry]
  simp only [mentioned, undeclared_append, List.append_eq_nil_iff, List.flatMap_eq_nil_iff,
    fixedFaults, RelationEntry.faults, Option.toList_eq_nil_iff, Option.map_eq_none_iff, forall_and,
    undeclared_eq_nil, List.forall_mem_map, List.forall_mem_flatMap, List.forall_mem_singleton]
  constructor
  · rintro ⟨⟨fixed, values⟩, ⟨constraints, named⟩, implications⟩
    exact ⟨⟨fixed, constraints, implications⟩, values, named⟩
  · rintro ⟨⟨fixed, constraints, implications⟩, values, named⟩
    exact ⟨⟨fixed, values⟩, ⟨constraints, named⟩, implications⟩

theorem faults_eq_nil :
    d.faults = [] ↔ ¬(d.HasInversion ∨ d.MentionsUndeclared ∨ d.HasUnwritten) := by
  rw [faults, List.append_eq_nil_iff, inversions_eq_nil, entries_eq_nil, not_or, not_or]
  refine and_congr_right fun ordered => and_congr_right fun _ => not_congr ?_
  rw [HasUnwritten, or_iff_right]
  rintro ⟨v, first, inverted, -⟩
  exact ordered ⟨v, first, inverted⟩

theorem mem_undeclared {names keys : List String} {fault : Fault} :
    fault ∈ undeclared names keys ↔
      ∃ key ∈ keys, key ∉ names ∧ .unknownKey (.text key) = fault := by
  simp [undeclared, and_assoc]

/-- An integer that cannot be written has too many digits. -/
theorem mem_ofInt?_fault {n : Int} {fault : Fault} :
    fault ∈ ((Obstacle.ofInt? n).map Obstacle.fault).toList ↔
      fault = .tooManyDigits ∧ IsUnwritable n := by
  rw [IsUnwritable]
  cases unwritable : Obstacle.ofInt? n with
  | none => simp
  | some o =>
    obtain rfl := Obstacle.ofInt?_eq_some unwritable
    simp [Obstacle.fault, eq_comm]

/-- A constraint whose name cannot be written has a number with too many digits. -/
theorem RelationEntry.mem_nameObstacle?_fault {c : RelationEntry} {fault : Fault}
    (faulty : fault ∈ (c.nameObstacle?.map Obstacle.fault).toList) :
    fault = .tooManyDigits ∧ c.description = "" ∧ ∃ t ∈ c.terms, IsUnwritable t.2 := by
  cases obstacle : c.nameObstacle? with
  | none => simp [obstacle] at faulty
  | some o =>
    have unwritable : ¬c.nameObstacle? = none := by simp [obstacle]
    rw [nameObstacle?_eq_none, not_not] at unwritable
    rw [nameObstacle?, if_pos unwritable.1] at obstacle
    obtain ⟨t, -, unwritten⟩ := List.exists_of_findSome?_eq_some obstacle
    obtain rfl := Obstacle.ofInt?_eq_some unwritten
    simp only [nameObstacle?, if_pos unwritable.1, obstacle] at faulty
    exact ⟨List.mem_singleton.1 faulty, unwritable⟩

/-- Bounds in the wrong order are a fault of configuration, if they can be written. -/
theorem VariableEntry.kind_of_mem_faults {v : VariableEntry} {fault : Fault}
    (faulty : fault ∈ v.faults) : v.maximum < v.minimum ∧ (fault.kind = .configuration ∨
      fault = .tooManyDigits ∧ (IsUnwritable v.minimum ∨ IsUnwritable v.maximum)) := by
  rw [faults] at faulty
  split at faulty
  · next inverted =>
    obtain rfl := List.mem_singleton.1 faulty
    refine ⟨inverted, ?_⟩
    have parts : (Fault.invertedRange v.minimum v.maximum (.text v.description)).obstacle? =
        (Obstacle.ofInt? v.minimum <|> Obstacle.ofInt? v.maximum) := by
      simp [Fault.obstacle?]
    cases low : Obstacle.ofInt? v.minimum with
    | some o =>
      rw [Fault.raised_of_some (by rw [parts, low]; rfl), Obstacle.ofInt?_eq_some low]
      exact .inr ⟨rfl, .inl (by simp [IsUnwritable, low])⟩
    | none =>
      cases high : Obstacle.ofInt? v.maximum with
      | some o =>
        rw [Fault.raised_of_some (by rw [parts, low, high]; rfl), Obstacle.ofInt?_eq_some high]
        exact .inr ⟨rfl, .inr (by simp [IsUnwritable, high])⟩
      | none =>
        rw [Fault.raised_of_none (by rw [parts, low, high]; rfl)]
        exact .inl rfl
  · simp at faulty

/-- What is wrong with an entry after the declarations: it mentions a key that is not declared, or
names its constraint by what cannot be written. -/
theorem kind_of_mem_entries {fault : Fault}
    (faulty : fault ∈ d.fixed.flatMap (fixedFaults (d.vars.map (·.key))) ++
      (d.constraints.flatMap (RelationEntry.faults (d.vars.map (·.key))) ++
        undeclared (d.vars.map (·.key)) (d.implications.flatMap ImplicationEntry.keys))) :
    fault.kind = .notFound ∧ d.MentionsUndeclared ∨
      fault = .tooManyDigits ∧ d.HasUnwrittenEntry := by
  have missing {keys : List String} (among : ∀ key ∈ keys, key ∈ d.mentioned)
      (faulty : fault ∈ undeclared (d.vars.map (·.key)) keys) :
      fault.kind = .notFound ∧ d.MentionsUndeclared := by
    obtain ⟨key, hkey, undeclared, rfl⟩ := mem_undeclared.1 faulty
    exact ⟨rfl, key, among key hkey, by simpa using undeclared⟩
  simp only [List.mem_append, List.mem_flatMap, fixedFaults, RelationEntry.faults] at faulty
  rcases faulty with ⟨f, hf, faulty | faulty⟩ | ⟨c, hc, faulty | faulty⟩ | faulty
  · refine .inl (missing ?_ faulty)
    simpa [mentioned] using Or.inl ⟨_, hf⟩
  · obtain ⟨rfl, unwritable⟩ := mem_ofInt?_fault.1 faulty
    exact .inr ⟨rfl, .inl ⟨f, hf, unwritable⟩⟩
  · refine .inl (missing ?_ faulty)
    exact fun key hkey => List.mem_append_right _ (List.mem_append_left _
      (List.mem_flatMap.2 ⟨c, hc, hkey⟩))
  · obtain ⟨rfl, unwritable⟩ := c.mem_nameObstacle?_fault faulty
    exact .inr ⟨rfl, .inr ⟨c, hc, unwritable⟩⟩
  · refine .inl (missing ?_ faulty)
    exact fun key hkey => List.mem_append_right _ (List.mem_append_right _ hkey)

/-- The first fault is one of configuration if bounds are in the wrong order, and otherwise it is
that something is not found, or cannot be written. -/
theorem kind_of_head?_faults {fault : Fault} (first : d.faults.head? = some fault) :
    fault.kind = .configuration ∧ d.HasInversion ∨
      fault.kind = .notFound ∧ d.MentionsUndeclared ∧ ¬d.HasInversion ∨
      fault = .tooManyDigits ∧ d.HasUnwritten := by
  rw [← inversions_eq_nil]
  rw [faults] at first
  cases inversions : (firsts d.vars).flatMap VariableEntry.faults with
  | nil =>
    rw [inversions, List.nil_append] at first
    rcases kind_of_mem_entries (List.mem_of_head? first) with ⟨kind, undeclared⟩ | ⟨rfl, unwritten⟩
    · exact .inr (.inl ⟨kind, undeclared, rfl⟩)
    · exact .inr (.inr ⟨rfl, .inr unwritten⟩)
  | cons fault' faults =>
    rw [inversions, List.cons_append, List.head?_cons, Option.some.injEq] at first
    have listed : fault ∈ (firsts d.vars).flatMap VariableEntry.faults := by
      rw [inversions, first]
      exact List.mem_cons_self
    obtain ⟨v, hv, faulty⟩ := List.mem_flatMap.1 listed
    obtain ⟨inverted, kind | ⟨rfl, unwritable⟩⟩ := v.kind_of_mem_faults faulty
    · exact .inl ⟨kind, v, mem_firsts.1 hv, inverted⟩
    · exact .inr (.inr ⟨rfl, .inl ⟨v, mem_firsts.1 hv, inverted, unwritable⟩⟩)

/-- A session that lists what a document declares and says what it says. -/
structure IsReplayedTo (d : Document) (s : Session) (holders : List Value) : Prop where
  /-- The first declarations are listed with their names and bounds, and after them the holders. -/
  listing : s.registry.listing =
    (firsts d.vars).map VariableEntry.listing ++ listingsFrom 1 d.implications
  /-- Each key is resolved to the variable that it is listed with. -/
  resolved : ∀ e ∈ s.registry.entries, s.registry.resolve e.1 = .ok e.2
  /-- There are no other variables. -/
  table : s.model.vars = s.registry.vars
  /-- The holders are returned. -/
  returned : holders = (listingsFrom 1 d.implications).map (·.key)
  /-- They are numbered from one in the order of the document. -/
  numbered : ∀ (n : Nat) i, d.implications[n]? = some i →
    holders[n]? = some (.holder (n + 1) (.text i.description))
  /-- Values within the bounds satisfy the constraints just if the document is met. -/
  exact : ∀ (values : Valuation) (x : Point), values.IsAt x s.model.vars →
    x.IsWithin s.model.vars →
    ((∀ c ∈ s.model.constraints, c.isSatisfied values = .ok true) ↔
      d.IsMetBy holders (s.valueAt x))

/-- Where the replay of a document leads to. -/
theorem isReplayedTo_of_build (fine : d.faults = []) (made : Session.new config = .ok s)
    (ran : (d.requests.mapM Request.perform).on s = (.ok d.answers, t))
    (built : d.build config = .ok (t, d.holders)) : d.IsReplayedTo t d.holders := by
  obtain ⟨-, gained⟩ := gains_of_build built
  obtain rfl := eq_of_new made
  obtain ⟨log, run, events⟩ := (Session.Run.new made).performs d.isPossible_requests ran
  obtain ⟨ds, H⟩ := run.explained
  rw [List.nil_append] at H
  have declared := (not_or.1 (not_or.1 (faults_eq_nil.1 fine)).2).1
  refine ⟨listing_of_build built, fun e => resolve_of_build built, H.coherent.inStep.symm,
    ?_, ?_, ?_⟩
  · rw [holders, holdersFrom, listingsFrom, List.map_map]
    rfl
  · intro n i here
    rw [holders, holdersFrom, List.getElem?_map, List.getElem?_zipIdx, here, Nat.add_comm]
    rfl
  · intro values x at_ within
    have bounds : ∀ v ∈ t.registry.vars, v.lower ≤ x v.index ∧ x v.index ≤ v.upper := by
      rw [H.coherent.inStep]
      simpa [Point.IsWithin, Variable.admits] using within
    have satisfied : (∀ c ∈ t.model.constraints, c.isSatisfied values = .ok true) ↔
        ∀ c ∈ t.model.constraints, c.Holds x := by
      refine forall₂_congr fun c hc => ?_
      have covered := H.coherent.model.constraints c hc
      rw [covered.isSatisfied_congr at_, covered.isSatisfied_iff]
    rw [satisfied, H.hold_iff (H.switch_of_bounds bounds)]
    exact isMetBy_iff H (knows_of_gains (knows_new made) gained)
      (undeclared_mentioned_eq_nil.2 declared) events bounds

/-- **A document is replayed as it stands.** Under valid settings it is refused just if the bounds
of a first declaration are in the wrong order, an entry mentions a key that is not declared, or the
replay comes to a number that cannot be written, for the first of its faults; otherwise its session
lists what it declares and says what it says. -/
theorem build_replays (d : Document) (valid : config.validate = .ok config) :
    ((∃ fault, d.build config = .error fault) ↔
      d.HasInversion ∨ d.MentionsUndeclared ∨ d.HasUnwritten) ∧
      (∀ fault, d.build config = .error fault → d.faults.head? = some fault ∧
        (fault.kind = .configuration ∧ d.HasInversion ∨
          fault.kind = .notFound ∧ d.MentionsUndeclared ∧ ¬d.HasInversion ∨
          fault = .tooManyDigits ∧ d.HasUnwritten)) ∧
      ∀ s holders, d.build config = .ok (s, holders) → d.IsReplayedTo s holders := by
  have made : Session.new config = .ok { config } := by rw [Session.new, valid]; rfl
  rcases d.build_cases made with ⟨fault, faults, all, refused⟩ | ⟨none_, t, ran, -, built⟩
  · have faulty : d.HasInversion ∨ d.MentionsUndeclared ∨ d.HasUnwritten := by
      by_contra fine
      simp [faults_eq_nil.2 fine] at all
    refine ⟨iff_of_true ⟨fault, refused⟩ faulty, ?_, ?_⟩
    · intro fault' same
      obtain rfl := Except.error.inj (refused.symm.trans same)
      have first : d.faults.head? = some fault := by rw [all, List.head?_cons]
      exact ⟨first, kind_of_head?_faults first⟩
    · intro s holders same
      simp [refused] at same
  · have fine := faults_eq_nil.1 none_
    refine ⟨iff_of_false (by simp [built]) fine, by simp [built], ?_⟩
    intro s holders same
    obtain ⟨rfl, rfl⟩ := Prod.mk.inj (Except.ok.inj (built.symm.trans same))
    exact isReplayedTo_of_build none_ made ran built

/-- A document that declares a key twice, the second time with bounds in the wrong order, and has
two implications of one description. It is refused if the second of them mentions another key. -/
def repetitive (key : String) : Document where
  vars := [⟨"x", 0, 5, "first"⟩, ⟨"y", 0, 5, "y"⟩, ⟨"x", 3, 2, "second"⟩]
  fixed := [("y", 7)]
  constraints := [⟨[("x", 1), ("x", 1)], .lte, 4, "twice"⟩, ⟨[], .eq, 0, ""⟩]
  implications := [⟨⟨[("x", 1)], .gte, 1, ""⟩, ⟨[("y", 1)], .lt, 2, ""⟩, "shared"⟩,
    ⟨⟨[("x", 1)], .gt, 1, ""⟩, ⟨[(key, 1)], .eq, 0, ""⟩, "shared"⟩]
  sense := .minimize
  objective := []

/-- The first declaration counts, each implication has a holder of its own, and the key that is not
declared is what a replay is refused for. -/
theorem build_replays_repetitive :
    ∃ (s : Session) (holders : List Value) (fault : Fault),
      (repetitive "y").build {} = .ok (s, holders) ∧ (repetitive "y").IsReplayedTo s holders ∧
      s.registry.listing = [⟨.text "x", "first", 0, 5⟩, ⟨.text "y", "y", 0, 5⟩,
        ⟨.holder 1 (.text "shared"), "shared", 0, 1⟩,
        ⟨.holder 2 (.text "shared"), "shared", 0, 1⟩] ∧
      (repetitive "z").build {} = .error fault ∧ fault = .unknownKey (.text "z") := by
  have valid : ({} : Config).validate = .ok {} := rfl
  obtain ⟨raised, -, replayed⟩ := build_replays (repetitive "y") valid
  obtain ⟨raised', first, -⟩ := build_replays (repetitive "z") valid
  have fine : (repetitive "y").faults = [] := by decide +kernel
  have undeclared : (repetitive "z").MentionsUndeclared := ⟨"z", by decide, by decide⟩
  obtain ⟨fault, refused⟩ := raised'.2 (.inr (.inl undeclared))
  -- nothing is wrong before the implications
  have before : ((repetitive "z").constraints.flatMap (RelationEntry.faults ["x", "y", "x"])) = [] ∧
      ((repetitive "z").fixed.flatMap (fixedFaults ["x", "y", "x"])) = [] := by decide +kernel
  have blamed : (repetitive "z").faults.head? = some (.unknownKey (.text "z")) := by
    change List.head? (_ ++ ((repetitive "z").fixed.flatMap (fixedFaults ["x", "y", "x"]) ++
      ((repetitive "z").constraints.flatMap (RelationEntry.faults ["x", "y", "x"]) ++ _))) = _
    rw [before.1, before.2]
    rfl
  have same := Option.some.inj ((first fault refused).1.symm.trans blamed)
  cases built : (repetitive "y").build {} with
  | error fault' => exact absurd (raised.1 ⟨fault', built⟩) (faults_eq_nil.1 fine)
  | ok made =>
    obtain ⟨s, holders⟩ := made
    have replayed := replayed s holders built
    refine ⟨s, holders, fault, rfl, replayed, ?_, refused, same⟩
    rw [replayed.listing]
    rfl

/-- A document with one key, which has a fixed value and a multiple that is not to be negative. -/
def weighted (value multiple : Int) : Document where
  vars := [⟨"x", 0, 1, "x"⟩]
  fixed := [("x", value)]
  constraints := [⟨[("x", multiple)], .gte, 0, "c"⟩]
  implications := []
  sense := .minimize
  objective := []

theorem exists_ofJson_weighted (value multiple : Int) :
    ∃ j, ofJson j "" = .ok (weighted value multiple) := by
  have word : "minimize".toLower = "minimize" := by decide +kernel
  have sense : senseOf? "minimize" = some .minimize := by decide +kernel
  have symbol : Relation.ofText? ">=" = some .gte := by decide +kernel
  have relation : (Value.text ">=").asRelation = .ok .gte := by simp [Value.asRelation, symbol]
  refine ⟨.object [
    ("variables", .array [.object [("key", .string "x"), ("min", .int 0), ("max", .int 1)]]),
    ("fixed", .array [.object [("key", .string "x"), ("value", .int value)]]),
    ("constraints", .array [.object [("terms", .object [("x", .int multiple)]),
      ("relation", .string ">="), ("rhs", .int 0), ("description", .string "c")]]),
    ("objective", .object [("terms", .object [])])], ?_⟩
  simp [weighted, ofJson, readSection, itemsOf, Json.member?, require, readVariable, readFixed,
    readRelation, readInteger, readTerms, pairsOf, readSense, textMember, word, sense, relation,
    Json.toValue, List.zipIdx]

/-- A document is also refused for a fixed value that cannot be written. And a constraint that holds
for integers may not be told to be satisfied by the same values as doubles. -/
theorem not_build_replays :
    (∃ (d : Document) (fault : Fault), (∃ j, ofJson j "" = .ok d) ∧ ¬d.HasInversion ∧
      ¬d.MentionsUndeclared ∧ d.build {} = .error fault ∧ fault.kind = .badValue) ∧
    ∃ (d : Document) (s : Session) (values : Valuation) (fault : Fault),
      (∃ j, ofJson j "" = .ok d) ∧ d.build {} = .ok (s, d.holders) ∧
      (∀ i, values i = some (.float (.ofInt 1))) ∧ s.model.outOfBounds values = .ok [] ∧
      d.IsMetBy d.holders (fun _ => 1) ∧
      (∃ c ∈ s.model.constraints, c.isSatisfied values = .error fault) ∧
      fault.kind = .overflow := by
  have valid : ({} : Config).validate = .ok {} := rfl
  constructor
  · obtain ⟨n, unwritable⟩ := Obstacle.exists_ofInt?
    have ordered : ¬(weighted n 1).HasInversion := inversions_eq_nil.1 rfl
    have declared : ¬(weighted n 1).MentionsUndeclared := undeclared_mentioned_eq_nil.1 rfl
    have unwritten : (weighted n 1).HasUnwritten := by
      refine .inr (.inl ⟨("x", n), List.mem_singleton_self _, ?_⟩)
      simp [IsUnwritable, unwritable]
    obtain ⟨raised, blamed, -⟩ := build_replays (weighted n 1) valid
    obtain ⟨fault, refused⟩ := raised.2 (.inr (.inr unwritten))
    refine ⟨_, fault, exists_ofJson_weighted n 1, ordered, declared, refused, ?_⟩
    rcases (blamed fault refused).2 with ⟨-, inverted⟩ | ⟨-, undeclared, -⟩ | ⟨rfl, -⟩
    · exact absurd inverted ordered
    · exact absurd undeclared declared
    · rfl
  · let values : Valuation := fun _ => some (.float (.ofInt 1))
    -- the multiple is beyond all doubles
    obtain ⟨k, positive, told⟩ : ∃ k : Int, 0 ≤ k ∧
        (((weighted 1 k).build {}).toOption.any fun made =>
          (made.1.model.outOfBounds values).toOption.any List.isEmpty &&
            made.1.model.constraints.any fun c =>
              decide ((c.isSatisfied values).mapError Fault.kind = .error .overflow)) = true :=
      ⟨Nat.pow 10 400, by decide +kernel, by decide +kernel⟩
    cases built : (weighted 1 k).build {} with
    | error fault => simp [built, Except.toOption] at told
    | ok made =>
      obtain ⟨s, holders⟩ := made
      obtain ⟨rfl, -⟩ := gains_of_build built
      simp only [built, Except.toOption, Option.any_some, Bool.and_eq_true, List.any_eq_true,
        decide_eq_true_eq] at told
      obtain ⟨inside, c, hc, failed⟩ := told
      have met : (weighted 1 k).IsMetBy (weighted 1 k).holders fun _ => 1 := by
        constructor
        · simp [weighted]
        · simpa [weighted, RelationEntry.IsMetBy, totalOf, Relation.Relates] using positive
        · simp [weighted]
      have inside : s.model.outOfBounds values = .ok [] := by
        cases outside : s.model.outOfBounds values with
        | error fault => simp [outside] at inside
        | ok vars => simpa [outside] using inside
      cases told : c.isSatisfied values with
      | ok satisfied => simp [told, Except.mapError] at failed
      | error fault =>
        exact ⟨_, s, values, fault, exists_ofJson_weighted 1 k, built, fun _ => rfl, inside, met,
          ⟨c, hc, told⟩, by simpa [told, Except.mapError] using failed⟩

end Document

end IntegerProgram
