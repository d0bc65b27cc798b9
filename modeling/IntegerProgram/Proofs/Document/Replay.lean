import IntegerProgram.Document
import IntegerProgram.Proofs.Session.History
import IntegerProgram.Proofs.Session.Refusal
import Mathlib.Data.List.Nodup

/-!
# Replays of documents

A document is replayed entry by entry. Of the declarations of a key the first counts, whose bounds
have to be in order; later ones are not looked at. All other entries have to mention declared keys
only, and what constraints are named by has to be written: a fixed value with its key, and a
relation without a description by its sum. A replay fails for the first thing that is wrong, and if
nothing is then it lists the declared keys, each once and in the order of their first declarations,
and after them the holders of the implications, which are numbered from one in the order of the
document.

## Main definitions

* `Session.Performs`: what comes of requests, with what they add.
* `Document.firsts`: the first declarations of the keys.
* `Document.faults`: what is wrong with a document, in the order of its replay.
* `Document.listing`: what the session of a document lists.

## Main statements

* `Document.performs_requests`: what comes of the requests of a document.
* `Document.build_cases`: a document with faults is refused for the first of them.
* `Document.keys_of_build`: the keys of the session of a document.
-/
namespace IntegerProgram

/-! ## What a session lists -/

/-- What a registry lists: a key, and the name and the bounds of its variable. -/
structure Listing where
  key : Value
  name : String
  lower : Int
  upper : Int

namespace Registry

variable {r : Registry} {key : String}

/-- The keys with the names and the bounds of their variables, in the order of binding. -/
def listing (r : Registry) : List Listing :=
  r.entries.map fun e => ⟨e.1, e.2.name, e.2.lower, e.2.upper⟩

theorem keys_eq_map_listing (r : Registry) : r.keys = r.listing.map (·.key) := by
  simp [keys, listing]

theorem isSome_entryOf? (r : Registry) (key : Value) :
    (r.entryOf? key).isSome = true ↔ ∃ k ∈ r.keys, k.meets key = true := by
  simp [entryOf?, keys]

/-- A text that meets a key is resolved. -/
theorem exists_resolve_text (met : (r.entryOf? (.text key)).isSome = true) :
    ∃ v, r.variableOf? (.text key) = some v ∧ r.resolve (.text key) = .ok v := by
  obtain ⟨⟨k, v⟩, found⟩ := Option.isSome_iff_exists.1 met
  have known : r.variableOf? (.text key) = some v :=
    variableOf?_eq_some.2 ⟨k, found, Value.refuses_text k key⟩
  exact ⟨v, known, (resolve_key_eq_ok (by simp)).2 known⟩

/-- A text that meets no key is not resolved. -/
theorem resolve_text_of_none (unmet : r.entryOf? (.text key) = none) :
    r.resolve (.text key) = .error (.unknownKey (.text key)) := by
  have writable : (Fault.unknownKey (.text key)).obstacle? = none := by simp [Fault.obstacle?]
  obtain ⟨accepted, unknown⟩ := entryOf?_eq_none_iff.1 unmet
  simp [resolve, unknown, absence, isRefused_eq_false.1 accepted, Fault.raised_of_none writable]

end Registry

/-! ## Requests in turn -/

/-- What requests have added to a session: what it lists, and holders that they were answered with.
-/
structure Session.Gains (s : Session) (listed : List Listing) (holders : List Value) (t : Session) :
    Prop where
  coherent : t.IsCoherent
  config : t.config = s.config
  listing : t.registry.listing = s.registry.listing ++ listed
  issued : t.nextCondition = s.nextCondition + holders.length

/-- What comes of requests: the first of the faults is what they end with, and if there are none
then answers are returned and more is listed. -/
def Session.Performs (s : Session) (requests : List Request) (faults : List Fault)
    (listed : List Listing) (answers : List (Option Value)) : Prop :=
  match faults with
  | fault :: _ => ((requests.mapM Request.perform).on s).1 = .error fault
  | [] => ∃ t, (requests.mapM Request.perform).on s = (.ok answers, t) ∧
      s.Gains listed (answers.filterMap id) t

namespace Session

variable {s t u : Session} {request : Request} {requests requests' : List Request} {fault : Fault}
  {faults faults' : List Fault} {listed listed' : List Listing} {answer : Option Value}
  {answers answers' : List (Option Value)} {holders holders' : List Value}

theorem Gains.refl (C : s.IsCoherent) : s.Gains [] [] s :=
  ⟨C, rfl, (List.append_nil _).symm, rfl⟩

theorem Gains.trans (first : s.Gains listed holders t) (second : t.Gains listed' holders' u) :
    s.Gains (listed ++ listed') (holders ++ holders') u := by
  refine ⟨second.coherent, second.config.trans first.config, ?_, ?_⟩
  · rw [second.listing, first.listing, List.append_assoc]
  · rw [second.issued, first.issued, List.length_append, Nat.add_assoc]

/-- Recording a relation adds nothing to what is listed. -/
theorem IsCoherent.gains_record (C : s.IsCoherent) {r : LinearRelation}
    (own : ∀ v ∈ r.sum.vars, v ∈ s.registry.vars) (description : Value) :
    s.Gains [] [] (s.record [r.constraint description]) :=
  ⟨C.record_constraint own description, rfl, (List.append_nil _).symm, rfl⟩

/-- The holder of an implication is listed with its indicator. -/
theorem IsCoherent.gains_imply (C : s.IsCoherent) {p e : LinearRelation}
    (ownP : ∀ v ∈ p.sum.vars, v ∈ s.registry.vars) (ownE : ∀ v ∈ e.sum.vars, v ∈ s.registry.vars)
    (description : Value) :
    s.Gains [⟨.holder s.nextCondition description, (s.indicator description).name, 0, 1⟩]
      [.holder s.nextCondition description] (s.imply p e description) :=
  ⟨C.imply ownP ownE description, rfl,
    by simp [Registry.listing, Session.imply, indicator, fresh], rfl⟩

theorem performs_nil (C : s.IsCoherent) : s.Performs [] [] [] [] := ⟨s, rfl, .refl C⟩

/-- A request that is refused. -/
theorem performs_error (ran : request.perform.on s = (.error fault, t)) :
    s.Performs [request] (fault :: faults) listed answers := by
  rw [Performs, List.mapM_cons, Attempt.on_bind_error ran]

/-- A request that is accepted. -/
theorem performs_ok (ran : request.perform.on s = (.ok answer, t))
    (gained : s.Gains listed answer.toList t) : s.Performs [request] [] listed [answer] := by
  refine ⟨t, ?_, ?_⟩
  · rw [List.mapM_cons, Attempt.on_bind_ok ran]
    rfl
  · cases answer <;> exact gained

/-- **What comes of requests in turn**: the second are performed in the session that the first have
led to, if nothing is wrong with the first. -/
theorem Performs.append (first : s.Performs requests faults listed answers)
    (second : ∀ t, s.Gains listed (answers.filterMap id) t →
      t.Performs requests' faults' listed' answers') :
    s.Performs (requests ++ requests') (faults ++ faults') (listed ++ listed')
      (answers ++ answers') := by
  cases faults with
  | cons fault faults =>
    have failed : ((requests.mapM Request.perform).on s).1 = .error fault := first
    rw [List.cons_append, Performs, List.mapM_append, Attempt.on_bind_error (Prod.ext failed rfl)]
  | nil =>
    obtain ⟨t, ran, gained⟩ := first
    have second := second t gained
    cases faults' with
    | cons fault faults' =>
      have failed : ((requests'.mapM Request.perform).on t).1 = .error fault := second
      rw [List.nil_append, Performs, List.mapM_append, Attempt.on_bind_ok ran,
        Attempt.on_bind_error (Prod.ext failed rfl)]
    | nil =>
      obtain ⟨u, ran', gained'⟩ := second
      refine ⟨u, ?_, ?_⟩
      · rw [List.mapM_append, Attempt.on_bind_ok ran, Attempt.on_bind_ok ran']
        rfl
      · rw [List.filterMap_append]
        exact gained.trans gained'

/-! ## Known names -/

/-- A session in which just some names are bound. Among its keys there may be others than texts. -/
structure Knows (s : Session) (names : List String) : Prop where
  coherent : s.IsCoherent
  known : ∀ key, (s.registry.entryOf? (.text key)).isSome = true ↔ key ∈ names

variable {names names' : List String}

/-- More names are known if they are listed. -/
theorem Knows.gains (K : s.Knows names) (gained : s.Gains listed holders t)
    (all : ∀ key, (key ∈ names ∨ ∃ l ∈ listed, l.key.meets (.text key) = true) ↔ key ∈ names') :
    t.Knows names' := by
  refine ⟨gained.coherent, fun key => ?_⟩
  rw [← all, ← K.known, Registry.isSome_entryOf?, Registry.isSome_entryOf?,
    Registry.keys_eq_map_listing, Registry.keys_eq_map_listing, gained.listing, List.map_append]
  simp only [List.mem_append, List.mem_map, or_and_right, exists_or, exists_exists_and_eq_and]

/-- Holders are no names. -/
theorem Knows.gains_holders (K : s.Knows names) (gained : s.Gains listed holders t)
    (held : ∀ l ∈ listed, ∃ id description, l.key = .holder id description) : t.Knows names := by
  refine K.gains gained fun key => or_iff_left ?_
  rintro ⟨l, listed, met⟩
  obtain ⟨id, description, same⟩ := held l listed
  simp [same] at met

theorem Knows.resolve_eq_error (K : s.Knows names) {key : String} (undeclared : key ∉ names) :
    s.registry.resolve (.text key) = .error (.unknownKey (.text key)) := by
  rw [← K.known, Option.not_isSome_iff_eq_none] at undeclared
  exact Registry.resolve_text_of_none undeclared

/-- The variable that a key is resolved to. -/
def variableOf (s : Session) (key : Value) : Variable :=
  (s.registry.resolve key).toOption.getD default

theorem Knows.resolve_eq_ok (K : s.Knows names) {key : String} (declared : key ∈ names) :
    s.registry.resolve (.text key) = .ok (s.variableOf (.text key)) := by
  obtain ⟨v, -, resolved⟩ := Registry.exists_resolve_text ((K.known key).2 declared)
  simp [variableOf, resolved, Except.toOption]

/-- Terms as a sum of variables. -/
def weigh (s : Session) (terms : List (String × Int)) : WeightedSum :=
  ⟨terms.map fun t => (s.variableOf (.text t.1), t.2)⟩

/-- A relation between keys as one between their variables. -/
def stated (s : Session) (r : Document.RelationEntry) : LinearRelation :=
  ⟨s.weigh r.terms, r.relation, r.rhs⟩

end Session

/-! ## The entries of a document -/

namespace Document

/-- The faults of mentioning keys that are not declared. -/
def undeclared (names keys : List String) : List Fault :=
  (keys.filter fun key => key ∉ names).map fun key => .unknownKey (.text key)

theorem undeclared_append (names keys keys' : List String) :
    undeclared names (keys ++ keys') = undeclared names keys ++ undeclared names keys' := by
  simp [undeclared]

theorem undeclared_eq_nil {names keys : List String} :
    undeclared names keys = [] ↔ ∀ key ∈ keys, key ∈ names := by
  simp [undeclared, List.filter_eq_nil_iff]

/-- The keys that a relation mentions. -/
def RelationEntry.keys (r : RelationEntry) : List String := r.terms.map (·.1)

/-- The keys that an implication mentions. -/
def ImplicationEntry.keys (i : ImplicationEntry) : List String :=
  i.condition.keys ++ i.consequence.keys

/-- The call that a declaration stands for. -/
def VariableEntry.request (v : VariableEntry) : Request :=
  .bind (.text v.key) (.int v.minimum) (.int v.maximum) (.text v.description)

/-- The call that a fixed value stands for. -/
def fixedRequest (f : String × Int) : Request := .enforceValue (.text f.1) (.int f.2)

/-- The call that a constraint stands for. -/
def RelationEntry.request (c : RelationEntry) : Request :=
  .enforce (keysOf c.terms) (coefficientsOf c.terms) (.int c.rhs) (.relation c.relation)
    (.text c.description)

/-- The call that an implication stands for. -/
def ImplicationEntry.request (i : ImplicationEntry) : Request :=
  .ifThen i.condition.condition i.consequence.condition (.text i.description)

/-- What a declaration lists. -/
def VariableEntry.listing (v : VariableEntry) : Listing :=
  ⟨.text v.key, v.description, v.minimum, v.maximum⟩

/-- What an implication lists if it has the given number. -/
def ImplicationEntry.listing (i : ImplicationEntry) (n : Nat) : Listing :=
  ⟨.holder n (.text i.description),
    ((Value.text i.description).orElse (.text s!"condition {n}")).shown, 0, 1⟩

/-- What is wrong with a declaration. -/
def VariableEntry.faults (v : VariableEntry) : List Fault :=
  if v.maximum < v.minimum then
    [.raised (.invertedRange v.minimum v.maximum (.text v.description))]
  else []

/-- What is wrong with a fixed value: that its key is not declared, or that it cannot be written.
It names the constraint that requires it. -/
def fixedFaults (names : List String) (f : String × Int) : List Fault :=
  undeclared names [f.1] ++ ((Obstacle.ofInt? f.2).map Obstacle.fault).toList

/-- What keeps the name of a constraint from being written. Without a description it is named by its
sum. -/
def RelationEntry.nameObstacle? (c : RelationEntry) : Option Obstacle :=
  if c.description = "" then c.terms.findSome? fun t => Obstacle.ofInt? t.2 else none

/-- What is wrong with a constraint: that a key is not declared, or that its name cannot be written.
-/
def RelationEntry.faults (names : List String) (c : RelationEntry) : List Fault :=
  undeclared names c.keys ++ (c.nameObstacle?.map Obstacle.fault).toList

/-- The holders of implications, of which the first has the given number. -/
def holdersFrom (n : Nat) (is : List ImplicationEntry) : List Value :=
  (is.zipIdx n).map fun i => .holder i.2 (.text i.1.description)

/-- The holders of the implications of a document. -/
def holders (d : Document) : List Value := holdersFrom 1 d.implications

/-- What implications list, of which the first has the given number. -/
def listingsFrom (n : Nat) (is : List ImplicationEntry) : List Listing :=
  (is.zipIdx n).map fun i => i.1.listing i.2

/-- The declarations of keys that are not declared before. -/
def firsts : List VariableEntry → List VariableEntry
  | [] => []
  | v :: vs => v :: (firsts vs).filter fun w => w.key ≠ v.key

/-- Whether a declaration is the first one of its key. -/
def IsFirst (vs : List VariableEntry) (v : VariableEntry) : Prop :=
  ∃ i : Nat, vs[i]? = some v ∧ ∀ k < i, ∀ w, vs[k]? = some w → w.key ≠ v.key

theorem isFirst_cons {v w : VariableEntry} {vs : List VariableEntry} :
    IsFirst (w :: vs) v ↔ v = w ∨ IsFirst vs v ∧ v.key ≠ w.key := by
  constructor
  · rintro ⟨i, here, first⟩
    cases i with
    | zero => exact .inl (Option.some.inj here).symm
    | succ i =>
      refine .inr ⟨⟨i, here, fun k hk u earlier => first (k + 1) (by omega) u earlier⟩, ?_⟩
      exact (first 0 (by omega) w rfl).symm
  · rintro (rfl | ⟨⟨i, here, first⟩, other⟩)
    · exact ⟨0, rfl, by simp⟩
    · refine ⟨i + 1, here, fun k hk u earlier => ?_⟩
      cases k with
      | zero =>
        obtain rfl := Option.some.inj earlier
        exact other.symm
      | succ k => exact first k (by omega) u earlier

theorem mem_firsts {v : VariableEntry} {vs : List VariableEntry} :
    v ∈ firsts vs ↔ IsFirst vs v := by
  induction vs with
  | nil => simp [firsts, IsFirst]
  | cons w vs ih => rw [firsts, List.mem_cons, List.mem_filter, decide_eq_true_eq, ih, isFirst_cons]

/-- The first declarations of keys that are not among some names. -/
def newTo (names : List String) (vs : List VariableEntry) : List VariableEntry :=
  (firsts vs).filter fun v => v.key ∉ names

theorem exists_mem_firsts (vs : List VariableEntry) {key : String} :
    (∃ v ∈ firsts vs, v.key = key) ↔ ∃ v ∈ vs, v.key = key := by
  induction vs with
  | nil => rfl
  | cons v vs ih =>
    simp only [firsts, List.exists_mem_cons_iff, List.mem_filter, ← ih, decide_eq_true_eq]
    by_cases same : v.key = key
    · simp [same]
    · simp only [same, false_or]
      constructor
      · rintro ⟨w, ⟨hw, -⟩, rfl⟩
        exact ⟨w, hw, rfl⟩
      · rintro ⟨w, hw, rfl⟩
        exact ⟨w, ⟨hw, Ne.symm same⟩, rfl⟩

theorem newTo_singleton (names : List String) (v : VariableEntry) :
    newTo names [v] = if v.key ∈ names then [] else [v] := by
  by_cases old : v.key ∈ names <;> simp [newTo, firsts, old]

theorem newTo_cons (names : List String) (v : VariableEntry) (vs : List VariableEntry) :
    newTo names (v :: vs) = newTo names [v] ++ newTo (names ++ [v.key]) vs := by
  have rest : (firsts vs).filter (fun w => w.key ∉ names ++ [v.key]) =
      ((firsts vs).filter fun w => w.key ≠ v.key).filter fun w => w.key ∉ names := by
    rw [List.filter_filter]
    refine List.filter_congr fun w _ => ?_
    simp
  rw [newTo, newTo, newTo, rest, firsts, firsts, firsts, ← List.singleton_append,
    List.filter_append]
  rfl

end Document

/-! ## What comes of the entries -/

namespace Session.Knows

open Document

variable {s t : Session} {names : List String} {terms : List (String × Int)} {fault : Fault}
  {faults : List Fault} {r : RelationEntry}

theorem resolveAll_eq_error (K : s.Knows names)
    (missing : undeclared names (terms.map (·.1)) = fault :: faults) :
    s.registry.resolveAll (keysOf terms) = .error fault := by
  induction terms with
  | nil => simp [undeclared] at missing
  | cons t terms ih =>
    have unfolded : s.registry.resolveAll (keysOf (t :: terms)) = (do
        return (← s.registry.resolve (.text t.1)) :: (← s.registry.resolveAll (keysOf terms))) :=
      List.mapM_cons
    rw [unfolded]
    by_cases declared : t.1 ∈ names
    · have rest : undeclared names (terms.map (·.1)) = fault :: faults := by
        simpa [undeclared, declared] using missing
      rw [K.resolve_eq_ok declared, ih rest]
      rfl
    · have first : Fault.unknownKey (.text t.1) = fault := by
        simp only [undeclared, List.map_cons, List.filter_cons, declared, not_false_eq_true,
          decide_true, if_true, List.cons.injEq] at missing
        exact missing.1
      rw [K.resolve_eq_error declared, first]
      rfl

/-- The first key that is not declared is what a sum fails for. -/
theorem sumOf_eq_error (K : s.Knows names) (missing : undeclared names r.keys = fault :: faults)
    (context : Value) :
    s.sumOf r.condition.keys r.condition.coefficients context = .error fault := by
  have same : (keysOf r.terms).length = (coefficientsOf r.terms).length := by
    simp [keysOf, coefficientsOf]
  simp [sumOf, RelationEntry.condition, same, K.resolveAll_eq_error missing]

/-- A sum of declared keys is that of their variables. -/
theorem sumOf_eq_ok (K : s.Knows names) (declared : undeclared names r.keys = []) :
    s.sumOf r.condition.keys r.condition.coefficients (.text "") = .ok (s.weigh r.terms) := by
  rw [RelationEntry.keys, undeclared_eq_nil, List.forall_mem_map] at declared
  rw [Session.sumOf_eq_ok, WeightedSum.vars, WeightedSum.coefficients, weigh, List.map_map,
    List.map_map, RelationEntry.condition, keysOf, coefficientsOf]
  simp only [List.forall₂_map_left_iff, List.forall₂_map_right_iff, List.forall₂_same]
  exact ⟨fun t ht => K.resolve_eq_ok (declared t ht), fun t _ => rfl⟩

/-- A relation between declared keys is that between their variables. -/
theorem read_eq_ok (K : s.Knows names) (declared : undeclared names r.keys = []) :
    r.condition.read s = .ok (s.stated r) := by
  rw [ConditionRequest.read_eq_ok]
  exact ⟨K.sumOf_eq_ok declared, rfl, rfl⟩

theorem mem_vars_of_stated (K : s.Knows names) (declared : undeclared names r.keys = []) :
    ∀ v ∈ (s.stated r).sum.vars, v ∈ s.registry.vars :=
  ConditionRequest.mem_vars_of_read (K.read_eq_ok declared)

/-- Nothing but a coefficient keeps a sum of declared keys from being written. -/
theorem obstacle?_weigh (K : s.Knows names) (declared : ∀ t ∈ terms, t.1 ∈ names) :
    (s.weigh terms).obstacle? = terms.findSome? fun t => Obstacle.ofInt? t.2 := by
  induction terms with
  | nil => rfl
  | cons t terms ih =>
    rw [List.forall_mem_cons] at declared
    have own := Registry.mem_vars_of_resolve (K.resolve_eq_ok declared.1)
    have plain := K.coherent.model.declared _ (K.coherent.inStep ▸ own)
    have named : (s.variableOf (.text t.1)).nameObstacle? = none := by
      simp [Variable.nameObstacle?, Variable.declaration, plain, Datum.obstacleAt]
    have rest := ih declared.2
    rw [WeightedSum.obstacle?, weigh] at rest ⊢
    simp only [List.map_cons, List.findSome?_cons, named, rest]
    cases Obstacle.ofInt? t.2 <;> rfl

/-- A constraint over declared keys is recorded if its name can be written. -/
theorem requireName_stated (K : s.Knows names) {c : RelationEntry}
    (declared : undeclared names c.keys = []) :
    Model.requireName (.whole (s.stated c).sum) (.text c.description) =
      Obstacle.requireNone c.nameObstacle? := by
  rw [RelationEntry.keys, undeclared_eq_nil, List.forall_mem_map] at declared
  rw [RelationEntry.nameObstacle?]
  split
  · next unnamed => simp [Model.requireName, Value.isTrue, unnamed, LinearForm.requireShown, stated,
      K.obstacle?_weigh declared]
  · next named => simp [named]

/-- A value is required of a key. -/
theorem performs_fixed (K : s.Knows names) (f : String × Int) :
    s.Performs [fixedRequest f] (fixedFaults names f) [] [none] := by
  by_cases declared : f.1 ∈ names
  · have resolved := K.resolve_eq_ok declared
    have integer : (Value.int f.2).asInteger "" = .ok f.2 := rfl
    have own : ∀ v ∈ (⟨[(s.variableOf (.text f.1), 1)]⟩ : WeightedSum).vars,
        v ∈ s.registry.vars := by
      simpa [WeightedSum.vars] using Registry.mem_vars_of_resolve resolved
    have nothing : undeclared names [f.1] = [] := by simp [undeclared, declared]
    rw [fixedFaults, nothing]
    cases written : Obstacle.ofInt? f.2 with
    | none =>
      have valued := on_enforceValue K.coherent resolved integer written
      have ran : (fixedRequest f).perform.on s = _ := Attempt.on_bind_ok valued
      exact performs_ok ran (K.coherent.gains_record (r := ⟨_, .eq, f.2⟩) own _)
    | some o =>
      have unwritten : (Value.int f.2).requireText = .error o.fault := by
        simp [Value.requireText, written]
      apply performs_error (t := s)
      apply Attempt.on_bind_error
      rw [enforceValue, Attempt.on_get_bind, Attempt.on_check_ok resolved,
        Attempt.on_check_ok ((Value.asInteger_eq_ok _ _).2 integer),
        Attempt.on_check_error unwritten]
  · have first : undeclared names [f.1] = [.unknownKey (.text f.1)] := by
      simp [undeclared, declared]
    rw [fixedFaults, first]
    apply performs_error (t := s)
    apply Attempt.on_bind_error
    rw [enforceValue, Attempt.on_get_bind, Attempt.on_check_error (K.resolve_eq_error declared)]

/-- A relation is required of a sum. -/
theorem performs_relation (K : s.Knows names) (c : RelationEntry) :
    s.Performs [c.request] (c.faults names) [] [none] := by
  rw [RelationEntry.faults]
  cases missing : undeclared names c.keys with
  | nil =>
    have named := K.requireName_stated missing
    have read := K.read_eq_ok missing
    cases name : c.nameObstacle? with
    | none =>
      rw [name] at named
      have related := on_enforce K.coherent read (Value.obstacle?_text c.description) named
      have ran : c.request.perform.on s = _ := Attempt.on_bind_ok related
      exact performs_ok ran (K.coherent.gains_record (K.mem_vars_of_stated missing) _)
    | some o =>
      rw [name, Obstacle.requireNone_some] at named
      have refused := on_enforce_unnamed K.coherent read (Value.obstacle?_text c.description) named
      have ran : c.request.perform.on s = _ := Attempt.on_bind_error refused
      exact performs_error ran
  | cons fault faults =>
    apply performs_error (t := s)
    apply Attempt.on_bind_error
    rw [enforce, Attempt.on_get_bind]
    exact Attempt.on_check_error (K.sumOf_eq_error missing _) s

/-- An implication is required. Its condition is looked at first. -/
theorem performs_implication (K : s.Knows names) (i : ImplicationEntry) :
    s.Performs [i.request] (undeclared names i.keys) [i.listing s.nextCondition]
      [some (.holder s.nextCondition (.text i.description))] := by
  have arity (r : RelationEntry) (side : Side) :
      requireArity side r.condition (.text i.description) = .ok () := by
    simp [requireArity, RelationEntry.condition, keysOf, coefficientsOf]
  rw [ImplicationEntry.keys, undeclared_append]
  cases missing : undeclared names i.condition.keys with
  | nil =>
    cases missing' : undeclared names i.consequence.keys with
    | nil =>
      have implied := on_ifThen K.coherent (K.read_eq_ok missing) (K.read_eq_ok missing')
        (Value.obstacle?_text i.description)
      have ran : i.request.perform.on s = _ := Attempt.on_bind_ok implied
      exact performs_ok ran (K.coherent.gains_imply (K.mem_vars_of_stated missing)
        (K.mem_vars_of_stated missing') _)
    | cons fault faults =>
      apply performs_error (t := s)
      apply Attempt.on_bind_error
      rw [ifThen, Attempt.on_check_ok (arity _ _), Attempt.on_check_ok (arity _ _),
        Attempt.on_get_bind]
      rw [Attempt.on_check_ok ((sumOf_context _).1 (K.sumOf_eq_ok missing)),
        Attempt.on_check_error (K.sumOf_eq_error missing' _)]
  | cons fault faults =>
    apply performs_error (t := s)
    apply Attempt.on_bind_error
    rw [ifThen, Attempt.on_check_ok (arity _ _), Attempt.on_check_ok (arity _ _),
      Attempt.on_get_bind, Attempt.on_check_error (K.sumOf_eq_error missing _)]

/-- A key is declared: it is listed with its bounds if it is new and they are in order. -/
theorem performs_declaration (K : s.Knows names) (v : VariableEntry) :
    s.Performs [v.request] ((newTo names [v]).flatMap VariableEntry.faults)
      ((newTo names [v]).map VariableEntry.listing) [none] := by
  by_cases old : v.key ∈ names
  · obtain ⟨w, known, -⟩ := Registry.exists_resolve_text ((K.known v.key).2 old)
    have ran : v.request.perform.on s = _ := Attempt.on_bind_ok (on_bind_known rfl known)
    rw [newTo_singleton, if_pos old]
    exact performs_ok ran (.refl K.coherent)
  · have new : s.registry.entryOf? (.text v.key) = none := by
      rwa [← K.known, Option.not_isSome_iff_eq_none] at old
    have range := Registry.range_int v.minimum v.maximum (Value.obstacle?_text v.description)
    rw [newTo_singleton, if_neg old]
    by_cases inverted : v.maximum < v.minimum
    · rw [if_pos inverted] at range
      have ran : v.request.perform.on s = _ :=
        Attempt.on_bind_error (on_bind_unranged rfl new (by simp) range)
      simp only [List.flatMap_singleton, VariableEntry.faults, if_pos inverted]
      exact performs_error ran
    · rw [if_neg inverted] at range
      have ran : v.request.perform.on s = _ :=
        Attempt.on_bind_ok (on_bind_new K.coherent rfl new (by simp) range)
      simp only [List.flatMap_singleton, VariableEntry.faults, if_neg inverted]
      refine performs_ok ran ⟨?_, rfl, ?_, rfl⟩
      · exact K.coherent.enter (Int.not_lt.1 inverted) _ (by simp [Value.key?])
      · simp [Registry.listing, VariableEntry.listing, fresh, Value.shown]

/-- Declared keys are known. -/
theorem declared (K : s.Knows names) {vs : List VariableEntry}
    (gained : s.Gains ((newTo names vs).map VariableEntry.listing) [] t) :
    t.Knows (names ++ vs.map (·.key)) := by
  refine K.gains gained fun key => ?_
  simp only [List.mem_map, exists_exists_and_eq_and, VariableEntry.listing, Value.meets_text,
    decide_eq_true_eq, List.mem_append]
  rw [← exists_mem_firsts vs]
  by_cases old : key ∈ names
  · simp [old]
  · refine or_congr_right (exists_congr fun v => ?_)
    rw [newTo, List.mem_filter, decide_eq_true_eq]
    constructor
    · rintro ⟨⟨hv, -⟩, rfl⟩
      exact ⟨hv, rfl⟩
    · rintro ⟨hv, rfl⟩
      exact ⟨⟨hv, old⟩, rfl⟩

/-- Declarations list the first of them for each key that is new. -/
theorem performs_declarations (K : s.Knows names) (vs : List VariableEntry) :
    s.Performs (vs.map VariableEntry.request) ((newTo names vs).flatMap VariableEntry.faults)
      ((newTo names vs).map VariableEntry.listing) (vs.map fun _ => none) := by
  induction vs generalizing s names with
  | nil => exact performs_nil K.coherent
  | cons v vs ih =>
    rw [newTo_cons, List.flatMap_append, List.map_append]
    exact (K.performs_declaration v).append fun t gained => ih (K.declared gained)

/-- Entries that list nothing, each with faults of its own. -/
theorem performs_idle {α : Type} {request : α → Request} {faults : α → List Fault}
    (each : ∀ s : Session, s.Knows names → ∀ entry,
      s.Performs [request entry] (faults entry) [] [none])
    (K : s.Knows names) (entries : List α) :
    s.Performs (entries.map request) (entries.flatMap faults) [] (entries.map fun _ => none) := by
  induction entries generalizing s with
  | nil => exact performs_nil K.coherent
  | cons entry entries ih =>
    rw [List.flatMap_cons]
    refine (each s K entry).append fun t gained => ih (K.gains_holders gained ?_)
    simp

/-- Implications list their holders. -/
theorem performs_implications (K : s.Knows names) (is : List ImplicationEntry) :
    s.Performs (is.map ImplicationEntry.request)
      (undeclared names (is.flatMap ImplicationEntry.keys)) (listingsFrom s.nextCondition is)
      ((holdersFrom s.nextCondition is).map some) := by
  induction is generalizing s with
  | nil => exact performs_nil K.coherent
  | cons i is ih =>
    rw [List.flatMap_cons, undeclared_append]
    refine (K.performs_implication i).append fun t gained => ?_
    have next : t.nextCondition = s.nextCondition + 1 := gained.issued
    rw [← next]
    exact ih (K.gains_holders gained (by simp [ImplicationEntry.listing]))

end Session.Knows

/-! ## What comes of a document -/

namespace Document

variable {d : Document} {config : Config} {s t : Session} {returned : List Value}

/-- The keys that the entries of a document mention after its declarations. -/
def mentioned (d : Document) : List String :=
  d.fixed.map (·.1) ++ (d.constraints.flatMap RelationEntry.keys ++
    d.implications.flatMap ImplicationEntry.keys)

/-- What is wrong with a document, in the order of its replay: bounds of first declarations that are
not in order, keys that are mentioned and not declared, and names of constraints that cannot be
written. -/
def faults (d : Document) : List Fault :=
  (firsts d.vars).flatMap VariableEntry.faults ++
    (d.fixed.flatMap (fixedFaults (d.vars.map (·.key))) ++
      (d.constraints.flatMap (RelationEntry.faults (d.vars.map (·.key))) ++
        undeclared (d.vars.map (·.key)) (d.implications.flatMap ImplicationEntry.keys)))

/-- What the session of a document lists. -/
def listing (d : Document) : List Listing :=
  (firsts d.vars).map VariableEntry.listing ++ listingsFrom 1 d.implications

/-- What the requests of a document are answered with. -/
def answers (d : Document) : List (Option Value) :=
  (d.vars.map fun _ => none) ++ ((d.fixed.map fun _ => none) ++
    ((d.constraints.map fun _ => none) ++ d.holders.map some))

theorem requests_eq (d : Document) :
    d.requests = d.vars.map VariableEntry.request ++ (d.fixed.map fixedRequest ++
      (d.constraints.map RelationEntry.request ++
        d.implications.map ImplicationEntry.request)) := by
  simp only [requests, List.append_assoc]
  rfl

/-- A caller can make the requests of a document. -/
theorem isPossible_requests (d : Document) : ∀ r ∈ d.requests, ∀ s, r.IsPossible s := by
  intro r hr s
  simp only [requests_eq, List.mem_append, List.mem_map] at hr
  rcases hr with ⟨v, -, rfl⟩ | ⟨f, -, rfl⟩ | ⟨c, -, rfl⟩ | ⟨i, -, rfl⟩
  · simp [VariableEntry.request, Request.IsPossible, Value.key?]
  · trivial
  · trivial
  · trivial

/-- **What comes of the requests of a document** in a fresh session. -/
theorem performs_requests (K : s.Knows []) (first : s.nextCondition = 1) :
    s.Performs d.requests d.faults d.listing d.answers := by
  have all : newTo [] d.vars = firsts d.vars := by simp [newTo]
  have declared := K.performs_declarations d.vars
  have unanswered {α : Type} (xs : List α) :
      (xs.map fun _ => (none : Option Value)).filterMap id = [] := by simp
  rw [all] at declared
  rw [requests_eq, faults, listing, answers]
  refine declared.append fun t₁ gained₁ => ?_
  rw [unanswered, ← all] at gained₁
  have K₁ : t₁.Knows (d.vars.map (·.key)) := K.declared gained₁
  -- neither values nor constraints list anything
  rw [← List.nil_append (listingsFrom 1 d.implications)]
  refine (K₁.performs_idle (fun s K f => K.performs_fixed f) d.fixed).append fun t₂ gained₂ => ?_
  have K₂ := K₁.gains_holders gained₂ (by simp)
  rw [← List.nil_append (listingsFrom 1 d.implications)]
  refine (K₂.performs_idle (fun s K c => K.performs_relation c) d.constraints).append
    fun t₃ gained₃ => ?_
  rw [unanswered] at gained₂ gained₃
  have next : t₃.nextCondition = 1 := by
    rw [gained₃.issued, gained₂.issued, gained₁.issued, first]
    rfl
  have implied := (K₂.gains_holders gained₃ (by simp)).performs_implications d.implications
  rwa [next] at implied

theorem filterMap_answers (d : Document) : d.answers.filterMap id = d.holders := by
  simp [answers, List.filterMap_append]

/-- A document is built from what its requests end with. -/
theorem build_eq (d : Document) (made : Session.new config = .ok s) :
    d.build config =
      match (d.requests.mapM Request.perform).on s with
      | (.ok answers, t) => .ok (t, answers.filterMap id)
      | (.error fault, _) => .error fault := by
  rw [build, made, ok_bind, Request.performAll, bind_pure_comp, Attempt.on_map]
  rcases (d.requests.mapM Request.perform).on s with ⟨_ | answers, t⟩ <;> rfl

/-- A fresh session has the settings that were given. -/
theorem eq_of_new (made : Session.new config = .ok s) : s = { config } := by
  obtain ⟨valid, validated, same⟩ := bind_eq_ok.1 made
  obtain ⟨rfl, -⟩ := Config.validate_eq_ok validated
  exact (Except.ok.inj same).symm

/-- A fresh session knows no names. -/
theorem knows_new (made : Session.new config = .ok s) : s.Knows [] := by
  have C := Session.isCoherent_new made
  obtain rfl := eq_of_new made
  exact ⟨C, by simp [Registry.entryOf?]⟩

/-- The session of a document knows the declared keys. -/
theorem knows_of_gains (K : s.Knows []) (gained : s.Gains d.listing d.holders t) :
    t.Knows (d.vars.map (·.key)) := by
  refine K.gains gained fun key => ?_
  have declared : (∃ v ∈ firsts d.vars, v.key = key) ↔ _ := exists_mem_firsts d.vars
  simp only [listing, listingsFrom, List.mem_append, List.mem_map, or_and_right, exists_or,
    exists_exists_and_eq_and, VariableEntry.listing, ImplicationEntry.listing, Value.meets_text,
    Value.meets_holder_text, decide_eq_true_eq, declared]
  simp

/-- **A document with faults is refused** for the first of them, and any other one is built. -/
theorem build_cases (d : Document) (made : Session.new config = .ok s) :
    (∃ fault faults, d.faults = fault :: faults ∧ d.build config = .error fault) ∨
      d.faults = [] ∧ ∃ t, (d.requests.mapM Request.perform).on s = (.ok d.answers, t) ∧
        s.Gains d.listing d.holders t ∧ d.build config = .ok (t, d.holders) := by
  have K := knows_new made
  have first : s.nextCondition = 1 := by rw [eq_of_new made]
  have performs : s.Performs d.requests d.faults d.listing d.answers := performs_requests K first
  have built := d.build_eq made
  cases all : d.faults with
  | cons fault faults =>
    rw [all] at performs
    have failed : ((d.requests.mapM Request.perform).on s).1 = .error fault := performs
    rw [show (d.requests.mapM Request.perform).on s = (.error fault, _) from
      Prod.ext failed rfl] at built
    exact .inl ⟨fault, faults, rfl, built⟩
  | nil =>
    rw [all] at performs
    obtain ⟨t, ran, gained⟩ := performs
    rw [ran] at built
    replace built : d.build config = .ok (t, d.answers.filterMap id) := built
    rw [filterMap_answers] at built gained
    exact .inr ⟨rfl, t, ran, gained, built⟩

/-- The declared keys, in the order of their first declarations. -/
def names (d : Document) : List String := (firsts d.vars).map (·.key)

theorem mem_names {key : String} : key ∈ d.names ↔ ∃ v ∈ d.vars, v.key = key := by
  rw [names, List.mem_map, exists_mem_firsts]

/-- No declared key is listed twice. -/
theorem nodup_names (d : Document) : d.names.Nodup := by
  rw [names]
  induction d.vars with
  | nil => exact List.nodup_nil
  | cons v vs ih =>
    rw [firsts, List.map_cons, List.nodup_cons]
    refine ⟨by simp, ih.sublist ?_⟩
    exact List.Sublist.map _ List.filter_sublist

theorem map_key_listing (d : Document) :
    d.listing.map (·.key) = d.names.map .text ++ d.holders := by
  rw [listing, List.map_append, List.map_map, listingsFrom, List.map_map, names, List.map_map]
  rfl

/-- What a document that is built has added to a fresh session. -/
theorem gains_of_build (built : d.build config = .ok (s, returned)) :
    returned = d.holders ∧ Session.Gains { config } d.listing d.holders s := by
  obtain ⟨fresh, made, -⟩ := bind_eq_ok.1 built
  obtain rfl := eq_of_new made
  rcases d.build_cases made with ⟨fault, -, -, refused⟩ | ⟨-, t, -, gained, accepted⟩
  · simp [refused] at built
  · obtain ⟨rfl, rfl⟩ := Prod.mk.inj (Except.ok.inj (accepted.symm.trans built))
    exact ⟨rfl, gained⟩

theorem listing_of_build (built : d.build config = .ok (s, returned)) :
    s.registry.listing = d.listing :=
  (gains_of_build built).2.listing

/-- **The keys of the session of a document**: the declared keys, and after them the holders of the
implications, which are returned. -/
theorem keys_of_build (built : d.build config = .ok (s, returned)) :
    s.IsCoherent ∧ returned = d.holders ∧
      s.registry.keys = d.names.map .text ++ d.holders ∧
      s.nextCondition = d.implications.length + 1 := by
  obtain ⟨same, gained⟩ := gains_of_build built
  refine ⟨gained.coherent, same, ?_, ?_⟩
  · rw [Registry.keys_eq_map_listing, listing_of_build built, map_key_listing]
  · rw [gained.issued, Nat.add_comm]
    simp [holders, holdersFrom]

/-- Holders of a document have different numbers. -/
theorem pairwise_holders (d : Document) : d.holders.Pairwise fun k l => k.meets l = false := by
  have numbers : ((d.implications.zipIdx 1).map (·.2)).Nodup := by
    rw [List.zipIdx_map_snd]
    exact List.nodup_range'
  rw [List.Nodup, List.pairwise_map] at numbers
  rw [holders, holdersFrom, List.pairwise_map]
  exact numbers.imp fun other => by simpa using other

/-- Each key is resolved to the variable that it is listed with. -/
theorem resolve_of_build (built : d.build config = .ok (s, returned)) {e : Value × Variable}
    (he : e ∈ s.registry.entries) : s.registry.resolve e.1 = .ok e.2 := by
  obtain ⟨-, -, keys, -⟩ := keys_of_build built
  have listed : e.1 ∈ d.names.map .text ++ d.holders := keys ▸ List.mem_map_of_mem he
  have plain : (∃ name, e.1 = .text name) ∨ ∃ n description, e.1 = .holder n description := by
    rcases List.mem_append.1 listed with declared | held
    · obtain ⟨name, -, same⟩ := List.mem_map.1 declared
      exact .inl ⟨name, same.symm⟩
    · obtain ⟨i, -, same⟩ := List.mem_map.1 held
      exact .inr ⟨_, _, same.symm⟩
  apply Registry.resolve_of_mem _ he
  · rcases plain with ⟨name, same⟩ | ⟨n, description, same⟩ <;> simp [same]
  · rcases plain with ⟨name, same⟩ | ⟨n, description, same⟩ <;> simp [same]
  · rw [keys, List.pairwise_append]
    refine ⟨?_, d.pairwise_holders, ?_⟩
    · rw [List.pairwise_map]
      exact d.nodup_names.imp fun other => by simpa using other
    · intro k declared l held
      obtain ⟨name, -, rfl⟩ := List.mem_map.1 declared
      obtain ⟨i, -, rfl⟩ := List.mem_map.1 held
      simp

end Document

end IntegerProgram
