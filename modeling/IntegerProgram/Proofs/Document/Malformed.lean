import IntegerProgram.Proofs.Document.Grammar
import IntegerProgram.Proofs.Fault
import IntegerProgram.Proofs.Json

/-!
# Malformed documents

A document has parts that may be malformed, in the order in which they are read: the document as an
object, each of its sections as a list, the entries of the section, and the objective. The fault of
a document is that of its first malformed part, and its message begins with the place of that part.
There are two exceptions, whose faults are none of the document and tell no place: a section that
cannot be listed, and a part that holds something which would have to be written, as a key or in a
message, and cannot be.

## Main definitions

* `Fault.IsAt`: whether a fault is one of a document, at a place.
* `Fault.IsAbout`: whether it is that, or that something at the place cannot be written.
* `Document.Part`, `Document.parts`: the parts of a document.
* `Document.IsFirstMalformed`: the first part that is malformed.

## Main statements

* `Document.ofJson_checks`: a document without malformed parts is read, and of any other the fault
  is that of the first malformed part.
* `Document.ofJson_faults`: which documents have a fault of another kind.
* `Document.ofJson_exact`: the documents that are read, what is read of them, and where the others
  are malformed.
* `Document.not_ofJson_exact`: documents that keep to the grammar, but for the case of letters, and
  are not read.
-/
namespace IntegerProgram

/-- Whether a fault tells that a document is malformed, at a place with which its message begins. -/
def Fault.IsAt (place : String) (fault : Fault) : Prop :=
  fault.kind = .configuration ∧ ∃ rest, fault.message = place ++ rest

/-- A value with a part that cannot be written. -/
def Json.HoldsUnwritable (j : Json) : Prop := ∃ part : Json, part.Within j ∧ ¬part.IsWritable

/-- What a part holds is held. -/
theorem Json.HoldsUnwritable.of_within {part j : Json} (holds : part.HoldsUnwritable)
    (within : part.Within j) : j.HoldsUnwritable := by
  obtain ⟨inner, held, unwritable⟩ := holds
  exact ⟨inner, held.trans within, unwritable⟩

/-- Whether a fault is about a value at a place: that the document is malformed there, or that a
part of the value cannot be written. -/
def Fault.IsAbout (place : String) (value : Json) (fault : Fault) : Prop :=
  fault.IsAt place ∨ fault.IsUnwritten ∧ value.HoldsUnwritable

namespace Fault

variable {place suffix : String} {problem : DocumentProblem} {fault : Fault} {part value : Json}

theorem message_document (place : String) (problem : DocumentProblem) :
    (document place problem).message = place ++ ": " ++ problem.message := rfl

/-- The message itself may be part of a place. -/
theorem isAt_of_message {text rest : String} (worded : ": " ++ problem.message = text ++ rest) :
    (document place problem).IsAt (place ++ text) :=
  ⟨rfl, rest, by rw [message_document, String.append_assoc, worded, String.append_assoc]⟩

theorem isAt_document_self (place : String) (problem : DocumentProblem) :
    (document place problem).IsAt place :=
  ⟨rfl, ": " ++ problem.message, by rw [message_document, String.append_assoc]⟩

theorem IsAbout.of_append (about : fault.IsAbout (place ++ suffix) value) :
    fault.IsAbout place value := by
  refine about.imp_left ?_
  rintro ⟨kind, rest, told⟩
  exact ⟨kind, suffix ++ rest, by rw [told, String.append_assoc]⟩

theorem IsAbout.of_within (about : fault.IsAbout place part) (within : part.Within value) :
    fault.IsAbout place value :=
  about.imp_right fun unwritten => ⟨unwritten.1, unwritten.2.of_within within⟩

end Fault

namespace Document

variable {j entry : Json} {place source name : String}

section Places

/-- A reader whose faults are about a value at a place. -/
abbrev FailsAt {α : Type} (place : String) (value : Json) (r : Except Fault α) : Prop :=
  FailsOnly (Fault.IsAbout place value) r

variable {α : Type} {part value : Json} {r : Except Fault α}

/-- A problem is about a value that is named in its wording, if one is. -/
theorem failsAt_fail {problem : DocumentProblem}
    (held : problem.obstacle? ≠ none → value.HoldsUnwritable) :
    FailsAt place value (fail place problem : Except Fault α) := by
  refine (FailsOnly.throw_iff _).2 ?_
  have parts : (Fault.document place problem).obstacle? = problem.obstacle? := by
    simp [Fault.obstacle?]
  cases obstacle : problem.obstacle? with
  | none =>
    rw [Fault.raised_of_none (parts.trans obstacle)]
    exact .inl (Fault.isAt_document_self place problem)
  | some o =>
    rw [Fault.raised_of_some (parts.trans obstacle)]
    exact .inr ⟨⟨o, rfl⟩, held (by simp [obstacle])⟩

/-- What is wrong with a value may be told by its text. -/
theorem failsAt_fail_of_within {problem : DocumentProblem}
    (told : problem.obstacle? = part.toValue.obstacle?) (within : part.Within value) :
    FailsAt place value (fail place problem : Except Fault α) :=
  failsAt_fail fun unwritable => ⟨part, within, fun writable => unwritable (told.trans writable)⟩

/-- What fails at a part of a place fails at the place. -/
theorem FailsAt.of_append {suffix : String} (F : FailsAt (place ++ suffix) value r) :
    FailsAt place value r :=
  F.mono fun _ => Fault.IsAbout.of_append

theorem FailsAt.of_within (F : FailsAt place part r) (within : part.Within value) :
    FailsAt place value r :=
  F.mono fun _ about => about.of_within within

theorem failsAt_require (entry : Json) (name place : String) :
    FailsAt place entry (require entry name place) := by
  unfold require
  split
  · simp [FailsAt]
  · exact failsAt_fail (absurd rfl)

theorem failsAt_readInteger (j : Json) (place : String) :
    FailsAt place j (readInteger j place) := by
  unfold readInteger
  split
  · simp [FailsAt]
  · exact failsAt_fail_of_within rfl (.refl j)

theorem failsAt_textOf (j : Json) (place : String) : FailsAt place j (textOf j) := by
  refine FailsOnly.bind ?_ fun _ _ => by simp
  intro fault failed
  rw [Value.requireText] at failed
  cases unwritable : j.toValue.obstacle? with
  | none => simp [unwritable] at failed
  | some o =>
    have held : ¬j.IsWritable := by simp [Json.IsWritable, unwritable]
    exact .inr ⟨Obstacle.isUnwritten_of_requireNone _ fault failed, j, .refl j, held⟩

theorem failsAt_textMember (entry : Json) (name default place : String) :
    FailsAt place entry (textMember entry name default) := by
  unfold textMember
  split
  · next given => exact (failsAt_textOf _ place).of_within (Json.within_of_member? given)
  · simp [FailsAt]

theorem failsAt_pairsOf (j : Json) (place : String) : FailsAt place j (pairsOf j place) := by
  unfold pairsOf
  split
  · simp [FailsAt]
  · refine FailsOnly.mapM fun item listed => ?_
    split
    · simp
    · exact failsAt_fail_of_within rfl (.item listed (.refl item))
  · exact failsAt_fail (absurd rfl)

/-- The parts of a pair are parts of the terms, if its key is not the name of a member. -/
theorem within_of_mem_pairsOf {pairs : List (Json × Json)} (read : pairsOf j place = .ok pairs)
    {pair : Json × Json} (listed : pair ∈ pairs) :
    (pair.1.Within j ∨ ∃ name, pair.1 = .string name) ∧ pair.2.Within j := by
  unfold pairsOf at read
  split at read
  · obtain rfl := Except.ok.inj read
    obtain ⟨m, hm, rfl⟩ := List.mem_map.1 listed
    exact ⟨.inr ⟨m.1, rfl⟩, .member hm (.refl _)⟩
  · obtain ⟨item, hitem, made⟩ := exists_mem_of_forall₂ (mapM_eq_ok.1 read).flip pair listed
    split at made
    · next key coefficient =>
      obtain rfl := Except.ok.inj made
      have keyed : key.Within (.array [key, coefficient]) := .item List.mem_cons_self (.refl key)
      have weighed : coefficient.Within (.array [key, coefficient]) :=
        .item (List.mem_cons_of_mem key List.mem_cons_self) (.refl coefficient)
      exact ⟨.inl (.item hitem keyed), .item hitem weighed⟩
    · simp [fail] at made
  · simp [fail] at read

theorem failsAt_readTerms (j : Json) (place : String) : FailsAt place j (readTerms j place) := by
  refine (failsAt_pairsOf j place).bind fun pairs read => FailsOnly.mapM fun pair listed => ?_
  obtain ⟨keyed, weighed⟩ := within_of_mem_pairsOf read listed
  have key : FailsAt place j (textOf pair.1) := by
    rcases keyed with within | ⟨name, same⟩
    · exact (failsAt_textOf pair.1 place).of_within within
    · simp [FailsAt, same]
  refine key.bind fun text _ => ?_
  have integer : FailsAt place pair.2 (readInteger pair.2 s!"{place}[{text}]") :=
    (failsAt_readInteger _ _).of_append.of_append.of_append
  exact (integer.of_within weighed).bind fun n _ => by simp

/-- A member that has to be there is a part. -/
theorem within_of_require {name : String} (required : require entry name place = .ok part) :
    part.Within entry :=
  Json.within_of_member? (require_eq_ok.1 required)

theorem failsAt_readVariable (entry : Json) (place : String) :
    FailsAt place entry (readVariable entry place) := by
  have integer {j : Json} (within : j.Within entry) (suffix : String) :
      FailsAt place entry (readInteger j s!"{place}{suffix}") :=
    ((failsAt_readInteger j (place ++ suffix)).of_within within).of_append
  refine (failsAt_require entry "key" place).bind fun key named => ?_
  refine ((failsAt_textOf key place).of_within (within_of_require named)).bind fun _ _ => ?_
  refine (failsAt_require entry "min" place).bind fun _ low => ?_
  refine (integer (within_of_require low) ".min").bind fun _ _ => ?_
  refine (failsAt_require entry "max" place).bind fun _ high => ?_
  refine (integer (within_of_require high) ".max").bind fun _ _ => ?_
  exact (failsAt_textMember entry "description" _ place).bind fun _ _ => by simp

theorem failsAt_readFixed (entry : Json) (place : String) :
    FailsAt place entry (readFixed entry place) := by
  refine (failsAt_require entry "key" place).bind fun key named => ?_
  refine ((failsAt_textOf key place).of_within (within_of_require named)).bind fun _ _ => ?_
  refine (failsAt_require entry "value" place).bind fun value given => ?_
  have integer := (failsAt_readInteger value place).of_within (within_of_require given)
  exact integer.bind fun _ _ => by simp

theorem failsAt_readRelation (entry : Json) (place : String) :
    FailsAt place entry (readRelation entry place) := by
  refine (failsAt_require entry "relation" place).bind fun relation named => ?_
  split
  · exact failsAt_fail_of_within rfl (within_of_require named)
  · refine (failsAt_require entry "terms" place).bind fun terms given => ?_
    have listed : FailsAt place terms (readTerms terms s!"{place}.terms") :=
      (failsAt_readTerms terms _).of_append
    refine (listed.of_within (within_of_require given)).bind fun _ _ => ?_
    refine (failsAt_require entry "rhs" place).bind fun rhs given => ?_
    have bound : FailsAt place rhs (readInteger rhs s!"{place}.rhs") :=
      (failsAt_readInteger rhs _).of_append
    refine (bound.of_within (within_of_require given)).bind fun _ _ => ?_
    exact (failsAt_textMember entry "description" "" place).bind fun _ _ => by simp

theorem failsAt_readImplication (entry : Json) (place : String) (number : Nat) :
    FailsAt place entry (readImplication entry place number) := by
  refine (failsAt_textMember entry "description" _ place).bind fun _ _ => ?_
  refine (failsAt_require entry "if" place).bind fun condition given => ?_
  have first : FailsAt place condition (readRelation condition s!"{place}.if") :=
    (failsAt_readRelation condition _).of_append
  refine (first.of_within (within_of_require given)).bind fun _ _ => ?_
  refine (failsAt_require entry "then" place).bind fun consequence given => ?_
  have second : FailsAt place consequence (readRelation consequence s!"{place}.then") :=
    (failsAt_readRelation consequence _).of_append
  exact (second.of_within (within_of_require given)).bind fun _ _ => by simp

end Places

section Parts

/-- A part of a document that may be malformed: a section as a whole, which has to be a list, or a
value at a place, which has to keep to a grammar. -/
inductive Part where
  | list (section? : Option Json)
  | at_ (place : String) (value : Json) (grammatical : Prop)

/-- Whether a section can be listed: it is absent, an array, an object or a text. -/
def IsListable : Option Json → Prop
  | none | some (.array _) | some (.object _) | some (.string _) => True
  | some _ => False

/-- Whether a part is in order. -/
def Part.IsWellFormed : Part → Prop
  | list section? => IsListable section?
  | at_ _ _ grammatical => grammatical

/-- Whether a fault is the one of a malformed part. -/
def Part.HasFault : Part → Fault → Prop
  | list _, fault => fault = .notIterable
  | at_ place value _, fault => fault.IsAbout place value

/-- The first part that is malformed. -/
def IsFirstMalformed (parts : List Part) (p : Part) : Prop :=
  ∃ before after, parts = before ++ p :: after ∧ (∀ q ∈ before, q.IsWellFormed) ∧
    ¬p.IsWellFormed

/-- Whether a reader checks parts in order: it returns something if all of them are well-formed, and
otherwise fails with the fault of the first that is not. -/
def Checks {α : Type} (parts : List Part) (r : Except Fault α) : Prop :=
  (∀ a, r = .ok a → ∀ p ∈ parts, p.IsWellFormed) ∧
    ∀ fault, r = .error fault → ∃ p, IsFirstMalformed parts p ∧ p.HasFault fault

namespace Checks

variable {α β : Type} {parts others : List Part} {p : Part} {r : Except Fault α}

/-- A reader of one part. -/
theorem single (returned : (∃ a, r = .ok a) ↔ p.IsWellFormed) (faults : FailsOnly p.HasFault r) :
    Checks [p] r := by
  constructor
  · intro a read
    exact List.forall_mem_singleton.2 (returned.1 ⟨a, read⟩)
  · intro fault failed
    refine ⟨p, ⟨[], [], rfl, by simp, fun formed => ?_⟩, faults fault failed⟩
    obtain ⟨a, read⟩ := returned.2 formed
    exact absurd (failed.symm.trans read) (by simp)

/-- A reader of some parts, followed by one of others. -/
theorem bind (first : Checks parts r) {f : α → Except Fault β}
    (next : ∀ a, r = .ok a → Checks others (f a)) : Checks (parts ++ others) (r >>= f) := by
  cases read : r with
  | error fault =>
    obtain ⟨p, ⟨before, after, rfl, formed, malformed⟩, blamed⟩ := first.2 fault read
    refine ⟨by simp, fun fault' failed => ?_⟩
    obtain rfl := Except.error.inj failed
    exact ⟨p, ⟨before, after ++ others, by simp, formed, malformed⟩, blamed⟩
  | ok a =>
    have formed := first.1 a read
    obtain ⟨returned, failed⟩ := next a read
    refine ⟨fun b same => List.forall_mem_append.2 ⟨formed, returned b same⟩, fun fault same => ?_⟩
    obtain ⟨p, ⟨before, after, rfl, formed', malformed⟩, blamed⟩ := failed fault same
    refine ⟨p, ⟨parts ++ before, after, by simp, ?_, malformed⟩, blamed⟩
    exact List.forall_mem_append.2 ⟨formed, formed'⟩

/-- A reader that has nothing to check of a well-formed part. -/
theorem skip (formed : p.IsWellFormed) (rest : Checks others r) : Checks (p :: others) r := by
  obtain ⟨returned, failed⟩ := rest
  refine ⟨fun a read => List.forall_mem_cons.2 ⟨formed, returned a read⟩, fun fault same => ?_⟩
  obtain ⟨q, ⟨before, after, rfl, formed', malformed⟩, blamed⟩ := failed fault same
  exact ⟨q, ⟨p :: before, after, rfl, List.forall_mem_cons.2 ⟨formed, formed'⟩, malformed⟩, blamed⟩

/-- A reader that fails with a malformed part. -/
theorem refuse {fault : Fault} (malformed : ¬p.IsWellFormed) (blamed : p.HasFault fault) :
    Checks (p :: others) (.error fault : Except Fault α) := by
  refine ⟨by simp, fun fault' failed => ?_⟩
  obtain rfl := Except.error.inj failed
  exact ⟨p, ⟨[], others, rfl, by simp, malformed⟩, blamed⟩

theorem pure (a : α) : Checks [] (Except.ok a : Except Fault α) :=
  ⟨by simp, by simp⟩

theorem mapM {f : α → Except Fault β} {part : α → Part} {xs : List α}
    (each : ∀ x ∈ xs, Checks [part x] (f x)) : Checks (xs.map part) (xs.mapM f) := by
  induction xs with
  | nil => exact pure []
  | cons x xs ih =>
    rw [List.forall_mem_cons] at each
    rw [List.mapM_cons]
    refine each.1.bind fun y _ => ?_
    rw [← List.append_nil (xs.map part)]
    exact (ih each.2).bind fun ys _ => pure _

end Checks

/-- The parts of a section: the list, and its items, whose texts have to be written. -/
def sectionParts (j : Json) (source name : String) (grammar : Json → Prop)
    (textsOf : Json → List Json) : List Part :=
  .list (j.member? name) ::
    match itemsOf (j.member? name) with
    | .ok items => items.map fun item => .at_ s!"{source}: {name}[{item.2}]" item.1
      (grammar item.1 ∧ ∀ t ∈ textsOf item.1, t.IsWritable)
    | .error _ => []

/-- The parts of the objective: that there is one, and what it says. -/
def objectiveParts (j : Json) (source : String) : List Part :=
  [.at_ s!"{source}: missing 'objective'" j (∃ objective, j.member? "objective" = some objective),
    .at_ s!"{source}: objective" j (∀ objective, j.member? "objective" = some objective →
      IsObjective objective ∧ ∀ t ∈ objectiveTexts objective, t.IsWritable)]

/-- The parts of a document in the order in which they are read. -/
def parts (j : Json) (source : String) : List Part :=
  .at_ s!"{source}: top level must be an object" j (∃ members, j = .object members) ::
    (sectionParts j source "variables" IsVariable (membersOf · ["key", "description"]) ++
      .at_ s!"{source}: at least one variable is required" j
        (itemsOf (j.member? "variables") ≠ .ok []) ::
      (sectionParts j source "fixed" IsFixed (membersOf · ["key"]) ++
        (sectionParts j source "constraints" IsRelation relationTexts ++
          (sectionParts j source "implications" IsImplication implicationTexts ++
            objectiveParts j source))))

theorem itemsOf_cases (section? : Option Json) :
    IsListable section? ∧ (∃ items, itemsOf section? = .ok items) ∨
      ¬IsListable section? ∧ itemsOf section? = .error .notIterable := by
  cases section? with
  | none => exact .inl ⟨trivial, _, rfl⟩
  | some section_ =>
    cases section_ with
    | array _ | object _ | string _ => exact .inl ⟨trivial, _, rfl⟩
    | _ => exact .inr ⟨id, rfl⟩

theorem checks_itemsOf (section? : Option Json) : Checks [.list section?] (itemsOf section?) := by
  rcases itemsOf_cases section? with ⟨listable, items, listed⟩ | ⟨unlistable, failed⟩
  · exact .single ⟨fun _ => listable, fun _ => ⟨items, listed⟩⟩ (FailsOnly.of_eq_ok listed)
  · refine .single ⟨fun ⟨items, listed⟩ => ?_, fun listable => absurd listable unlistable⟩ ?_
    · simp [failed] at listed
    · rw [failed, FailsOnly.error_iff]
      rfl

/-- A section is checked entry by entry. -/
theorem checks_readSection {α : Type} {read : Json → String → Nat → Except Fault α}
    {grammar : Json → Prop} {textsOf : Json → List Json}
    (returned : ∀ entry place number, (∃ x, read entry place number = .ok x) ↔
      grammar entry ∧ ∀ t ∈ textsOf entry, t.IsWritable)
    (faults : ∀ entry place number, FailsAt place entry (read entry place number)) :
    Checks (sectionParts j source name grammar textsOf) (readSection j source name read) := by
  refine (checks_itemsOf (j.member? name)).bind fun items listed => ?_
  simp only [listed]
  exact Checks.mapM fun item _ => .single (returned _ _ _) (faults _ _ _)

theorem failsAt_readSense (objective : Json) (source : String) :
    FailsAt s!"{source}: objective" objective (readSense objective source) := by
  have worded : ": " ++ DocumentProblem.unknownSense.message =
      ": objective" ++ ".sense must be 'minimize' or 'maximize'" := rfl
  have unknown : FailsAt s!"{source}: objective" objective
      (fail source .unknownSense : Except Fault Sense) :=
    (FailsOnly.throw_iff _).2 (.inl (Fault.isAt_of_message worded))
  unfold readSense
  split
  · refine (failsAt_textMember _ "sense" "minimize" _).bind fun word _ => ?_
    split
    · simp
    · exact unknown
  · exact unknown

/-- The objective is checked, whatever is made of it. -/
theorem checks_objective {α : Type} (make : Sense → List (String × Int) → α) :
    Checks (objectiveParts j source) (do
      let objective ← require j "objective" source
      let sense ← readSense objective source
      let terms ← require objective "terms" s!"{source}: objective"
      let objective ← readTerms terms s!"{source}: objective.terms"
      return make sense objective) := by
  have missing : FailsAt s!"{source}: missing 'objective'" j (require j "objective" source) := by
    unfold require
    split
    · simp
    · exact (FailsOnly.throw_iff _).2 (.inl (Fault.isAt_of_message (String.append_empty).symm))
  have present : Checks [.at_ s!"{source}: missing 'objective'" j
      (∃ objective, j.member? "objective" = some objective)] (require j "objective" source) :=
    .single (by simp only [require_eq_ok]; rfl) missing
  refine present.bind fun objective given => .single ?_ ?_
  · rw [require_eq_ok] at given
    simp only [bind_eq_ok, require_eq_ok, pure_eq_ok, Except.ok.injEq, Part.IsWellFormed, given,
      Option.some.injEq, forall_eq', ← exists_objective_iff]
    constructor
    · rintro ⟨_, sense, sensed, written, listed, terms, read, -⟩
      exact ⟨sense, terms, readObjective_eq_ok.1 ⟨sensed, written, listed, read⟩⟩
    · rintro ⟨sense, terms, said⟩
      obtain ⟨sensed, written, listed, read⟩ := readObjective_eq_ok.2 said
      exact ⟨_, sense, sensed, written, listed, terms, read, rfl⟩
  · have objectiveOnly : FailsAt s!"{source}: objective" objective (do
        let sense ← readSense objective source
        let terms ← require objective "terms" s!"{source}: objective"
        let objective ← readTerms terms s!"{source}: objective.terms"
        return make sense objective) := by
      refine (failsAt_readSense objective source).bind fun sense _ => ?_
      refine (failsAt_require objective "terms" _).bind fun terms listed => ?_
      have parts : s!"{source}: objective.terms" = s!"{source}: objective" ++ ".terms" := by
        rw [String.append_assoc]
        rfl
      have read : FailsAt s!"{source}: objective" terms
          (readTerms terms s!"{source}: objective.terms") := by
        rw [parts]
        exact (failsAt_readTerms terms _).of_append
      exact (read.of_within (within_of_require listed)).bind fun _ _ => by simp
    exact objectiveOnly.of_within (within_of_require given)

theorem checks_variables :
    Checks (sectionParts j source "variables" IsVariable (membersOf · ["key", "description"]))
      (readSection j source "variables" fun entry place _ => readVariable entry place) :=
  checks_readSection (fun _ _ _ => by simp only [readVariable_eq_ok, exists_variable_iff])
    fun entry place _ => failsAt_readVariable entry place

theorem checks_fixed : Checks (sectionParts j source "fixed" IsFixed (membersOf · ["key"]))
    (readSection j source "fixed" fun entry place _ => readFixed entry place) :=
  checks_readSection (fun _ _ _ => by simp only [readFixed_eq_ok, exists_fixed_iff])
    fun entry place _ => failsAt_readFixed entry place

theorem checks_constraints :
    Checks (sectionParts j source "constraints" IsRelation relationTexts)
      (readSection j source "constraints" fun entry place _ => readRelation entry place) :=
  checks_readSection (fun _ _ _ => by simp only [readRelation_eq_ok, exists_relation_iff])
    fun entry place _ => failsAt_readRelation entry place

theorem checks_implications :
    Checks (sectionParts j source "implications" IsImplication implicationTexts)
      (readSection j source "implications" readImplication) :=
  checks_readSection (fun _ _ _ => by simp only [readImplication_eq_ok, exists_implication_iff])
    failsAt_readImplication

/-- As many entries are read as a section has items. -/
theorem itemsOf_eq_nil {α : Type} {read : Json → String → Nat → Except Fault α} {xs : List α}
    (listed : readSection j source name read = .ok xs) :
    itemsOf (j.member? name) = .ok [] ↔ xs = [] := by
  obtain ⟨items, given, made⟩ := bind_eq_ok.1 listed
  have related := mapM_eq_ok.1 made
  rw [given, Except.ok.injEq]
  constructor
  · rintro rfl
    exact List.forall₂_nil_left_iff.1 related
  · rintro rfl
    exact List.forall₂_nil_right_iff.1 related

/-- **A document without malformed parts is read, and of any other the fault is that of the first
malformed part.** -/
theorem ofJson_checks (j : Json) (source : String) : Checks (parts j source) (ofJson j source) := by
  by_cases opened : ∃ members, j = .object members
  · obtain ⟨members, rfl⟩ := opened
    simp only [ofJson]
    refine .skip ⟨members, rfl⟩ (checks_variables.bind fun vars listed => ?_)
    have nonempty := not_congr (itemsOf_eq_nil listed)
    cases vars with
    | nil =>
      have told : (Fault.document source .noVariables).IsAbout
          s!"{source}: at least one variable is required" (.object members) :=
        .inl (Fault.isAt_of_message (String.append_empty).symm)
      exact .refuse (fun formed => nonempty.1 formed rfl) told
    | cons v vs =>
      refine .skip (nonempty.2 (List.cons_ne_nil v vs)) ?_
      refine checks_fixed.bind fun fixed _ => checks_constraints.bind fun constraints _ => ?_
      exact checks_implications.bind fun implications _ =>
        checks_objective (Document.mk (v :: vs) fixed constraints implications)
  · have failed : ofJson j source = .error (.document source .notAnObject) := by
      cases j with
      | object members => exact absurd ⟨members, rfl⟩ opened
      | _ => rfl
    rw [failed]
    have told : (Fault.document source .notAnObject).IsAbout
        s!"{source}: top level must be an object" j :=
      .inl (Fault.isAt_of_message (String.append_empty).symm)
    exact .refuse opened told

/-- There is one first malformed part at most. -/
theorem IsFirstMalformed.unique {parts : List Part} {p q : Part} (first : IsFirstMalformed parts p)
    (other : IsFirstMalformed parts q) : p = q := by
  obtain ⟨before, after, rfl, formed, malformed⟩ := first
  obtain ⟨before', after', same, formed', malformed'⟩ := other
  induction before generalizing before' with
  | nil =>
    cases before' with
    | nil => exact (List.cons.inj same).1
    | cons r before' =>
      obtain rfl := (List.cons.inj same).1
      exact absurd (formed' p List.mem_cons_self) malformed
  | cons r before ih =>
    rw [List.forall_mem_cons] at formed
    cases before' with
    | nil =>
      obtain rfl := (List.cons.inj same).1
      exact absurd formed.1 malformed'
    | cons r' before' =>
      rw [List.forall_mem_cons] at formed'
      exact ih formed.2 before' (List.cons.inj same).2 formed'.2

/-- **Which documents have a fault that tells no place**: those of which the first malformed part is
a section that cannot be listed, such as "null", or a value that holds something which cannot be
written. All others are read, or have a fault of the configuration. -/
theorem ofJson_faults (j : Json) (source : String) :
    ((∃ d, ofJson j source = .ok d) ∨ ∃ fault, ofJson j source = .error fault ∧
      (fault.kind = .configuration ∨ fault.kind = .badType ∨ fault.IsUnwritten)) ∧
    ((∃ fault, ofJson j source = .error fault ∧ fault.kind = .badType) ↔
      ∃ section?, IsFirstMalformed (parts j source) (.list section?)) ∧
    ∀ fault, ofJson j source = .error fault → fault.IsUnwritten →
      ∃ place value grammatical,
        IsFirstMalformed (parts j source) (.at_ place value grammatical) ∧
        value.HoldsUnwritable := by
  obtain ⟨returned, failed⟩ := ofJson_checks j source
  cases read : ofJson j source with
  | ok d =>
    have formed := returned d read
    refine ⟨.inl ⟨d, rfl⟩, ⟨by simp, ?_⟩, by simp⟩
    rintro ⟨section?, before, after, all, -, malformed⟩
    exact absurd (formed _ (all ▸ by simp)) malformed
  | error fault =>
    obtain ⟨p, first, blamed⟩ := failed fault read
    cases p with
    | list section? =>
      obtain rfl : fault = .notIterable := blamed
      refine ⟨.inr ⟨_, rfl, .inr (.inl rfl)⟩,
        ⟨fun _ => ⟨section?, first⟩, fun _ => ⟨_, rfl, rfl⟩⟩, ?_⟩
      rintro fault' ⟨⟩ unwritten
      rcases unwritten.kind_eq with kind | kind <;> cases kind
    | at_ place value grammatical =>
      have other : fault.kind = .configuration ∨ fault.IsUnwritten :=
        blamed.imp And.left And.left
      refine ⟨.inr ⟨fault, rfl, other.imp_right .inr⟩, ⟨?_, ?_⟩, ?_⟩
      · rintro ⟨fault', same, type⟩
        obtain rfl := Except.error.inj same
        rcases other with kind | unwritten
        · simp [kind] at type
        · rcases unwritten.kind_eq with kind | kind <;> simp [kind] at type
      · rintro ⟨section?, first'⟩
        exact absurd (first.unique first') (by simp)
      · rintro fault' ⟨⟩ unwritten
        refine ⟨place, value, grammatical, first, ?_⟩
        rcases blamed with ⟨kind, -⟩ | ⟨-, held⟩
        · rcases unwritten.kind_eq with kind' | kind' <;> simp [kind] at kind'
        · exact held

/-- A document whose variables are no list has no fault of the configuration. -/
theorem not_ofJson_faults :
    ∃ fault, ofJson (.object [("variables", .null)]) = .error fault ∧ fault.kind = .badType ∧
      fault.kind ≠ .configuration :=
  ⟨.notIterable, rfl, rfl, by decide⟩

theorem isListable_of_isArray (listed : IsArray j name) : IsListable (j.member? name) := by
  cases given : j.member? name with
  | none => trivial
  | some section_ =>
    obtain ⟨entries, rfl⟩ := listed section_ given
    trivial

/-- The parts of a section that is an array, other than its items, are listable. -/
theorem isListable_of_mem_sectionParts {grammar : Json → Prop} {textsOf : Json → List Json}
    (array : IsArray j name) {section? : Option Json}
    (part : .list section? ∈ sectionParts j source name grammar textsOf) :
    IsListable section? := by
  rcases List.mem_cons.1 part with same | item
  · rw [Part.list.inj same]
    exact isListable_of_isArray array
  · split at item
    · simp at item
    · simp at item

/-- The sections of an object whose sections are arrays can be listed. -/
theorem IsSectioned.isListable (sectioned : IsSectioned j) {section? : Option Json}
    (part : .list section? ∈ parts j source) : IsListable section? := by
  simp only [parts, objectiveParts, List.mem_cons, List.mem_append, reduceCtorEq, List.not_mem_nil,
    false_or, or_false] at part
  rcases part with vars | fixed | constraints | implications
  · exact isListable_of_mem_sectionParts sectioned.vars vars
  · exact isListable_of_mem_sectionParts sectioned.fixed fixed
  · exact isListable_of_mem_sectionParts sectioned.constraints constraints
  · exact isListable_of_mem_sectionParts sectioned.implications implications

end Parts

/-- **Which documents are read, and how**: of the objects whose sections are arrays, those that keep
to the grammar and whose texts can be written, as they are written. The fault of any other is about
its first malformed part, and terms may be written in either way. -/
theorem ofJson_exact (sectioned : IsSectioned j) (source : String) :
    ((∃ d, ofJson j source = .ok d) ↔ IsGrammatical j ∧ ∀ t ∈ texts j, t.IsWritable) ∧
    (∀ d, ofJson j source = .ok d ↔ d.IsWrittenIn j) ∧
    (¬(IsGrammatical j ∧ ∀ t ∈ texts j, t.IsWritable) → ∃ place value grammatical fault,
      IsFirstMalformed (parts j source) (.at_ place value grammatical) ∧
      ofJson j source = .error fault ∧ fault.IsAbout place value) ∧
    ∀ members place, readTerms (.object members) place =
      readTerms (.array (members.map fun m => .array [.string m.1, m.2])) place := by
  have returned : (∃ d, ofJson j source = .ok d) ↔
      IsGrammatical j ∧ ∀ t ∈ texts j, t.IsWritable := by
    simp only [ofJson_eq_ok sectioned, exists_isWrittenIn_iff]
  refine ⟨returned, fun d => ofJson_eq_ok sectioned, fun ungrammatical => ?_, readTerms_object⟩
  cases read : ofJson j source with
  | ok d => exact absurd (returned.1 ⟨d, read⟩) ungrammatical
  | error fault =>
    obtain ⟨p, first, blamed⟩ := (ofJson_checks j source).2 fault read
    cases p with
    | list section? =>
      obtain ⟨before, after, all, -, malformed⟩ := first
      have listed : .list section? ∈ parts j source := by
        rw [all]
        exact List.mem_append_right before List.mem_cons_self
      exact absurd (sectioned.isListable listed) malformed
    | at_ place value grammatical =>
      exact ⟨place, value, grammatical, fault, first, rfl, blamed⟩

/-- An object with an array of variables and no other section has arrays for its sections. -/
theorem isSectioned_of_variables (entries : List Json) (objective : Json) :
    IsSectioned (.object [("variables", .array entries), ("objective", objective)]) := by
  refine ⟨⟨_, rfl⟩, fun section_ given => ?_, fun section_ given => ?_, fun section_ given => ?_,
    fun section_ given => ?_⟩
  · exact ⟨entries, (Option.some.inj given).symm⟩
  all_goals simp [Json.member?] at given

/-- A document that declares a key twice keeps to the grammar, and is read as it is written. -/
theorem ofJson_exact_declaredTwice :
    ∃ d : Document, IsSectioned declaredTwice ∧ IsGrammatical declaredTwice ∧
      (∀ t ∈ texts declaredTwice, t.IsWritable) ∧
      ofJson declaredTwice "" = .ok d ∧ d.IsWrittenIn declaredTwice := by
  have sectioned : IsSectioned declaredTwice := isSectioned_of_variables _ _
  obtain ⟨d, _, _, _, read, -⟩ := exists_optimise_declaredTwice
  obtain ⟨returned, written, -⟩ := ofJson_exact sectioned ""
  obtain ⟨grammatical, writable⟩ := returned.1 ⟨d, read⟩
  exact ⟨d, sectioned, grammatical, writable, read, (written d).1 read⟩

/-- A document with a key of any type, and a word for its sense. -/
def keyed (key : Json) (word : String) : Json :=
  .object [("variables", .array [.object [("key", key), ("min", .int 0), ("max", .int 10)]]),
    ("objective", .object [("sense", .string word), ("terms", .object [])])]

theorem isSectioned_keyed (key : Json) (word : String) : IsSectioned (keyed key word) :=
  isSectioned_of_variables _ _

theorem isGrammatical_keyed (key : Json) {word : String}
    (known : word.toLower ∈ ["min", "minimise", "minimize", "max", "maximise", "maximize"]) :
    IsGrammatical (keyed key word) where
  nonempty := by simp [entriesOf, keyed, Json.member?]
  vars := by
    simp only [entriesOf, keyed, Json.member?]
    refine List.forall_mem_singleton.2 ⟨⟨key, rfl⟩, ⟨0, rfl⟩, ⟨10, rfl⟩⟩
  fixed := by simp [entriesOf, keyed, Json.member?]
  constraints := by simp [entriesOf, keyed, Json.member?]
  implications := by simp [entriesOf, keyed, Json.member?]
  objective := ⟨_, rfl, .inr ⟨word, rfl, known⟩, _, rfl, .object (by simp)⟩

/-- A letter regardless of its case. Two letters count as ones of the Latin alphabet: the long "s",
and the sign for Kelvin. -/
def foldCase (c : Char) : Char :=
  if c = '\u017f' then 's' else if c = '\u212a' then 'k' else c.toLower

theorem ofJson_keyed_int {n : Int} {o : Obstacle} (unwritable : Obstacle.ofInt? n = some o)
    (word : String) : ofJson (keyed (.int n) word) "" = .error o.fault := by
  have text : textOf (.int n) = .error o.fault := by
    simp [textOf, Json.toValue, Value.requireText, unwritable]
  simp [ofJson, keyed, readSection, itemsOf, Json.member?, require, readVariable, text]

theorem not_mem_words (sense : Sense) : "maximi\u017fe".toLower ∉ sense.words := by
  intro known
  have lower : "maximi\u017fe".toLower = "maximi\u017fe".map Char.toLower := rfl
  have spelt := List.mem_map_of_mem (f := String.toList) known
  rw [lower, String.toList_map] at spelt
  revert spelt
  cases sense <;> decide +kernel

/-- A document that keeps to the grammar is not read if the text of a key cannot be written, nor if
a word for its sense is one of the six regardless of case, but not in lower case. -/
theorem not_ofJson_exact :
    (∃ (key : Json) (fault : Fault), IsSectioned (keyed key "max") ∧
      IsGrammatical (keyed key "max") ∧ ofJson (keyed key "max") "" = .error fault ∧
      fault.kind = .badValue) ∧
    ∃ word : String, word.toList.map foldCase = "maximise".toList.map foldCase ∧
      IsSectioned (keyed (.string "x") word) ∧ IsGrammatical (keyed (.string "x") "maximise") ∧
      ∀ d, ofJson (keyed (.string "x") word) "" ≠ .ok d := by
  constructor
  · obtain ⟨n, unwritable⟩ := Obstacle.exists_ofInt?
    have known : "max".toLower ∈
        ["min", "minimise", "minimize", "max", "maximise", "maximize"] := by decide +kernel
    exact ⟨.int n, _, isSectioned_keyed (.int n) "max", isGrammatical_keyed (.int n) known,
      ofJson_keyed_int unwritable "max", rfl⟩
  · have sectioned := isSectioned_keyed (.string "x") "maximi\u017fe"
    have folded : "maximi\u017fe".toList.map foldCase = "maximise".toList.map foldCase := by decide
    have known : "maximise".toLower ∈
        ["min", "minimise", "minimize", "max", "maximise", "maximize"] := by decide +kernel
    refine ⟨"maximi\u017fe", folded, sectioned, isGrammatical_keyed (.string "x") known,
      fun d read => ?_⟩
    obtain ⟨o, given, sensed, -⟩ := ((ofJson_eq_ok sectioned).1 read).objective
    obtain rfl := Option.some.inj given
    rcases sensed with ⟨absent, -⟩ | ⟨word, given, known⟩
    · simp [Json.member?] at absent
    · obtain rfl := Json.string.inj (Option.some.inj given)
      exact not_mem_words d.sense known

end Document

end IntegerProgram
