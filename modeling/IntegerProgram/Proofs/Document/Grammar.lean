import IntegerProgram.Proofs.Document
import IntegerProgram.Proofs.Document.Sense

/-!
# The grammar of model documents

An object whose sections are arrays is read just if it keeps to the grammar of documents and the
texts of its keys and its descriptions, which may be values of any type, can be written. What is
read lists all entries and all terms in their order, keys by their texts and integers as they are.
Terms may be written as an object or as an array of pairs, with the same result.

## Main definitions

* `Document.IsVariable`, `Document.IsFixed`, `Document.IsRelation`, `Document.IsImplication`,
  `Document.IsObjective`: the grammar of entries.
* `Document.IsGrammatical`: the grammar of documents.
* `Document.texts`: the values that are taken by their texts.
* `Document.IsWrittenIn`: what a document says.

## Main statements

* `Document.ofJson_eq_ok`: what is read is what is written.
* `Document.exists_isWrittenIn_iff`: something is written just where the grammar is kept and the
  texts can be written.
-/
namespace IntegerProgram

/-- The words for a relation. -/
theorem Relation.ofText?_eq_some {s : String} {r : Relation} :
    ofText? s = some r ↔ (Text.trim s).toUpper ∈ r.aliases := by
  have named : ∀ word ∈ r.aliases, all.find? (fun q => q.aliases.contains word) = some r := by
    cases r <;> decide
  constructor
  · intro found
    have listed := List.find?_some found
    exact List.contains_iff_mem.1 listed
  · intro word
    exact named _ word

/-- A JSON value names a relation if it is a text that does. -/
theorem Json.asRelation_toValue_eq_ok {j : Json} {r : Relation} :
    j.toValue.asRelation = .ok r ↔
      ∃ word, j = .string word ∧ (Text.trim word).toUpper ∈ r.aliases := by
  cases j with
  | string word =>
    have read : (Json.string word).toValue.asRelation = .ok r ↔ Relation.ofText? word = some r := by
      simp only [toValue, Value.asRelation]
      cases Relation.ofText? word <;> simp
    rw [read, Relation.ofText?_eq_some]
    simp
  | _ => simp [toValue, Value.asRelation]

/-- Counterparts can be chosen for a list if they can for its items. -/
theorem exists_forall₂_iff {α β : Type} {R : α → β → Prop} {xs : List α} :
    (∃ ys, List.Forall₂ R xs ys) ↔ ∀ x ∈ xs, ∃ y, R x y := by
  constructor
  · intro chosen
    obtain ⟨ys, related⟩ := chosen
    intro x hx
    obtain ⟨y, -, xy⟩ := exists_mem_of_forall₂ related x hx
    exact ⟨y, xy⟩
  · intro each
    induction xs with
    | nil => exact ⟨[], .nil⟩
    | cons x xs ih =>
      rw [List.forall_mem_cons] at each
      obtain ⟨y, first⟩ := each.1
      obtain ⟨ys, rest⟩ := ih each.2
      exact ⟨y :: ys, .cons first rest⟩

/-- A list whose items are the values of a function. -/
theorem forall₂_eq_map {α β : Type} {f : β → α} {xs : List α} {ys : List β} :
    List.Forall₂ (fun x y => x = f y) xs ys ↔ xs = ys.map f := by
  rw [← List.forall₂_eq_eq_eq, List.forall₂_map_right_iff]

/-- A list is turned into another one in two steps. -/
theorem mapM_mapM_eq_ok {ε α β γ : Type} {f : α → Except ε β} {g : β → Except ε γ} {xs : List α}
    {zs : List γ} :
    (xs.mapM f >>= fun ys => ys.mapM g) = .ok zs ↔
      List.Forall₂ (fun x z => ∃ y, f x = .ok y ∧ g y = .ok z) xs zs := by
  rw [bind_eq_ok]
  simp only [mapM_eq_ok]
  constructor
  · intro steps
    obtain ⟨ys, first, second⟩ := steps
    induction first generalizing zs with
    | nil =>
      rw [List.forall₂_nil_left_iff] at second
      exact second ▸ .nil
    | cons made _ ih =>
      cases second with
      | cons made' others => exact .cons ⟨_, made, made'⟩ (ih others)
  · intro both
    induction both with
    | nil => exact ⟨[], .nil, .nil⟩
    | cons made _ ih =>
      obtain ⟨y, first, second⟩ := made
      obtain ⟨ys, firsts, seconds⟩ := ih
      exact ⟨y :: ys, .cons first firsts, .cons second seconds⟩

/-- A value whose text can be written. -/
def Json.IsWritable (j : Json) : Prop := j.toValue.obstacle? = none

namespace Document

variable {j entry : Json} {place source : String}

section Texts

variable {text name default : String} {names : List String}

theorem textOf_eq_ok : textOf j = .ok text ↔ j.IsWritable ∧ j.toValue.shown = text := by
  rw [textOf, check_bind_eq_ok, Value.requireText_eq_ok, pure_eq_ok, Except.ok.injEq]
  rfl

theorem exists_textOf_iff : (∃ text, textOf j = .ok text) ↔ j.IsWritable := by
  simp [textOf_eq_ok]

/-- A member can be taken by its text if it is absent or can be written. -/
theorem exists_textMember_iff : (∃ text, textMember entry name default = .ok text) ↔
    ∀ given, entry.member? name = some given → given.IsWritable := by
  rw [textMember]
  cases entry.member? name with
  | none => simp
  | some given => simp [exists_textOf_iff]

/-- The members of an entry with the given names. -/
def membersOf (entry : Json) (names : List String) : List Json := names.filterMap entry.member?

theorem mem_membersOf : j ∈ membersOf entry names ↔ ∃ name ∈ names, entry.member? name = some j :=
  List.mem_filterMap

/-- The key of a pair. -/
def pairKey? : Json → Option Json
  | .array [key, _] => some key
  | _ => none

/-- The keys in terms, other than the names of members. -/
def termKeys : Json → List Json
  | .array items => items.filterMap pairKey?
  | _ => []

/-- The values in a relation that are taken by their texts. -/
def relationTexts (entry : Json) : List Json :=
  membersOf entry ["description"] ++ (membersOf entry ["terms"]).flatMap termKeys

/-- The values in an implication that are taken by their texts. -/
def implicationTexts (entry : Json) : List Json :=
  membersOf entry ["description"] ++ (membersOf entry ["if", "then"]).flatMap relationTexts

end Texts

section Terms

variable {terms : List (String × Int)}

/-- The terms that a value writes: an object writes one in each of its members, and an array writes
one in each of its items, as a pair of a key and a coefficient. -/
inductive WritesTerms : Json → List (String × Int) → Prop where
  | object (terms : List (String × Int)) :
      WritesTerms (.object (terms.map fun t => (t.1, .int t.2))) terms
  | array {items : List Json} {terms : List (String × Int)}
      (pairs : List.Forall₂ (fun item t => ∃ key, item = .array [key, .int t.2] ∧
        textOf key = .ok t.1) items terms) :
      WritesTerms (.array items) terms

/-- A value that writes terms: an object with integers, or an array of pairs with integers in the
second place. -/
inductive IsTerms : Json → Prop where
  | object {members : List (String × Json)} (integers : ∀ m ∈ members, ∃ n, m.2 = .int n) :
      IsTerms (.object members)
  | array {items : List Json} (pairs : ∀ item ∈ items, ∃ key n, item = .array [key, .int n]) :
      IsTerms (.array items)

/-- A pair is a term if its first part can be written and its second part is an integer. -/
theorem readTerm_eq_ok {pair : Json × Json} {t : String × Int} {placeOf : String → String} :
    (do
      let key ← textOf pair.1
      let n ← readInteger pair.2 (placeOf key)
      return (key, n) : Except Fault (String × Int)) = .ok t ↔
      textOf pair.1 = .ok t.1 ∧ pair.2 = .int t.2 := by
  obtain ⟨key, n⟩ := t
  simp only [bind_eq_ok, readInteger_eq_ok, pure_eq_ok, Except.ok.injEq, Prod.mk.injEq]
  constructor
  · rintro ⟨_, keyed, _, integer, rfl, rfl⟩
    exact ⟨keyed, integer⟩
  · rintro ⟨keyed, integer⟩
    exact ⟨_, keyed, _, integer, rfl, rfl⟩

/-- **Terms are read as they are written.** -/
theorem readTerms_eq_ok : readTerms j place = .ok terms ↔ WritesTerms j terms := by
  cases j with
  | object members =>
    have read : readTerms (.object members) place = .ok terms ↔
        List.Forall₂ (fun m t => m.1 = t.1 ∧ m.2 = .int t.2) members terms := by
      simp only [readTerms, pairsOf, pure_bind, mapM_eq_ok, List.forall₂_map_left_iff,
        readTerm_eq_ok, textOf_string, Except.ok.injEq]
    rw [read]
    constructor
    · intro related
      have alike : List.Forall₂ (fun m t => m = (t.1, .int t.2)) members terms :=
        related.imp fun m t same => Prod.ext same.1 same.2
      obtain rfl := forall₂_eq_map.1 alike
      exact .object terms
    · rintro ⟨⟩
      exact List.forall₂_map_left_iff.2 (List.forall₂_same.2 fun t _ => ⟨rfl, rfl⟩)
  | array items =>
    simp only [readTerms, pairsOf, mapM_mapM_eq_ok, readTerm_eq_ok]
    constructor
    · intro pairs
      refine .array (pairs.imp fun item t read => ?_)
      obtain ⟨pair, paired, keyed, integer⟩ := read
      split at paired
      · obtain rfl := Except.ok.inj paired
        refine ⟨_, ?_, keyed⟩
        rw [← integer]
      · simp [fail] at paired
    · rintro ⟨⟩
      rename_i pairs
      refine pairs.imp fun item t written => ?_
      obtain ⟨key, rfl, keyed⟩ := written
      exact ⟨(key, .int t.2), rfl, keyed, rfl⟩
  | _ =>
    simp only [readTerms, pairsOf, fail, throw_eq_error, error_bind, reduceCtorEq, false_iff]
    rintro ⟨⟩

/-- **Terms are written just where the grammar of terms is kept** and the keys can be written. -/
theorem exists_writesTerms_iff :
    (∃ terms, WritesTerms j terms) ↔ IsTerms j ∧ ∀ key ∈ termKeys j, key.IsWritable := by
  constructor
  · rintro ⟨terms, written⟩
    cases written with
    | object terms =>
      refine ⟨.object fun m listed => ?_, by simp [termKeys]⟩
      obtain ⟨t, -, rfl⟩ := List.mem_map.1 listed
      exact ⟨t.2, rfl⟩
    | array pairs =>
      constructor
      · refine .array fun item listed => ?_
        obtain ⟨t, -, key, rfl, -⟩ := exists_mem_of_forall₂ pairs item listed
        exact ⟨key, t.2, rfl⟩
      · intro key listed
        obtain ⟨item, hitem, paired⟩ := List.mem_filterMap.1 listed
        obtain ⟨t, -, key', rfl, keyed⟩ := exists_mem_of_forall₂ pairs item hitem
        obtain rfl := Option.some.inj paired
        exact (textOf_eq_ok.1 keyed).1
  · rintro ⟨grammatical, writable⟩
    cases grammatical with
    | @object members integers =>
      have each : ∀ m ∈ members, ∃ t : String × Int, m = (t.1, .int t.2) := by
        intro m listed
        obtain ⟨n, integer⟩ := integers m listed
        exact ⟨(m.1, n), Prod.ext rfl integer⟩
      obtain ⟨terms, related⟩ := exists_forall₂_iff.2 each
      obtain rfl := forall₂_eq_map.1 related
      exact ⟨terms, .object terms⟩
    | @array items pairs =>
      have each : ∀ item ∈ items, ∃ t : String × Int,
          ∃ key, item = .array [key, .int t.2] ∧ textOf key = .ok t.1 := by
        intro item listed
        obtain ⟨key, n, rfl⟩ := pairs item listed
        have keyed : key ∈ termKeys (.array items) := List.mem_filterMap.2 ⟨_, listed, rfl⟩
        obtain ⟨text, taken⟩ := exists_textOf_iff.2 (writable key keyed)
        exact ⟨(text, n), key, rfl, taken⟩
      obtain ⟨terms, related⟩ := exists_forall₂_iff.2 each
      exact ⟨terms, .array related⟩

/-- An object of terms is read as the array of its members, which are pairs. -/
theorem readTerms_object (members : List (String × Json)) (place : String) :
    readTerms (.object members) place =
      readTerms (.array (members.map fun m => .array [.string m.1, m.2])) place := by
  have pairs : pairsOf (.array (members.map fun m => .array [.string m.1, m.2])) place =
      pairsOf (.object members) place := by
    simp only [pairsOf, List.mapM_map]
    exact List.mapM_pure ..
  rw [readTerms, readTerms, pairs]

end Terms

section Entries

variable {v : VariableEntry} {f : String × Int} {r : RelationEntry} {i : ImplicationEntry}
  {sense : Sense}

/-- An object that declares a variable. -/
structure IsVariable (entry : Json) : Prop where
  key : ∃ key, entry.member? "key" = some key
  minimum : ∃ n, entry.member? "min" = some (.int n)
  maximum : ∃ n, entry.member? "max" = some (.int n)

/-- An object that gives a value to a key. -/
structure IsFixed (entry : Json) : Prop where
  key : ∃ key, entry.member? "key" = some key
  value : ∃ n, entry.member? "value" = some (.int n)

/-- An object that relates terms to an integer. -/
structure IsRelation (entry : Json) : Prop where
  relation : ∃ word, entry.member? "relation" = some (.string word) ∧
    ∃ r : Relation, (Text.trim word).toUpper ∈ r.aliases
  terms : ∃ terms, entry.member? "terms" = some terms ∧ IsTerms terms
  rhs : ∃ n, entry.member? "rhs" = some (.int n)

/-- An object with two relations. -/
structure IsImplication (entry : Json) : Prop where
  condition : ∃ relation, entry.member? "if" = some relation ∧ IsRelation relation
  consequence : ∃ relation, entry.member? "then" = some relation ∧ IsRelation relation

/-- An object with terms and possibly a sense. -/
structure IsObjective (objective : Json) : Prop where
  sense : objective.member? "sense" = none ∨
    ∃ word, objective.member? "sense" = some (.string word) ∧
      word.toLower ∈ ["min", "minimise", "minimize", "max", "maximise", "maximize"]
  terms : ∃ terms, objective.member? "terms" = some terms ∧ IsTerms terms

/-- What an entry of a document declares, with its description. -/
structure VariableEntry.IsWrittenIn (v : VariableEntry) (entry : Json) : Prop
    extends v.IsReadFrom entry where
  description : textMember entry "description" v.key = .ok v.description

/-- What an entry of a document gives a value to. -/
structure IsFixedIn (f : String × Int) (entry : Json) : Prop where
  key : ∃ key, entry.member? "key" = some key ∧ textOf key = .ok f.1
  value : entry.member? "value" = some (.int f.2)

/-- What an entry of a document relates to an integer. -/
structure RelationEntry.IsWrittenIn (r : RelationEntry) (entry : Json) : Prop where
  relation : ∃ word, entry.member? "relation" = some (.string word) ∧
    (Text.trim word).toUpper ∈ r.relation.aliases
  terms : ∃ terms, entry.member? "terms" = some terms ∧ WritesTerms terms r.terms
  rhs : entry.member? "rhs" = some (.int r.rhs)
  description : textMember entry "description" "" = .ok r.description

/-- What an entry of a document with the given number says to imply what. -/
structure ImplicationEntry.IsWrittenIn (i : ImplicationEntry) (entry : Json) (number : Nat) :
    Prop where
  condition : ∃ relation, entry.member? "if" = some relation ∧ i.condition.IsWrittenIn relation
  consequence : ∃ relation, entry.member? "then" = some relation ∧
    i.consequence.IsWrittenIn relation
  description : textMember entry "description" s!"implication {number}" = .ok i.description

/-- The sense of an objective, which is a minimum unless it says otherwise. -/
def IsSenseOf (sense : Sense) (objective : Json) : Prop :=
  objective.member? "sense" = none ∧ sense = .minimize ∨
    ∃ word, objective.member? "sense" = some (.string word) ∧ word.toLower ∈ sense.words

theorem readVariable_eq_ok : readVariable entry place = .ok v ↔ v.IsWrittenIn entry := by
  simp only [readVariable, bind_eq_ok, require_eq_ok, readInteger_eq_ok, pure_eq_ok,
    Except.ok.injEq]
  constructor
  · rintro ⟨key, named, _, keyed, _, low, _, rfl, _, high, _, rfl, _, described, rfl⟩
    exact ⟨⟨⟨key, named, keyed⟩, low, high⟩, described⟩
  · rintro ⟨⟨⟨key, named, keyed⟩, low, high⟩, described⟩
    exact ⟨key, named, _, keyed, _, low, _, rfl, _, high, _, rfl, _, described, rfl⟩

theorem readFixed_eq_ok : readFixed entry place = .ok f ↔ IsFixedIn f entry := by
  simp only [readFixed, bind_eq_ok, require_eq_ok, readInteger_eq_ok, pure_eq_ok,
    Except.ok.injEq]
  constructor
  · rintro ⟨key, named, _, keyed, _, given, _, rfl, rfl⟩
    exact ⟨⟨key, named, keyed⟩, given⟩
  · rintro ⟨⟨key, named, keyed⟩, given⟩
    exact ⟨key, named, _, keyed, _, given, _, rfl, rfl⟩

theorem readRelation_eq_ok : readRelation entry place = .ok r ↔ r.IsWrittenIn entry := by
  simp only [readRelation, bind_eq_ok, require_eq_ok]
  constructor
  · rintro ⟨relation, named, read⟩
    split at read
    · simp [fail] at read
    · next q related =>
      simp only [bind_eq_ok, require_eq_ok, readTerms_eq_ok, readInteger_eq_ok, pure_eq_ok,
        Except.ok.injEq] at read
      obtain ⟨_, listed, _, written, _, bound, _, rfl, _, described, rfl⟩ := read
      obtain ⟨word, rfl, spelt⟩ := Json.asRelation_toValue_eq_ok.1 related
      exact ⟨⟨word, named, spelt⟩, ⟨_, listed, written⟩, bound, described⟩
  · rintro ⟨⟨word, named, spelt⟩, ⟨terms, listed, written⟩, bound, described⟩
    have related : (Json.string word).toValue.asRelation = .ok r.relation :=
      Json.asRelation_toValue_eq_ok.2 ⟨word, rfl, spelt⟩
    refine ⟨_, named, ?_⟩
    simp only [related, bind_eq_ok, require_eq_ok, readTerms_eq_ok, readInteger_eq_ok, pure_eq_ok,
      Except.ok.injEq]
    exact ⟨_, listed, _, written, _, bound, _, rfl, _, described, rfl⟩

theorem readImplication_eq_ok {number : Nat} :
    readImplication entry place number = .ok i ↔ i.IsWrittenIn entry number := by
  simp only [readImplication, bind_eq_ok, require_eq_ok, readRelation_eq_ok, pure_eq_ok,
    Except.ok.injEq]
  constructor
  · rintro ⟨_, described, _, first, _, written, _, second, _, written', rfl⟩
    exact ⟨⟨_, first, written⟩, ⟨_, second, written'⟩, described⟩
  · rintro ⟨⟨_, first, written⟩, ⟨_, second, written'⟩, described⟩
    exact ⟨_, described, _, first, _, written, _, second, _, written', rfl⟩

theorem readSense_eq_ok {members : List (String × Json)} :
    readSense (.object members) place = .ok sense ↔ IsSenseOf sense (.object members) := by
  have least : senseOf? "minimize".toLower = some .minimize := by decide +kernel
  have read : readSense (.object members) place = .ok sense ↔
      ∃ word, textMember (.object members) "sense" "minimize" = .ok word ∧
        senseOf? word.toLower = some sense := by
    simp only [readSense, bind_eq_ok]
    refine exists_congr fun word => and_congr_right fun _ => ?_
    cases senseOf? word.toLower <;> simp [fail]
  rw [read, IsSenseOf, textMember]
  cases given : (Json.object members).member? "sense" with
  | none => simp [least, eq_comm]
  | some value =>
    simp only [reduceCtorEq, false_and, false_or, Option.some.injEq, textOf_eq_ok]
    constructor
    · rintro ⟨_, ⟨-, rfl⟩, known⟩
      obtain ⟨text, rfl⟩ := exists_string_of_senseOf? known
      exact ⟨text, rfl, senseOf?_eq_some.1 known⟩
    · rintro ⟨text, rfl, word⟩
      exact ⟨text, textOf_eq_ok.1 (textOf_string text), senseOf?_eq_some.2 word⟩

/-- A variable is declared just where the grammar of variables is kept and its texts can be written.
-/
theorem exists_variable_iff : (∃ v : VariableEntry, v.IsWrittenIn entry) ↔
    IsVariable entry ∧ ∀ t ∈ membersOf entry ["key", "description"], t.IsWritable := by
  simp only [mem_membersOf, List.mem_cons, List.not_mem_nil, or_false, exists_eq_or_imp,
    exists_eq_left]
  constructor
  · rintro ⟨v, ⟨⟨key, named, keyed⟩, low, high⟩, described⟩
    refine ⟨⟨⟨key, named⟩, ⟨_, low⟩, ⟨_, high⟩⟩, ?_⟩
    rintro t (same | given)
    · obtain rfl := Option.some.inj (named.symm.trans same)
      exact (textOf_eq_ok.1 keyed).1
    · exact exists_textMember_iff.1 ⟨_, described⟩ t given
  · rintro ⟨⟨⟨key, named⟩, ⟨m, low⟩, ⟨n, high⟩⟩, writable⟩
    obtain ⟨text, keyed⟩ := exists_textOf_iff.2 (writable key (.inl named))
    obtain ⟨description, described⟩ :=
      exists_textMember_iff.2 fun t given => writable t (.inr given)
    exact ⟨⟨text, m, n, description⟩, ⟨⟨key, named, keyed⟩, low, high⟩, described⟩

theorem exists_fixed_iff : (∃ f, IsFixedIn f entry) ↔
    IsFixed entry ∧ ∀ t ∈ membersOf entry ["key"], t.IsWritable := by
  simp only [mem_membersOf, List.mem_singleton, exists_eq_left]
  constructor
  · rintro ⟨f, ⟨key, named, keyed⟩, given⟩
    refine ⟨⟨⟨key, named⟩, ⟨_, given⟩⟩, fun t same => ?_⟩
    obtain rfl := Option.some.inj (named.symm.trans same)
    exact (textOf_eq_ok.1 keyed).1
  · rintro ⟨⟨⟨key, named⟩, ⟨n, given⟩⟩, writable⟩
    obtain ⟨text, keyed⟩ := exists_textOf_iff.2 (writable key named)
    exact ⟨(text, n), ⟨key, named, keyed⟩, given⟩

theorem exists_relation_iff : (∃ r : RelationEntry, r.IsWrittenIn entry) ↔
    IsRelation entry ∧ ∀ t ∈ relationTexts entry, t.IsWritable := by
  simp only [relationTexts, List.forall_mem_append, List.forall_mem_flatMap, mem_membersOf,
    List.mem_singleton, exists_eq_left]
  constructor
  · rintro ⟨r, ⟨word, named, spelt⟩, ⟨terms, listed, written⟩, bound, described⟩
    obtain ⟨grammatical, keys⟩ := exists_writesTerms_iff.1 ⟨_, written⟩
    refine ⟨⟨⟨word, named, _, spelt⟩, ⟨terms, listed, grammatical⟩, _, bound⟩,
      exists_textMember_iff.1 ⟨_, described⟩, fun t same => ?_⟩
    obtain rfl := Option.some.inj (listed.symm.trans same)
    exact keys
  · rintro ⟨⟨⟨word, named, r, spelt⟩, ⟨terms, listed, grammatical⟩, n, bound⟩, described, keys⟩
    obtain ⟨ts, written⟩ := exists_writesTerms_iff.2 ⟨grammatical, keys terms listed⟩
    obtain ⟨description, described⟩ := exists_textMember_iff.2 described
    exact ⟨⟨ts, r, n, description⟩, ⟨word, named, spelt⟩, ⟨terms, listed, written⟩, bound,
      described⟩

theorem exists_implication_iff {number : Nat} :
    (∃ i : ImplicationEntry, i.IsWrittenIn entry number) ↔
      IsImplication entry ∧ ∀ t ∈ implicationTexts entry, t.IsWritable := by
  simp only [implicationTexts, List.forall_mem_append, List.forall_mem_flatMap, mem_membersOf,
    List.mem_cons, List.not_mem_nil, or_false, exists_eq_or_imp, exists_eq_left]
  constructor
  · rintro ⟨i, ⟨_, first, written⟩, ⟨_, second, written'⟩, described⟩
    obtain ⟨condition, texts⟩ := exists_relation_iff.1 ⟨_, written⟩
    obtain ⟨consequence, texts'⟩ := exists_relation_iff.1 ⟨_, written'⟩
    refine ⟨⟨⟨_, first, condition⟩, ⟨_, second, consequence⟩⟩,
      exists_textMember_iff.1 ⟨_, described⟩, ?_⟩
    rintro t (same | same)
    · obtain rfl := Option.some.inj (first.symm.trans same)
      exact texts
    · obtain rfl := Option.some.inj (second.symm.trans same)
      exact texts'
  · rintro ⟨⟨⟨_, first, condition⟩, ⟨_, second, consequence⟩⟩, described, texts⟩
    obtain ⟨c, written⟩ := exists_relation_iff.2 ⟨condition, texts _ (.inl first)⟩
    obtain ⟨e, written'⟩ := exists_relation_iff.2 ⟨consequence, texts _ (.inr second)⟩
    obtain ⟨description, described⟩ := exists_textMember_iff.2 described
    exact ⟨⟨c, e, description⟩, ⟨_, first, written⟩, ⟨_, second, written'⟩, described⟩

theorem exists_sense_iff {objective : Json} : (∃ sense, IsSenseOf sense objective) ↔
    objective.member? "sense" = none ∨
      ∃ word, objective.member? "sense" = some (.string word) ∧
        word.toLower ∈ ["min", "minimise", "minimize", "max", "maximise", "maximize"] := by
  have words (word : String) :
      word ∈ ["min", "minimise", "minimize", "max", "maximise", "maximize"] ↔
        ∃ sense : Sense, word ∈ sense.words := by
    constructor
    · intro listed
      have either : word ∈ Sense.minimize.words ++ Sense.maximize.words := listed
      rcases List.mem_append.1 either with least | most
      · exact ⟨.minimize, least⟩
      · exact ⟨.maximize, most⟩
    · rintro ⟨sense, listed⟩
      cases sense
      · exact List.mem_append_left Sense.maximize.words listed
      · exact List.mem_append_right Sense.minimize.words listed
  constructor
  · rintro ⟨sense, ⟨absent, -⟩ | ⟨word, given, listed⟩⟩
    · exact .inl absent
    · exact .inr ⟨word, given, (words _).2 ⟨sense, listed⟩⟩
  · rintro (absent | ⟨word, given, listed⟩)
    · exact ⟨.minimize, .inl ⟨absent, rfl⟩⟩
    · obtain ⟨sense, listed⟩ := (words _).1 listed
      exact ⟨sense, .inr ⟨word, given, listed⟩⟩

/-- The values in an objective that are taken by their texts. -/
def objectiveTexts (objective : Json) : List Json :=
  (membersOf objective ["terms"]).flatMap termKeys

theorem exists_objective_iff {objective : Json} :
    (∃ sense terms, IsSenseOf sense objective ∧
      ∃ written, objective.member? "terms" = some written ∧ WritesTerms written terms) ↔
      IsObjective objective ∧ ∀ t ∈ objectiveTexts objective, t.IsWritable := by
  simp only [objectiveTexts, List.forall_mem_flatMap, mem_membersOf, List.mem_singleton,
    exists_eq_left]
  constructor
  · rintro ⟨sense, terms, sensed, written, listed, spelt⟩
    obtain ⟨grammatical, keys⟩ := exists_writesTerms_iff.1 ⟨_, spelt⟩
    refine ⟨⟨exists_sense_iff.1 ⟨sense, sensed⟩, written, listed, grammatical⟩, fun t same => ?_⟩
    obtain rfl := Option.some.inj (listed.symm.trans same)
    exact keys
  · rintro ⟨⟨sensed, written, listed, grammatical⟩, keys⟩
    obtain ⟨sense, sensed⟩ := exists_sense_iff.2 sensed
    obtain ⟨terms, spelt⟩ := exists_writesTerms_iff.2 ⟨grammatical, keys written listed⟩
    exact ⟨sense, terms, sensed, written, listed, spelt⟩

end Entries

section Documents

variable {d : Document} {name : String}

/-- The entries of a section, of which there are none if it is absent. -/
def entriesOf (j : Json) (name : String) : List Json :=
  match j.member? name with
  | some (.array entries) => entries
  | _ => []

/-- Whether a section is an array, or absent. -/
def IsArray (j : Json) (name : String) : Prop :=
  ∀ section_, j.member? name = some section_ → ∃ entries, section_ = .array entries

/-- An object whose sections are arrays. -/
structure IsSectioned (j : Json) : Prop where
  opened : ∃ members, j = .object members
  vars : IsArray j "variables"
  fixed : IsArray j "fixed"
  constraints : IsArray j "constraints"
  implications : IsArray j "implications"

/-- The grammar of documents. -/
structure IsGrammatical (j : Json) : Prop where
  nonempty : entriesOf j "variables" ≠ []
  vars : ∀ entry ∈ entriesOf j "variables", IsVariable entry
  fixed : ∀ entry ∈ entriesOf j "fixed", IsFixed entry
  constraints : ∀ entry ∈ entriesOf j "constraints", IsRelation entry
  implications : ∀ entry ∈ entriesOf j "implications", IsImplication entry
  objective : ∃ objective, j.member? "objective" = some objective ∧ IsObjective objective

/-- The values of a document that are taken by their texts: the keys and the descriptions. -/
def texts (j : Json) : List Json :=
  (entriesOf j "variables").flatMap (membersOf · ["key", "description"]) ++
    ((entriesOf j "fixed").flatMap (membersOf · ["key"]) ++
      ((entriesOf j "constraints").flatMap relationTexts ++
        ((entriesOf j "implications").flatMap implicationTexts ++
          (membersOf j ["objective"]).flatMap objectiveTexts)))

/-- What a document says: its entries in their order. -/
structure IsWrittenIn (d : Document) (j : Json) : Prop where
  nonempty : d.vars ≠ []
  vars : List.Forall₂ (fun entry v => VariableEntry.IsWrittenIn v entry) (entriesOf j "variables")
    d.vars
  fixed : List.Forall₂ (fun entry f => IsFixedIn f entry) (entriesOf j "fixed") d.fixed
  constraints : List.Forall₂ (fun entry r => RelationEntry.IsWrittenIn r entry)
    (entriesOf j "constraints") d.constraints
  implications : List.Forall₂ (fun entry i => ImplicationEntry.IsWrittenIn i entry.1 entry.2)
    (entriesOf j "implications").zipIdx d.implications
  objective : ∃ objective, j.member? "objective" = some objective ∧ IsSenseOf d.sense objective ∧
    ∃ terms, objective.member? "terms" = some terms ∧ WritesTerms terms d.objective

theorem itemsOf_eq (listed : IsArray j name) :
    itemsOf (j.member? name) = .ok (entriesOf j name).zipIdx := by
  unfold entriesOf
  cases given : j.member? name with
  | none => rfl
  | some section_ =>
    obtain ⟨entries, rfl⟩ := listed section_ given
    rfl

/-- A section is read entry by entry. -/
theorem readSection_eq_ok {α : Type} {xs : List α} (read : Json → String → Nat → Except Fault α)
    (R : Json → Nat → α → Prop) (listed : IsArray j name)
    (each : ∀ entry place number x, read entry place number = .ok x ↔ R entry number x) :
    readSection j source name read = .ok xs ↔
      List.Forall₂ (fun item x => R item.1 item.2 x) (entriesOf j name).zipIdx xs := by
  simp only [readSection, itemsOf_eq listed, ok_bind, mapM_eq_ok]
  constructor
  · intro related
    exact related.imp fun item x made => (each _ _ _ x).1 made
  · intro related
    exact related.imp fun item x made => (each _ _ _ x).2 made

/-- A section whose entries have no need of their numbers. -/
theorem readSection_eq_ok_of_plain {α : Type} {xs : List α}
    (read : Json → String → Except Fault α) (R : Json → α → Prop) (listed : IsArray j name)
    (each : ∀ entry place x, read entry place = .ok x ↔ R entry x) :
    readSection j source name (fun entry place _ => read entry place) = .ok xs ↔
      List.Forall₂ R (entriesOf j name) xs := by
  have numbered : readSection j source name (fun entry place _ => read entry place) = .ok xs ↔ _ :=
    readSection_eq_ok _ (fun entry _ => R entry) listed fun entry place _ x => each entry place x
  rw [numbered, ← List.forall₂_map_left_iff (f := Prod.fst), List.zipIdx_map_fst]

/-- What has a member is an object. -/
theorem exists_eq_object {member : Json} (given : j.member? name = some member) :
    ∃ members, j = .object members := by
  cases j with
  | object members => exact ⟨members, rfl⟩
  | _ => simp [Json.member?] at given

/-- The objective of a document is read as it is written. -/
theorem readObjective_eq_ok {objective : Json} {terms : List (String × Int)} {sense : Sense} :
    (readSense objective source = .ok sense ∧
        ∃ written, objective.member? "terms" = some written ∧
          readTerms written place = .ok terms) ↔
      IsSenseOf sense objective ∧
        ∃ written, objective.member? "terms" = some written ∧ WritesTerms written terms := by
  simp only [readTerms_eq_ok]
  refine and_congr_left fun listed => ?_
  obtain ⟨_, given, -⟩ := listed
  obtain ⟨members, rfl⟩ := exists_eq_object given
  exact readSense_eq_ok

/-- An object is read section by section. -/
theorem ofJson_object_eq_ok {members : List (String × Json)} (same : j = .object members) :
    ofJson j source = .ok d ↔
      readSection j source "variables" (fun entry place _ => readVariable entry place) =
        .ok d.vars ∧
      d.vars ≠ [] ∧
      readSection j source "fixed" (fun entry place _ => readFixed entry place) = .ok d.fixed ∧
      readSection j source "constraints" (fun entry place _ => readRelation entry place) =
        .ok d.constraints ∧
      readSection j source "implications" readImplication = .ok d.implications ∧
      ∃ objective, j.member? "objective" = some objective ∧
        readSense objective source = .ok d.sense ∧
        ∃ written, objective.member? "terms" = some written ∧
          readTerms written s!"{source}: objective.terms" = .ok d.objective := by
  subst same
  obtain ⟨vars, fixed, constraints, implications, sense, objective⟩ := d
  simp only [ofJson]
  constructor
  · intro read
    obtain ⟨vs, first, read⟩ := bind_eq_ok.1 read
    cases vs with
    | nil => simp [fail] at read
    | cons v vs =>
      simp only [List.isEmpty_cons, Bool.false_eq_true, if_false, bind_eq_ok, pure_eq_ok,
        require_eq_ok, Except.ok.injEq] at read
      obtain ⟨_, second, _, third, _, fourth, o, given, _, sensed, _, listed, _, last, same⟩ := read
      obtain ⟨rfl, rfl, rfl, rfl, rfl, rfl⟩ := Document.mk.inj same
      exact ⟨first, List.cons_ne_nil _ _, second, third, fourth, o, given, sensed, _, listed, last⟩
  · rintro ⟨first, nonempty, second, third, fourth, o, given, sensed, written, listed, read⟩
    rw [first, ok_bind]
    cases vars with
    | nil => exact absurd rfl nonempty
    | cons v vs =>
      simp only [List.isEmpty_cons, Bool.false_eq_true, if_false, second, third, fourth, ok_bind,
        require_eq_ok.2 given, sensed, require_eq_ok.2 listed, read, pure_eq_ok]

/-- **What is read of a document is what is written in it.** -/
theorem ofJson_eq_ok (sectioned : IsSectioned j) : ofJson j source = .ok d ↔ d.IsWrittenIn j := by
  obtain ⟨members, same⟩ := sectioned.opened
  rw [ofJson_object_eq_ok same,
    readSection_eq_ok_of_plain readVariable _ sectioned.vars fun _ _ _ => readVariable_eq_ok,
    readSection_eq_ok_of_plain readFixed _ sectioned.fixed fun _ _ _ => readFixed_eq_ok,
    readSection_eq_ok_of_plain readRelation _ sectioned.constraints fun _ _ _ => readRelation_eq_ok,
    readSection_eq_ok readImplication _ sectioned.implications fun _ _ _ _ => readImplication_eq_ok]
  simp only [readObjective_eq_ok]
  constructor
  · rintro ⟨vars, nonempty, fixed, constraints, implications, objective⟩
    exact ⟨nonempty, vars, fixed, constraints, implications, objective⟩
  · rintro ⟨nonempty, vars, fixed, constraints, implications, objective⟩
    exact ⟨vars, nonempty, fixed, constraints, implications, objective⟩

/-- Something is written in entries just where each keeps to its grammar and all their texts can be
written. -/
theorem exists_entries_iff {α β : Type} {R : α → β → Prop} {grammar : α → Prop}
    {textsOf : α → List Json} {entries : List α}
    (each : ∀ e, (∃ x, R e x) ↔ grammar e ∧ ∀ t ∈ textsOf e, t.IsWritable) :
    (∃ xs, List.Forall₂ R entries xs) ↔
      (∀ e ∈ entries, grammar e) ∧ ∀ t ∈ entries.flatMap textsOf, t.IsWritable := by
  simp only [exists_forall₂_iff, each, forall₂_and, List.forall_mem_flatMap]

/-- No number of an entry decides whether it is an implication. -/
theorem exists_implications_iff {entries : List Json} :
    (∃ is, List.Forall₂ (fun item i => ImplicationEntry.IsWrittenIn i item.1 item.2)
      entries.zipIdx is) ↔
      (∀ e ∈ entries, IsImplication e) ∧ ∀ t ∈ entries.flatMap implicationTexts, t.IsWritable := by
  have each (item : Json × Nat) : (∃ i : ImplicationEntry, i.IsWrittenIn item.1 item.2) ↔
      IsImplication item.1 ∧ ∀ t ∈ implicationTexts item.1, t.IsWritable := exists_implication_iff
  rw [exists_entries_iff each, ← List.forall_mem_map, ← List.flatMap_map, List.zipIdx_map_fst]

/-- **Something is written just where the grammar is kept** and the texts can be written. -/
theorem exists_isWrittenIn_iff :
    (∃ d : Document, d.IsWrittenIn j) ↔ IsGrammatical j ∧ ∀ t ∈ texts j, t.IsWritable := by
  have inObjective (o : Json) (given : j.member? "objective" = some o) :
      membersOf j ["objective"] = [o] := by
    simp [membersOf, given]
  simp only [texts, List.forall_mem_append]
  constructor
  · rintro ⟨d, nonempty, vars, fixed, constraints, implications, o, given, objective⟩
    obtain ⟨vars', texts₁⟩ := (exists_entries_iff fun _ => exists_variable_iff).1 ⟨_, vars⟩
    obtain ⟨fixed', texts₂⟩ := (exists_entries_iff fun _ => exists_fixed_iff).1 ⟨_, fixed⟩
    obtain ⟨constraints', texts₃⟩ :=
      (exists_entries_iff fun _ => exists_relation_iff).1 ⟨_, constraints⟩
    obtain ⟨implications', texts₄⟩ := exists_implications_iff.1 ⟨_, implications⟩
    obtain ⟨objective', texts₅⟩ := exists_objective_iff.1 ⟨_, _, objective⟩
    refine ⟨⟨?_, vars', fixed', constraints', implications', o, given, objective'⟩, texts₁, texts₂,
      texts₃, texts₄, by simpa [inObjective o given] using texts₅⟩
    intro none_
    rw [none_, List.forall₂_nil_left_iff] at vars
    exact nonempty vars
  · rintro ⟨⟨nonempty, vars', fixed', constraints', implications', o, given, objective'⟩, texts₁,
      texts₂, texts₃, texts₄, texts₅⟩
    obtain ⟨vs, vars⟩ := (exists_entries_iff fun _ => exists_variable_iff).2 ⟨vars', texts₁⟩
    obtain ⟨fs, fixed⟩ := (exists_entries_iff fun _ => exists_fixed_iff).2 ⟨fixed', texts₂⟩
    obtain ⟨cs, constraints⟩ :=
      (exists_entries_iff fun _ => exists_relation_iff).2 ⟨constraints', texts₃⟩
    obtain ⟨is, implications⟩ := exists_implications_iff.2 ⟨implications', texts₄⟩
    obtain ⟨sense, terms, objective⟩ := exists_objective_iff.2
      ⟨objective', by simpa [inObjective o given] using texts₅⟩
    refine ⟨⟨vs, fs, cs, is, sense, terms⟩, ?_, vars, fixed, constraints, implications, o, given,
      objective⟩
    rintro rfl
    rw [List.forall₂_nil_right_iff] at vars
    exact nonempty vars

end Documents

end Document

end IntegerProgram
