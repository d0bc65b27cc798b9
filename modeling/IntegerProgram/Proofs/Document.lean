import IntegerProgram.Document.Reader
import IntegerProgram.Proofs.Document.Replay
import IntegerProgram.Proofs.Session.Solution

/-!
# Solutions of documents

Keys of a document are taken by their texts, and a key that is declared twice keeps the bounds of
its first declaration, as a key that is bound twice does. So the values that a verified solve
returns lie between the bounds of the first declaration of each key, whatever the engine is. Later
ones are not looked at.

## Main definitions

* `Document.VariableEntry.IsReadFrom`: what an entry of a document declares.
* `Session.HasBounds`: a session with the bounds of first declarations.
* `Document.IsHonoured`: whether values keep the bounds of an entry.

## Main statements

* `Document.exists_entries`: the entries of a document that is read.
* `Document.hasBounds_of_build`: the session of a document has the variables that it declares.
* `Document.optimise_honours`: values that are returned keep the bounds of the entries.
* `Document.not_optimise_honours`: a document with a second declaration that is not kept.
-/
namespace IntegerProgram

namespace Document

section Reader

variable {j entry : Json} {source place name : String} {d : Document} {v : VariableEntry}

theorem require_eq_ok {member : Json} :
    require entry name place = .ok member ↔ entry.member? name = some member := by
  unfold require
  split <;> simp_all [fail]

theorem readInteger_eq_ok {n : Int} : readInteger j place = .ok n ↔ j = .int n := by
  cases j <;> simp [readInteger, fail]

/-- What an entry of a document declares. -/
structure VariableEntry.IsReadFrom (v : VariableEntry) (entry : Json) : Prop where
  key : ∃ key, entry.member? "key" = some key ∧ textOf key = .ok v.key
  minimum : entry.member? "min" = some (.int v.minimum)
  maximum : entry.member? "max" = some (.int v.maximum)

theorem isReadFrom_of_readVariable (read : readVariable entry place = .ok v) :
    v.IsReadFrom entry := by
  simp only [readVariable, bind_eq_ok, require_eq_ok, readInteger_eq_ok, pure_eq_ok,
    Except.ok.injEq] at read
  obtain ⟨key, named, _, text, _, low, minimum, rfl, _, high, maximum, rfl, _, -, rfl⟩ := read
  exact ⟨⟨key, named, text⟩, low, high⟩

/-- What is no object declares nothing. -/
theorem readVariable_string (s : String) : readVariable (.string s) place ≠ .ok v := by
  intro read
  obtain ⟨⟨key, named, -⟩, -⟩ := isReadFrom_of_readVariable read
  simp [Json.member?] at named

/-- The variables of a document are those of its section, of which there is at least one. -/
theorem readSection_of_ofJson (read : ofJson j source = .ok d) :
    readSection j source "variables" (fun entry place _ => readVariable entry place) =
      .ok d.vars ∧ d.vars ≠ [] := by
  cases j with
  | object members =>
    simp only [ofJson] at read
    obtain ⟨vars, listed, read⟩ := bind_eq_ok.1 read
    cases vars with
    | nil => simp [fail] at read
    | cons v vs =>
      simp only [List.isEmpty_cons, Bool.false_eq_true, if_false, bind_eq_ok, pure_eq_ok,
        Except.ok.injEq] at read
      obtain ⟨_, -, _, -, _, -, _, -, _, -, _, -, _, -, rfl⟩ := read
      exact ⟨listed, List.cons_ne_nil _ _⟩
  | _ => simp [ofJson, fail] at read

/-- **What a document that is read declares**: its variables are those of a list of entries. -/
theorem exists_entries (read : ofJson j source = .ok d) :
    ∃ entries, j.member? "variables" = some (.array entries) ∧
      List.Forall₂ (fun entry v => v.IsReadFrom entry) entries d.vars := by
  obtain ⟨listed, nonempty⟩ := readSection_of_ofJson read
  obtain ⟨items, listed, entered⟩ := bind_eq_ok.1 listed
  have entered := mapM_eq_ok.1 entered
  -- the items of anything but an array are texts, of which none declares a variable
  have texts {names : List String} (same : items = (names.map Json.string).zipIdx) : False := by
    subst same
    cases names with
    | nil => exact nonempty (List.forall₂_nil_left_iff.1 entered)
    | cons name names =>
      obtain ⟨v, -, read⟩ := exists_mem_of_forall₂ entered _ List.mem_cons_self
      exact readVariable_string name read
  cases given : j.member? "variables" with
  | none =>
    rw [given] at listed
    exact (@texts [] (Except.ok.inj listed).symm).elim
  | some section_ =>
    rw [given] at listed
    cases section_ with
    | array entries =>
      obtain rfl := Except.ok.inj listed
      refine ⟨entries, rfl, ?_⟩
      rw [← List.zipIdx_map_fst 0 entries, List.forall₂_map_left_iff]
      exact entered.imp fun item v => isReadFrom_of_readVariable
    | object members =>
      refine (@texts (members.map (·.1)) ?_).elim
      rw [List.map_map]
      exact (Except.ok.inj listed).symm
    | string s => exact (texts (Except.ok.inj listed).symm).elim
    | _ => simp [itemsOf] at listed

end Reader

end Document

/-- Whether the first declaration of each key has given the bounds of its variable. -/
def Session.HasBounds (s : Session) (vs : List Document.VariableEntry) : Prop :=
  ∀ (i : Nat) v, vs[i]? = some v → (∀ k < i, ∀ w, vs[k]? = some w → w.key ≠ v.key) →
    ∃ x, s.registry.resolve (.text v.key) = .ok x ∧ x.lower = v.minimum ∧ x.upper = v.maximum

/-- **The session of a document** has the settings that were given, and the bounds of the first
declaration of each key. -/
theorem Document.hasBounds_of_build {d : Document} {config : Config} {s : Session}
    {holders : List Value} (built : d.build config = .ok (s, holders)) :
    s.IsCoherent ∧ s.config = config ∧ s.HasBounds d.vars := by
  obtain ⟨-, gained⟩ := gains_of_build built
  refine ⟨gained.coherent, gained.config, fun i v here first => ?_⟩
  have listed : v.listing ∈ s.registry.listing := by
    rw [listing_of_build built]
    exact List.mem_append_left _ (List.mem_map_of_mem (mem_firsts.2 ⟨i, here, first⟩))
  obtain ⟨e, he, same⟩ := List.mem_map.1 listed
  have key : e.1 = .text v.key := congrArg Listing.key same
  have resolved := resolve_of_build built he
  rw [key] at resolved
  exact ⟨e.2, resolved, congrArg Listing.lower same, congrArg Listing.upper same⟩

/-- Whether a value lies between two integers. -/
def Value.IsBetween (value : Value) (lower upper : Int) : Prop :=
  (int lower).isAtMost value = .ok true ∧ value.isAtMost (int upper) = .ok true

/-- An integer lies between integers as its number does. -/
theorem Value.isBetween_int {n lower upper : Int} :
    (int n).IsBetween lower upper ↔ lower ≤ n ∧ n ≤ upper := by
  have below := compares_int lower n .le
  have above := compares_int n upper .le
  simp only [compares, Comparison.holds] at below above
  simp [IsBetween, below, above]

/-- What is found to lie within the bounds of a variable lies between them. -/
theorem Variable.isBetween_of_admitsValue {v : Variable} {value : Value}
    (plain : v.declared = none) (admitted : v.admitsValue value = .ok true) :
    value.IsBetween v.lower v.upper := by
  unfold admitsValue at admitted
  split at admitted
  · next n _ => simpa [Value.isBetween_int, admits] using admitted
  · simp only [declaration, plain, Option.getD_none, Value.ofDatum] at admitted
    obtain ⟨enough, below, admitted⟩ := bind_eq_ok.1 admitted
    cases enough with
    | true => exact ⟨below, admitted⟩
    | false => simp at admitted

/-- The value that is listed for a key. -/
def valueOf? (values : List (Value × Value)) (key : Value) : Option Value :=
  (values.find? fun e => e.1.isSameKey key).map (·.2)

namespace Session

variable {s t : Session} {o : Outcome} {values : List (Value × Value)}

/-- A text is listed with the value of its variable. -/
theorem valueOf?_text (read : s.valuesOf o.values = .ok values) {key : String} {x : Variable}
    (resolved : s.registry.resolve (.text key) = .ok x) :
    ∃ value, o.values.get x.index = .ok value ∧ valueOf? values (.text key) = some value := by
  rw [Registry.resolve_key_eq_ok (by simp), Registry.variableOf?_eq_some] at resolved
  obtain ⟨k, found, -⟩ := resolved
  have alike (e : Value × Variable) (e' : Value × Value)
      (made : (do return (e.1, ← o.values.get e.2.index)) = .ok e') :
      e.1.meets (.text key) = e'.1.isSameKey (.text key) := by
    obtain ⟨value, -, same⟩ := bind_eq_ok.1 made
    obtain rfl := Except.ok.inj same
    simp [Value.meets, Value.refuses_text]
  obtain ⟨e, listed, made⟩ := exists_find?_of_forall₂ (mapM_eq_ok.1 read) alike found
  obtain ⟨value, given, same⟩ := bind_eq_ok.1 made
  obtain rfl := Except.ok.inj same
  exact ⟨value, given, by simp [valueOf?, listed]⟩

/-- **Values that were verified keep the bounds of their variables.** -/
theorem IsCoherent.isBetween_of_solve (C : s.IsCoherent) (checks : s.config.verify.isTrue = true)
    {engine : Engine} {keys coefficients : List Value} {sense : Sense}
    (ran : (solve engine keys coefficients sense).on s = (.ok values, t)) {key : String}
    {x : Variable} (resolved : s.registry.resolve (.text key) = .ok x) :
    ∃ value, valueOf? values (.text key) = some value ∧ value.IsBetween x.lower x.upper := by
  rcases solve_cases C ran with ⟨fault, failed, -⟩ |
    ⟨sum, summed, ⟨fault, -, failed, -⟩ | ⟨o, r, answered, concluded, -⟩⟩
  · simp at failed
  · simp at failed
  · obtain ⟨-, passed, read⟩ := valuesAt_eq_ok concluded.symm
    have read : s.valuesOf o.values = .ok values := read
    obtain ⟨value, given, listed⟩ := valueOf?_text read resolved
    have own : x ∈ s.model.vars := by
      rw [← C.inStep]
      exact Registry.mem_vars_of_resolve resolved
    obtain ⟨value', given', admitted⟩ := (verify_eq_ok.1 (passed checks)).1 x own
    obtain rfl : value' = value := Except.ok.inj (given'.symm.trans given)
    exact ⟨value', listed, Variable.isBetween_of_admitsValue (C.model.declared x own) admitted⟩

end Session

namespace Document

variable {j : Json} {source : String} {d : Document} {config : Config} {s t : Session}
  {holders : List Value} {engine : Engine} {values : List (Value × Value)}

/-- The text that the key of an entry is taken by, if it can be written. -/
def keyText? (entry : Json) : Option String :=
  (entry.member? "key").bind fun key => (textOf key).toOption

/-- Whether values keep the bounds of an entry: under the text of its key there is a value between
its minimum and its maximum. -/
def IsHonoured (entry : Json) (values : List (Value × Value)) : Prop :=
  ∃ key lower upper value, keyText? entry = some key ∧ entry.member? "min" = some (.int lower) ∧
    entry.member? "max" = some (.int upper) ∧ valueOf? values (.text key) = some value ∧
    value.IsBetween lower upper

theorem VariableEntry.IsReadFrom.keyText? {v : VariableEntry} {entry : Json}
    (read : v.IsReadFrom entry) : Document.keyText? entry = some v.key := by
  obtain ⟨key, named, same⟩ := read.key
  simp [Document.keyText?, named, same, Except.toOption]

/-- **What a verified solve of a document returns keeps its declarations**, whatever the engine is:
of the entries whose keys have the same text, the first is honoured. -/
theorem optimise_honours (read : ofJson j source = .ok d)
    (built : d.build config = .ok (s, holders)) (checks : config.verify.isTrue = true)
    (solved : (d.optimise engine).on s = (.ok values, t)) :
    ∃ entries, j.member? "variables" = some (.array entries) ∧
      ∀ (i : Nat) entry, entries[i]? = some entry →
        (∀ k < i, ∀ other, entries[k]? = some other → keyText? other ≠ keyText? entry) →
        IsHonoured entry values := by
  obtain ⟨entries, listed, declared⟩ := exists_entries read
  obtain ⟨C, rfl, bounds⟩ := hasBounds_of_build built
  refine ⟨entries, listed, fun i entry here first => ?_⟩
  obtain ⟨v, there, read⟩ := exists_getElem?_of_forall₂ declared here
  have new : ∀ k < i, ∀ w, d.vars[k]? = some w → w.key ≠ v.key := by
    intro k hk w earlier same
    obtain ⟨other, before, readOther⟩ := exists_getElem?_of_forall₂ declared.flip earlier
    exact first k hk other before (by rw [readOther.keyText?, read.keyText?, same])
  obtain ⟨x, resolved, low, high⟩ := bounds i v there new
  obtain ⟨value, found, between⟩ := C.isBetween_of_solve checks solved resolved
  rw [low, high] at between
  exact ⟨_, _, _, value, read.keyText?, read.minimum, read.maximum, found, between⟩

/-- An entry that declares the key "x". -/
def entryOfX (lower upper : Int) : Json :=
  .object [("key", .string "x"), ("min", .int lower), ("max", .int upper)]

/-- A document that declares a key twice, and has it for its objective. -/
def declaredTwice : Json :=
  .object [("variables", .array [entryOfX 0 10, entryOfX 5 6]),
    ("objective", .object [("terms", .object [("x", .int 1)])])]

/-- Zero is an optimum of this document. -/
theorem exists_optimise_declaredTwice :
    ∃ (d : Document) (s t : Session) (engine : Engine), ofJson declaredTwice "" = .ok d ∧
      d.build {} = .ok (s, []) ∧
      (d.optimise engine).on s = (.ok [(.text "x", .int 0)], t) := by
  let d : Document := ⟨[⟨"x", 0, 10, "x"⟩, ⟨"x", 5, 6, "x"⟩], [], [], [], .minimize, [("x", 1)]⟩
  have word : "minimize".toLower = "minimize" := by decide +kernel
  have sense : senseOf? "minimize" = some .minimize := by decide +kernel
  have read : ofJson declaredTwice "" = .ok d := by
    simp [d, ofJson, declaredTwice, entryOfX, readSection, itemsOf, Json.member?, require,
      readVariable, readInteger, readTerms, pairsOf, readSense, textMember, word, sense,
      List.zipIdx]
  let engine : Engine := fun _ _ => .ok { status := .optimal, values := fun _ => some (.int 0) }
  exact ⟨d, _, _, engine, read, rfl, rfl⟩

/-- The first of two declarations is honoured. -/
theorem optimise_honours_first :
    ∃ (d : Document) (config : Config) (s t : Session) (engine : Engine)
      (values : List (Value × Value)), ofJson declaredTwice "" = .ok d ∧
      d.build config = .ok (s, []) ∧ config.verify.isTrue = true ∧
      (d.optimise engine).on s = (.ok values, t) ∧ IsHonoured (entryOfX 0 10) values := by
  obtain ⟨d, s, t, engine, read, built, solved⟩ := exists_optimise_declaredTwice
  obtain ⟨entries, listed, honoured⟩ := optimise_honours read built rfl solved
  obtain rfl : entries = [entryOfX 0 10, entryOfX 5 6] := by
    simpa [declaredTwice, Json.member?] using listed.symm
  exact ⟨d, {}, s, t, engine, _, read, built, rfl, solved, honoured 0 _ rfl (by simp)⟩

/-- The second of two declarations is not honoured. -/
theorem not_optimise_honours :
    ∃ (d : Document) (config : Config) (s t : Session) (engine : Engine)
      (values : List (Value × Value)), ofJson declaredTwice "" = .ok d ∧
      d.build config = .ok (s, []) ∧ config.verify.isTrue = true ∧
      (d.optimise engine).on s = (.ok values, t) ∧
      declaredTwice.member? "variables" = some (.array [entryOfX 0 10, entryOfX 5 6]) ∧
      ¬IsHonoured (entryOfX 5 6) values := by
  obtain ⟨d, s, t, engine, read, built, solved⟩ := exists_optimise_declaredTwice
  refine ⟨d, {}, s, t, engine, _, read, built, rfl, solved, rfl, ?_⟩
  rintro ⟨key, lower, upper, value, named, low, high, found, between⟩
  obtain rfl : "x" = key := Option.some.inj named
  obtain rfl : 5 = lower := Json.int.inj (Option.some.inj low)
  obtain rfl : .int 0 = value := Option.some.inj found
  simp [Value.isBetween_int] at between

end Document

end IntegerProgram
