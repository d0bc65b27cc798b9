import IntegerProgram.Document.Reader
import IntegerProgram.Proofs.Document.Replay
import IntegerProgram.Proofs.Report
import IntegerProgram.Proofs.Session.Conclusion
import IntegerProgram.Proofs.Session.History
import Mathlib.Data.List.Nodup

/-!
# Reports of solved documents

The report of a document names a declared key by its text and an implication by its number, as in
"condition#1". A declared key may have such a name too, and then the report has one value for both:
that of the implication. No other value is lost.

## Main definitions

* `Document.conditionName`: the name of an implication in a report.
* `Document.NamesCondition`: whether a key is the name of an implication of a document.

## Main statements

* `Document.losesNothing_of_solve`: what the report of a solved document has of its values.
* `Document.not_losesNothing_of_solve`: a document of which a value is lost.
-/
namespace IntegerProgram

/-- Whether a call is a solve. -/
def Call.IsSolve : Call → Prop
  | request _ => False
  | solve .. => True

namespace Session

variable {s t : Session} {calls : List Call} {engine : Engine} {keys coefficients : List Value}
  {sense : Sense} {values : List (Value × Value)}

/-- Solves leave what requests have built. -/
theorem content_after (C : s.IsCoherent) (solves : ∀ call ∈ calls, call.IsSolve) :
    (s.after calls).content = s.content := by
  induction calls generalizing s with
  | nil => rfl
  | cons call calls ih =>
    rw [List.forall_mem_cons] at solves
    have same : (s.step call).after.content = s.content := by
      cases call with
      | request _ => exact solves.1.elim
      | solve engine keys coefficients sense =>
        obtain ⟨e, ended, -⟩ := Attempt.on_map_cases
          (rfl : (Call.solve engine keys coefficients sense).make.on s = _)
        exact solve_content C ended
    rw [after_cons, ih (C.of_content same) solves.2, same]

/-- Values are listed for all keys. -/
theorem keys_of_valuesOf {given : Valuation} (read : s.valuesOf given = .ok values) :
    values.map (·.1) = s.registry.keys := by
  have alike : List.Forall₂ (fun e listed => e.1 = listed.1) s.registry.entries values := by
    refine (mapM_eq_ok.1 read).imp fun e listed made => ?_
    obtain ⟨value, -, same⟩ := bind_eq_ok.1 made
    obtain rfl := Except.ok.inj same
    rfl
  have listed : List.Forall₂ Eq s.registry.keys (values.map (·.1)) := by
    rwa [Registry.keys, List.forall₂_map_left_iff, List.forall₂_map_right_iff]
  rw [List.forall₂_eq_eq_eq] at listed
  exact listed.symm

/-- A solve that returns values has reported them, one for each key. -/
theorem IsCoherent.reported_of_solve (C : s.IsCoherent)
    (ran : (solve engine keys coefficients sense).on s = (.ok values, t)) :
    ∃ r, t.lastReport = some r ∧ r.values = values ∧ values.map (·.1) = s.registry.keys := by
  rcases solve_cases C ran with ⟨fault, failed, -⟩ |
    ⟨sum, summed, ⟨fault, -, failed, -⟩ | ⟨o, -, answered, concluded, -⟩⟩
  · simp at failed
  · simp at failed
  · obtain ⟨-, r, rfl, described⟩ := solve_answered_cases C summed answered ran
    obtain ⟨-, -, read⟩ := valuesAt_eq_ok concluded.symm
    exact ⟨r, rfl, described.returned values rfl, keys_of_valuesOf read⟩

end Session

namespace Document

variable {d : Document} {config : Config} {s t : Session} {returned : List Value}
  {calls : List Call} {engine : Engine} {keys coefficients : List Value} {sense : Sense}
  {values : List (Value × Value)}

/-- The name of an implication in a report. -/
def conditionName (n : Nat) : String := s!"condition#{n}"

theorem conditionName_injective : Function.Injective conditionName := by
  intro m n same
  have digits : m.repr = n.repr := by simpa [conditionName] using same
  rw [Nat.repr_eq_ofList_toDigits, Nat.repr_eq_ofList_toDigits, String.ofList_inj] at digits
  rw [← @Nat.ofDigitChars_ten_toDigits m, digits, Nat.ofDigitChars_ten_toDigits]

/-- Whether a key is the name of an implication of a document. -/
def NamesCondition (d : Document) (key : String) : Prop :=
  ∃ n, 1 ≤ n ∧ n ≤ d.implications.length ∧ key = conditionName n

theorem keyText_holders (d : Document) :
    d.holders.map Value.keyText = (List.range' 1 d.implications.length).map conditionName := by
  rw [← List.zipIdx_map_snd, holders, holdersFrom, List.map_map, List.map_map]
  rfl

theorem mem_keyText_holders (d : Document) (key : String) :
    key ∈ d.holders.map Value.keyText ↔ d.NamesCondition key := by
  rw [keyText_holders, List.mem_map]
  constructor
  · intro listed
    obtain ⟨n, within, rfl⟩ := listed
    rw [List.mem_range'_1] at within
    exact ⟨n, within.1, by omega, rfl⟩
  · intro named
    obtain ⟨n, positive, most, rfl⟩ := named
    exact ⟨n, List.mem_range'_1.2 ⟨positive, by omega⟩, rfl⟩

theorem nodup_keyText_holders (d : Document) : (d.holders.map Value.keyText).Nodup := by
  rw [keyText_holders]
  exact List.Nodup.map conditionName_injective List.nodup_range'

/-- The texts of the keys of a document. -/
theorem keyText_keys (built : d.build config = .ok (s, returned)) :
    s.registry.keys.map Value.keyText = d.names ++ d.holders.map Value.keyText := by
  obtain ⟨-, -, keys, -⟩ := keys_of_build built
  have plain : d.names.map (Value.keyText ∘ Value.text) = d.names := List.map_id _
  rw [keys, List.map_append, List.map_map, plain]

/-- The texts of the keys differ unless a declared key is the name of an implication. -/
theorem nodup_keyText_iff (built : d.build config = .ok (s, returned)) :
    (s.registry.keys.map Value.keyText).Nodup ↔ ∀ v ∈ d.vars, ¬d.NamesCondition v.key := by
  rw [keyText_keys built, List.nodup_append]
  constructor
  · intro distinct v declared named
    have listed : v.key ∈ d.names := mem_names.2 ⟨v, declared, rfl⟩
    exact distinct.2.2 _ listed _ ((d.mem_keyText_holders _).2 named) rfl
  · intro plain
    refine ⟨d.nodup_names, d.nodup_keyText_holders, ?_⟩
    intro key listed other held same
    obtain ⟨v, declared, rfl⟩ := mem_names.1 listed
    exact plain v declared ((d.mem_keyText_holders _).1 (same ▸ held))

/-- A key that is no name of an implication has another text than all keys after it. -/
theorem pairwise_keys (built : d.build config = .ok (s, returned)) :
    s.registry.keys.Pairwise fun k later =>
      (∀ key, d.NamesCondition key → k ≠ .text key) → later.keyText ≠ k.keyText := by
  obtain ⟨-, -, keys, -⟩ := keys_of_build built
  rw [keys, List.pairwise_append]
  refine ⟨?_, ?_, ?_⟩
  · rw [List.pairwise_map]
    exact d.nodup_names.imp fun different _ same => different same.symm
  · have distinct := d.nodup_keyText_holders
    rw [List.Nodup, List.pairwise_map] at distinct
    exact distinct.imp fun different _ same => different same.symm
  · intro k listed later held plain same
    obtain ⟨key, -, rfl⟩ := List.mem_map.1 listed
    have named : d.NamesCondition key :=
      (d.mem_keyText_holders key).1 (List.mem_map.2 ⟨later, held, same⟩)
    exact plain key named rfl

/-- **What the report of a solved document has of its values**, whatever the engine is: it has all
of them just if no declared key is the name of an implication, and otherwise it lacks none but those
of such keys. -/
theorem losesNothing_of_solve (built : d.build config = .ok (s, returned))
    (solves : ∀ call ∈ calls, call.IsSolve)
    (ran : (Session.solve engine keys coefficients sense).on (s.after calls) = (.ok values, t)) :
    ∃ r, t.lastReport = some r ∧ r.values = values ∧ values.map (·.1) = s.registry.keys ∧
      (r.LosesNothing Value.keyText ↔ ∀ v ∈ d.vars, ¬d.NamesCondition v.key) ∧
      ∀ e ∈ values, (∀ key, d.NamesCondition key → e.1 ≠ .text key) →
        r.Writes Value.keyText e.1.keyText e.2 := by
  obtain ⟨C, -⟩ := keys_of_build built
  have kept := Session.content_after C solves
  obtain ⟨r, reported, rfl, listed⟩ := (C.of_content kept).reported_of_solve ran
  have same : (s.after calls).content.registry = s.content.registry := by rw [kept]
  rw [show (s.after calls).registry = s.registry from same] at listed
  refine ⟨r, reported, rfl, listed, ?_, ?_⟩
  · rw [Report.losesNothing_iff, ← nodup_keyText_iff built, ← listed, List.map_map]
    rfl
  · intro e there plain
    obtain ⟨before, after, all⟩ := List.append_of_mem there
    have apart := pairwise_keys built
    rw [← listed, List.pairwise_map, all, List.pairwise_append, List.pairwise_cons] at apart
    exact Report.writes_of_latest all fun later hl => apart.2.1.1 later hl plain

/-- An object with a key for its terms, that is to be at least one. -/
def atLeastOne (key : String) : Json :=
  .object [("terms", .object [(key, .int 1)]), ("relation", .string ">="), ("rhs", .int 1)]

/-- A document with one key, an implication about it, and the key for its objective. -/
def withImplication (key : String) : Json :=
  .object [("variables", .array [.object [("key", .string key), ("min", .int 0), ("max", .int 5)]]),
    ("implications", .array [.object [("if", atLeastOne key), ("then", atLeastOne key)]]),
    ("objective", .object [("sense", .string "maximize"), ("terms", .object [(key, .int 1)])])]

/-- What this document describes. -/
def impliedByItself (key : String) : Document where
  vars := [⟨key, 0, 5, key⟩]
  fixed := []
  constraints := []
  implications := [⟨⟨[(key, 1)], .gte, 1, ""⟩, ⟨[(key, 1)], .gte, 1, ""⟩, "implication 0"⟩]
  sense := .maximize
  objective := [(key, 1)]

theorem ofJson_withImplication (key : String) :
    ofJson (withImplication key) "" = .ok (impliedByItself key) := by
  have word : "maximize".toLower = "maximize" := by decide +kernel
  have sense : senseOf? "maximize" = some .maximize := by decide +kernel
  have symbol : Relation.ofText? ">=" = some .gte := by decide +kernel
  have relation : (Value.text ">=").asRelation = .ok .gte := by simp [Value.asRelation, symbol]
  have number : toString "implication " ++ Nat.repr 0 = "implication 0" := by decide +kernel
  simp [impliedByItself, ofJson, withImplication, atLeastOne, readSection, itemsOf, Json.member?,
    require, readVariable, readImplication, readRelation, readInteger, readTerms, pairsOf,
    readSense, textMember, word, sense, relation, number, Json.toValue, List.zipIdx]

/-- An engine that takes five for the first variable and one for all others. -/
def fiveAndOnes : Engine := fun _ _ =>
  .ok { status := .optimal, values := fun i => some (.int (if i = 0 then 5 else 1)) }

/-- A key of another name is reported beside the implication. -/
theorem losesNothing_of_solve_plain :
    ∃ (d : Document) (s t : Session) (returned : List Value) (values : List (Value × Value))
      (r : Report), ofJson (withImplication "x") "" = .ok d ∧ d.build {} = .ok (s, returned) ∧
      (d.optimise fiveAndOnes).on s = (.ok values, t) ∧ t.lastReport = some r ∧
      values.map (·.2) = [.int 5, .int 1] ∧ r.LosesNothing Value.keyText := by
  obtain ⟨s, t, holders, values, built, ran, given⟩ :
      ∃ s t holders values, (impliedByItself "x").build {} = .ok (s, holders) ∧
        ((impliedByItself "x").optimise fiveAndOnes).on s = (.ok values, t) ∧
        values.map (·.2) = [.int 5, .int 1] := ⟨_, _, _, _, rfl, rfl, rfl⟩
  have none_ : ∀ call ∈ ([] : List Call), call.IsSolve := by simp
  obtain ⟨r, reported, -, -, complete, -⟩ := losesNothing_of_solve built none_ ran
  refine ⟨_, s, t, holders, values, r, ofJson_withImplication "x", built, ran, reported, given,
    complete.2 ?_⟩
  intro v declared named
  obtain rfl := List.mem_singleton.1 declared
  obtain ⟨n, -, -, same⟩ := named
  have first : "x".toList.head? = (conditionName n).toList.head? :=
    congrArg (fun text : String => text.toList.head?) same
  have other : (conditionName n).toList.head? = some 'c' := by
    rw [conditionName, String.toList_append]
    rfl
  exact absurd (first.trans other) (by decide)

/-- **A document of which a value is lost**: its key has the name of its implication, and the report
has the value of the implication only. -/
theorem not_losesNothing_of_solve :
    ∃ (d : Document) (s t : Session) (returned : List Value) (values : List (Value × Value))
      (r : Report), ofJson (withImplication "condition#1") "" = .ok d ∧
      d.build {} = .ok (s, returned) ∧ (d.optimise fiveAndOnes).on s = (.ok values, t) ∧
      t.lastReport = some r ∧ r.values = values ∧
      values = [(.text "condition#1", .int 5), (.holder 1 (.text "implication 0"), .int 1)] ∧
      r.valuesBy Value.keyText = [("condition#1", .int 1)] ∧ ¬r.LosesNothing Value.keyText := by
  obtain ⟨s, t, holders, values, r, built, ran, reported, same, given⟩ :
      ∃ s t holders values r, (impliedByItself "condition#1").build {} = .ok (s, holders) ∧
        ((impliedByItself "condition#1").optimise fiveAndOnes).on s = (.ok values, t) ∧
        t.lastReport = some r ∧ r.values = values ∧
        values = [(.text "condition#1", .int 5), (.holder 1 (.text "implication 0"), .int 1)] :=
    ⟨_, _, _, _, _, rfl, rfl, rfl, rfl, rfl⟩
  have key : (Value.text "condition#1").keyText = "condition#1" := rfl
  have holder : (Value.holder 1 (.text "implication 0")).keyText = "condition#1" := by
    decide +kernel
  refine ⟨_, s, t, holders, values, r, ofJson_withImplication "condition#1", built, ran, reported,
    same, given, ?_, ?_⟩
  · simp [Report.valuesBy, same, given, key, holder, Report.put]
  · simp [Report.losesNothing_iff, same, given, key, holder]

end Document

end IntegerProgram
