import IntegerProgram.Document
import IntegerProgram.Json.Reader
import IntegerProgram.Value.Relation

/-!
# Reading model documents

A model document is a JSON object. Its sections are lists of entries; every section but the
variables and the objective may be left out, and so may descriptions. Terms are an object from keys
to coefficients, or a list of pairs. Keys and descriptions of any type are taken by their texts, if
these can be written.

A fault names the place of the first malformed entry. An object in the place of a list stands for
its names, and a text for its characters.

## Main definitions

* `Document.ofJson`: the document that a JSON value describes.
* `Document.load`: the document in the bytes of a file.
-/
namespace IntegerProgram.Document

/-- A fault at a place. -/
def fail {α : Type} (place : String) (problem : DocumentProblem) : Except Fault α :=
  throw (.raised (.document place problem))

/-- The member of an entry that must be there. -/
def require (entry : Json) (name place : String) : Except Fault Json :=
  match entry.member? name with
  | some j => pure j
  | none => fail place (.missing name)

/-- An integer. -/
def readInteger (j : Json) (place : String) : Except Fault Int :=
  match j with
  | .int n => pure n
  | _ => fail place (.notInteger j.toValue)

/-- The text that a value is taken by. -/
def textOf (j : Json) : Except Fault String := do
  j.toValue.requireText
  return j.toValue.shown

/-- A text is taken as it is. -/
@[simp] theorem textOf_string (s : String) : textOf (.string s) = .ok s := rfl

/-- The text of a member, or a default. -/
def textMember (entry : Json) (name default : String) : Except Fault String :=
  match entry.member? name with
  | some j => textOf j
  | none => pure default

/-- The items of a section, with their numbers. -/
def itemsOf (section? : Option Json) : Except Fault (List (Json × Nat)) :=
  match section? with
  | none => pure []
  | some (.array items) => pure items.zipIdx
  | some (.object members) => pure (members.map fun m => .string m.1).zipIdx
  | some (.string s) => pure ((Text.letters s).map .string).zipIdx
  | some _ => throw .notIterable

/-- The items of a list of terms as pairs of a key and a coefficient. -/
def pairsOf (j : Json) (place : String) : Except Fault (List (Json × Json)) :=
  match j with
  | .object members => pure (members.map fun m => (.string m.1, m.2))
  | .array items => items.mapM fun item =>
    match item with
    | .array [key, coefficient] => pure (key, coefficient)
    | _ => fail place (.notAPair item.toValue)
  | _ => fail place .notTerms

/-- Terms of a sum. -/
def readTerms (j : Json) (place : String) : Except Fault (List (String × Int)) := do
  (← pairsOf j place).mapM fun t => do
    let key ← textOf t.1
    let n ← readInteger t.2 s!"{place}[{key}]"
    return (key, n)

/-- A relation between a sum and a constant. -/
def readRelation (entry : Json) (place : String) : Except Fault RelationEntry := do
  let relation ← require entry "relation" place
  match relation.toValue.asRelation with
  | .error _ => fail place (.unsupportedRelation relation.toValue)
  | .ok r =>
    let terms ← readTerms (← require entry "terms" place) s!"{place}.terms"
    let rhs ← readInteger (← require entry "rhs" place) s!"{place}.rhs"
    return ⟨terms, r, rhs, ← textMember entry "description" ""⟩

/-- A variable. It is described by its key unless it has a description. -/
def readVariable (entry : Json) (place : String) : Except Fault VariableEntry := do
  let key ← textOf (← require entry "key" place)
  let minimum ← readInteger (← require entry "min" place) s!"{place}.min"
  let maximum ← readInteger (← require entry "max" place) s!"{place}.max"
  return ⟨key, minimum, maximum, ← textMember entry "description" key⟩

/-- A key with its value. -/
def readFixed (entry : Json) (place : String) : Except Fault (String × Int) := do
  let key ← textOf (← require entry "key" place)
  let value ← readInteger (← require entry "value" place) place
  return (key, value)

/-- An implication. It is described by its number unless it has a description. -/
def readImplication (entry : Json) (place : String) (number : Nat) :
    Except Fault ImplicationEntry := do
  let description ← textMember entry "description" s!"implication {number}"
  let condition ← readRelation (← require entry "if" place) s!"{place}.if"
  let consequence ← readRelation (← require entry "then" place) s!"{place}.then"
  return ⟨condition, consequence, description⟩

/-- The sense that a word stands for. -/
def senseOf? (word : String) : Option Sense :=
  if ["max", "maximise", "maximize"].contains word then some .maximize
  else if ["min", "minimise", "minimize"].contains word then some .minimize
  else none

/-- The sense of an objective, which is a minimum unless it says otherwise. -/
def readSense (objective : Json) (place : String) : Except Fault Sense :=
  match objective with
  | .object _ => do
    let word ← textMember objective "sense" "minimize"
    match senseOf? word.toLower with
    | some s => pure s
    | none => fail place .unknownSense
  | _ => fail place .unknownSense

/-- The entries of a section. -/
def readSection {α : Type} (j : Json) (source name : String)
    (readEntry : Json → String → Nat → Except Fault α) : Except Fault (List α) := do
  (← itemsOf (j.member? name)).mapM fun item =>
    readEntry item.1 s!"{source}: {name}[{item.2}]" item.2

/-- The document that a JSON value describes. The source is named in faults. -/
def ofJson (j : Json) (source : String := "<model>") : Except Fault Document := do
  match j with
  | .object _ => pure ()
  | _ => fail source .notAnObject
  let vars ← readSection j source "variables" fun entry place _ => readVariable entry place
  if vars.isEmpty then fail source .noVariables
  let fixed ← readSection j source "fixed" fun entry place _ => readFixed entry place
  let constraints ← readSection j source "constraints" fun entry place _ => readRelation entry place
  let implications ← readSection j source "implications" readImplication
  let objective ← require j "objective" source
  let sense ← readSense objective source
  let terms ← require objective "terms" s!"{source}: objective"
  let objective ← readTerms terms s!"{source}: objective.terms"
  return { vars, fixed, constraints, implications, sense, objective }

/-- The document in the bytes of a file, which are a text in UTF-8 that writes a JSON value. -/
def load (bytes : ByteArray) (path : String) : Except Fault Document :=
  match String.fromUTF8? bytes with
  | none => fail path .notText
  | some text =>
    match Json.read text with
    | .ok j => ofJson j path
    | .error .malformed => fail path .notJson
    | .error .tooManyDigits => throw .tooManyDigits
    | .error .tooDeep => throw .tooDeep

end IntegerProgram.Document
