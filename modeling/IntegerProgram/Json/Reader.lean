import IntegerProgram.Json.Basic
import IntegerProgram.Number.Numeral
import IntegerProgram.Text.Unit

/-!
# Reading JSON

The reader takes the standard grammar, in which blanks are the space, the tab, the line feed and the
carriage return, and three words beyond it: `NaN`, `Infinity` and `-Infinity`. Of members with one
name the last counts, in the place of the first. An escape may stand for half of a surrogate pair. A
whole number with too many digits is not read, nor is what is nested too deeply.

## Main definitions

* `Json.read`: the value that a text writes.
-/
namespace IntegerProgram.Json

/-- Why a text is not read. -/
inductive ReadError where
  | malformed
  | tooManyDigits
  | tooDeep
  deriving DecidableEq, Inhabited, Repr

/-- A reader takes characters from the front of a text and returns what they write and the rest. -/
abbrev Reader (α : Type) := List Char → Except ReadError (α × List Char)

/-- Whether the character may stand between the parts of a text. -/
def isSpace (c : Char) : Bool := c = ' ' || c = '\t' || c = '\n' || c = '\r'

/-- The text without blanks in front. -/
def skipSpace (cs : List Char) : List Char := cs.dropWhile isSpace

/-- The value of a hexadecimal digit. -/
def hexValue? (c : Char) : Option Nat :=
  if '0' ≤ c && c ≤ '9' then some (c.toNat - '0'.toNat)
  else if 'a' ≤ c && c ≤ 'f' then some (c.toNat - 'a'.toNat + 10)
  else if 'A' ≤ c && c ≤ 'F' then some (c.toNat - 'A'.toNat + 10)
  else none

/-- Four hexadecimal digits. -/
def codeUnit? : List Char → Option (Nat × List Char)
  | a :: b :: c :: d :: rest => do
    let a ← hexValue? a
    let b ← hexValue? b
    let c ← hexValue? c
    let d ← hexValue? d
    return (((a * 16 + b) * 16 + c) * 16 + d, rest)
  | _ => none

/-- The second half of a surrogate pair, with its escape in front. -/
def lowSurrogate? : List Char → Option (Nat × List Char)
  | '\\' :: 'u' :: rest =>
    match codeUnit? rest with
    | some (n, rest) => if 0xDC00 ≤ n && n ≤ 0xDFFF then some (n, rest) else none
    | none => none
  | _ => none

/-- The unit of an escape, which is a character together with the following escape if the two are a
pair. -/
def unicodeEscape (cs : List Char) : Except ReadError (Nat × List Char) :=
  match codeUnit? cs with
  | none => throw .malformed
  | some (n, rest) =>
    if 0xD800 ≤ n && n ≤ 0xDBFF then
      match lowSurrogate? rest with
      | some (low, rest) => pure (0x10000 + (n - 0xD800) * 0x400 + (low - 0xDC00), rest)
      | none => pure (n, rest)
    else pure (n, rest)

/-- The character that a one-letter escape stands for. -/
def simpleEscape? : Char → Option Char
  | '"' => some '"'
  | '\\' => some '\\'
  | '/' => some '/'
  | 'b' => some '\x08'
  | 'f' => some '\x0c'
  | 'n' => some '\n'
  | 'r' => some '\r'
  | 't' => some '\t'
  | _ => none

/-- The rest of a string up to its closing mark, after the units read so far. -/
def readString (read : List Nat) : Nat → Reader String
  | 0, _ => throw .malformed
  | fuel + 1, cs =>
    match cs with
    | [] => throw .malformed
    | '"' :: rest => pure (Text.ofUnits read.reverse, rest)
    | '\\' :: 'u' :: rest => do
      let (unit, rest) ← unicodeEscape rest
      readString (unit :: read) fuel rest
    | '\\' :: c :: rest =>
      match simpleEscape? c with
      | some d => readString (d.toNat :: read) fuel rest
      | none => throw .malformed
    | c :: rest =>
      if c.toNat < 0x20 then throw .malformed else readString (c.toNat :: read) fuel rest

/-- The digits in front of a text and what follows them. -/
def takeDigits (cs : List Char) : List Char × List Char :=
  (cs.takeWhile Char.isDigit, cs.dropWhile Char.isDigit)

/-- The number that decimal digits write. -/
def digitsValue (digits : List Char) : Nat :=
  digits.foldl (fun n c => 10 * n + (c.toNat - '0'.toNat)) 0

/-- A point and at least one digit. -/
def takeFraction (cs : List Char) : Option (List Char × List Char) :=
  match cs with
  | '.' :: rest =>
    match takeDigits rest with
    | ([], _) => none
    | (digits, rest) => some (digits, rest)
  | _ => none

/-- The mark of an exponent, a sign if there is one, and at least one digit. -/
def takeExponent (cs : List Char) : Option (Int × List Char) :=
  match cs with
  | c :: rest =>
    if c = 'e' || c = 'E' then
      let (negative, rest) := Numeral.sign rest
      match takeDigits rest with
      | ([], _) => none
      | (digits, rest) =>
        let n : Int := digitsValue digits
        some (if negative then -n else n, rest)
    else none
  | [] => none

/-- A number, whose sign has been read. -/
def readNumber (negative : Bool) : Reader Json := fun cs =>
  let (whole, rest) := match cs with
    | '0' :: rest => (['0'], rest)
    | _ => takeDigits cs
  if whole.isEmpty then throw .malformed
  else
    let fraction := takeFraction rest
    let rest := (fraction.map (·.2)).getD rest
    let exponent := takeExponent rest
    let rest := (exponent.map (·.2)).getD rest
    if fraction.isNone && exponent.isNone then
      if Numeral.maxDigits < whole.length then throw .tooManyDigits
      else
        let n : Int := digitsValue whole
        pure (.int (if negative then -n else n), rest)
    else
      let places := (fraction.map (·.1)).getD []
      let e := (exponent.map (·.1)).getD 0
      pure (.real (.ofDecimal negative (digitsValue (whole ++ places)) (e - places.length)), rest)

/-- The words that stand for a value. -/
def words : List (String × Json) :=
  [("null", .null), ("true", .bool true), ("false", .bool false), ("NaN", .real .notANumber),
    ("Infinity", .real (.infinite false)), ("-Infinity", .real (.infinite true))]

/-- One of the words. -/
def readWord? (cs : List Char) : Option (Json × List Char) :=
  words.findSome? fun w =>
    if w.1.toList.isPrefixOf cs then some (w.2, cs.drop w.1.length) else none

/-- How many arrays and objects may be nested. -/
def maxDepth : Nat := 980

/-- The number of levels that are left inside an array or an object. -/
def descend : Nat → Except ReadError Nat
  | 0 => throw .tooDeep
  | levels + 1 => pure levels

mutual

/-- A value, without blanks in front, in which so many levels may be nested. -/
def readValue (levels : Nat) : Nat → Reader Json
  | 0, _ => throw .malformed
  | fuel + 1, cs =>
    match cs with
    | [] => throw .malformed
    | '"' :: rest => do
      let (s, rest) ← readString [] (rest.length + 1) rest
      return (.string s, rest)
    | '[' :: rest => do
      let levels ← descend levels
      match skipSpace rest with
      | ']' :: rest => return (.array [], rest)
      | rest =>
        let (items, rest) ← readItems levels fuel rest
        return (.array items, rest)
    | '\x7b' :: rest => do
      let levels ← descend levels
      match skipSpace rest with
      | '\x7d' :: rest => return (.object [], rest)
      | rest =>
        let (members, rest) ← readMembers levels [] fuel rest
        return (.object members, rest)
    | c :: rest =>
      match readWord? cs with
      | some found => pure found
      | none => if c = '-' then readNumber true rest else readNumber false cs

/-- The items of an array up to its closing bracket. -/
def readItems (levels : Nat) : Nat → Reader (List Json)
  | 0, _ => throw .malformed
  | fuel + 1, cs => do
    let (item, rest) ← readValue levels fuel cs
    match skipSpace rest with
    | ']' :: rest => return ([item], rest)
    | ',' :: rest => do
      let (items, rest) ← readItems levels fuel (skipSpace rest)
      return (item :: items, rest)
    | _ => throw .malformed

/-- The members of an object up to its closing brace, after those read so far. -/
def readMembers (levels : Nat) (members : List (String × Json)) :
    Nat → Reader (List (String × Json))
  | 0, _ => throw .malformed
  | fuel + 1, cs =>
    match cs with
    | '"' :: rest => do
      let (name, rest) ← readString [] (rest.length + 1) rest
      match skipSpace rest with
      | ':' :: rest => do
        let (value, rest) ← readValue levels fuel (skipSpace rest)
        let members := setMember members name value
        match skipSpace rest with
        | '\x7d' :: rest => return (members, rest)
        | ',' :: rest => readMembers levels members fuel (skipSpace rest)
        | _ => throw .malformed
      | _ => throw .malformed
    | _ => throw .malformed

end

/-- The value that the whole text writes. Every step takes a character, so the length of the text
is fuel enough. -/
def read (s : String) : Except ReadError Json := do
  let cs := s.toList
  let (value, rest) ← readValue maxDepth (2 * cs.length + 2) (skipSpace cs)
  if (skipSpace rest).isEmpty then return value else throw .malformed

end IntegerProgram.Json
