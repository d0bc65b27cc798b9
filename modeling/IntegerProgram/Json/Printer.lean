import IntegerProgram.Json.Basic
import IntegerProgram.Number.Shortest
import IntegerProgram.Text.Quoted

/-!
# Writing JSON

A value is written on one line or, with each item and member on a line of its own, indented by two
spaces a level. The text is ASCII: other characters are escaped by their code units. A double that
is no number or infinite is written by the word for it.
-/
namespace IntegerProgram.Json

/-- A code unit as an escape. -/
def unitEscape (n : Nat) : List Char := '\\' :: 'u' :: Text.hexDigits 4 n

/-- A character as it stands in a string. -/
def escapeChar (c : Char) : List Char :=
  let n := c.toNat
  if c = '"' || c = '\\' then ['\\', c]
  else if c = '\n' then ['\\', 'n']
  else if c = '\r' then ['\\', 'r']
  else if c = '\t' then ['\\', 't']
  else if n = 0x08 then ['\\', 'b']
  else if n = 0x0C then ['\\', 'f']
  else if 0x20 ≤ n && n < 0x7F then [c]
  else if n < 0x10000 then unitEscape n
  else unitEscape (0xD800 + (n - 0x10000) / 0x400) ++ unitEscape (0xDC00 + (n - 0x10000) % 0x400)

/-- A unit as it stands in a string. -/
def escapeUnit (unit : Nat) : List Char :=
  if Text.isHalf unit then unitEscape unit else escapeChar (Char.ofNat unit)

/-- A string between its marks. -/
def stringText (s : String) : String :=
  String.ofList ('"' :: (Text.units s).flatMap escapeUnit ++ ['"'])

/-- A double. -/
def realText : Binary64 → String
  | .notANumber _ => "NaN"
  | .infinite s => if s then "-Infinity" else "Infinity"
  | x => x.text

mutual

/-- The value on one line. -/
def line : Json → String
  | null => "null"
  | bool b => if b then "true" else "false"
  | int n => toString n
  | real x => realText x
  | string s => stringText s
  | array items => "[" ++ ",".intercalate (itemLines items) ++ "]"
  | object members => "\x7b" ++ ",".intercalate (memberLines members) ++ "\x7d"

/-- The items of an array, each on one line. -/
def itemLines : List Json → List String
  | [] => []
  | j :: rest => j.line :: itemLines rest

/-- The members of an object, each on one line. -/
def memberLines : List (String × Json) → List String
  | [] => []
  | (name, j) :: rest => (stringText name ++ ":" ++ j.line) :: memberLines rest

end

/-- The start of a line at a level. -/
def indentation (level : Nat) : String := "\n" ++ String.ofList (List.replicate (2 * level) ' ')

mutual

/-- The value over several lines, of which the first has been started at a level. -/
def indented (level : Nat) : Json → String
  | array (j :: rest) =>
    "[" ++ ",".intercalate (indentedItems (level + 1) (j :: rest)) ++ indentation level ++ "]"
  | object (m :: rest) =>
    "\x7b" ++ ",".intercalate (indentedMembers (level + 1) (m :: rest)) ++ indentation level
      ++ "\x7d"
  | null => "null"
  | bool b => if b then "true" else "false"
  | int n => toString n
  | real x => realText x
  | string s => stringText s
  | array [] => "[]"
  | object [] => "\x7b\x7d"

/-- The items of an array, each on lines of its own. -/
def indentedItems (level : Nat) : List Json → List String
  | [] => []
  | j :: rest => (indentation level ++ j.indented level) :: indentedItems level rest

/-- The members of an object, each on lines of its own. -/
def indentedMembers (level : Nat) : List (String × Json) → List String
  | [] => []
  | (name, j) :: rest =>
    (indentation level ++ stringText name ++ ": " ++ j.indented level) :: indentedMembers level rest

end

end IntegerProgram.Json
