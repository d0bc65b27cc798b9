import IntegerProgram.Text.Printable
import IntegerProgram.Text.Unit

/-!
# Quoted text

A text is quoted between single marks, or between double marks if it holds a single mark and no
double one. Inside, a backslash and the mark in use are escaped by a backslash, the line feed, the
carriage return and the tab have escapes of their own, and any other unprintable character is
written by its code point, in two, four or eight hexadecimal digits. A half of a surrogate pair is
written as such.
-/
namespace IntegerProgram.Text

/-- The last `width` lower-case hexadecimal digits of `n`. -/
def hexDigits (width n : Nat) : List Char :=
  (List.range width).reverse.map fun i => Nat.digitChar (n / Nat.pow 16 i % 16)

/-- The mark that a text is quoted between. -/
def quoteMark (s : List Char) : Char :=
  if s.contains '\'' && !s.contains '"' then '"' else '\''

/-- A character as it stands between two of the marks. -/
def escape (mark c : Char) : List Char :=
  if c = mark || c = '\\' then ['\\', c]
  else if c = '\n' then ['\\', 'n']
  else if c = '\r' then ['\\', 'r']
  else if c = '\t' then ['\\', 't']
  else if isPrintable c then [c]
  else if c.toNat < 0x100 then '\\' :: 'x' :: hexDigits 2 c.toNat
  else if c.toNat < 0x10000 then '\\' :: 'u' :: hexDigits 4 c.toNat
  else '\\' :: 'U' :: hexDigits 8 c.toNat

/-- A unit as it stands between two of the marks. -/
def escapeUnit (mark : Char) (unit : Nat) : List Char :=
  if isHalf unit then '\\' :: 'u' :: hexDigits 4 unit else escape mark (Char.ofNat unit)

/-- The text between quotation marks. -/
def quote (s : String) : String :=
  let mark := quoteMark s.toList
  String.ofList (mark :: (units s).flatMap (escapeUnit mark) ++ [mark])

end IntegerProgram.Text
