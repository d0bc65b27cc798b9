import IntegerProgram.Number.Binary64
import IntegerProgram.Text.Blank
import IntegerProgram.Text.Digit

/-!
# Numerals

A numeral that a person types may have blanks around it, a sign, digits of any script and single
underscores between two digits. `Numeral.integer?` reads whole numbers and `Numeral.real?` doubles,
which also have a fraction, an exponent and names for the infinities and for no number at all.
-/
namespace IntegerProgram.Numeral

/-- The most digits that a whole number may be written with. -/
def maxDigits : Nat := 4300

/-- A blank that may surround a numeral; the information separators may not. -/
def isPadding (c : Char) : Bool :=
  Text.isBlank c && !(0x1C ≤ c.toNat && c.toNat ≤ 0x1F)

/-- The characters of a text without the padding at its two ends. -/
def unpadded (s : String) : List Char :=
  ((s.toList.dropWhile isPadding).reverse.dropWhile isPadding).reverse

/-- Reads on after a digit: the value and the count of the digits so far, and what follows them. -/
def digitsFrom (value count : Nat) : List Char → Nat × Nat × List Char
  | [] => (value, count, [])
  | '_' :: c :: rest =>
    match Text.digitValue? c with
    | some d => digitsFrom (10 * value + d) (count + 1) rest
    | none => (value, count, '_' :: c :: rest)
  | c :: rest =>
    match Text.digitValue? c with
    | some d => digitsFrom (10 * value + d) (count + 1) rest
    | none => (value, count, c :: rest)

/-- The digits at the start of the text: their value, their number and what follows them. -/
def digits? : List Char → Option (Nat × Nat × List Char)
  | [] => none
  | c :: rest => (Text.digitValue? c).map fun d => digitsFrom d 1 rest

/-- Whether the text starts with a minus sign, and what follows an optional sign. -/
def sign : List Char → Bool × List Char
  | '-' :: rest => (true, rest)
  | '+' :: rest => (false, rest)
  | rest => (false, rest)

/-- The whole number that the text writes. -/
def integer? (s : String) : Option Int :=
  let (negative, body) := sign (unpadded s)
  match digits? body with
  | some (value, count, []) =>
    if count ≤ maxDigits then some (if negative then -value else value) else none
  | _ => none

/-- The fraction after a point, as its digits' value and number. -/
def fraction : List Char → Nat × Nat × List Char
  | '.' :: rest => (digits? rest).getD (0, 0, rest)
  | rest => (0, 0, rest)

/-- The exponent after an `e`, zero if there is none. -/
def exponent? : List Char → Option Int
  | [] => some 0
  | c :: rest =>
    if c = 'e' || c = 'E' then
      let (negative, body) := sign rest
      match digits? body with
      | some (value, _, []) => some (if negative then -value else value)
      | _ => none
    else none

/-- The double nearest to the number that the text writes. -/
def real? (s : String) : Option Binary64 :=
  let (negative, body) := sign (unpadded s)
  let word := String.ofList (body.map Char.toLower)
  if word = "nan" then some .notANumber
  else if word = "inf" || word = "infinity" then some (.infinite negative)
  else
    let whole := digits? body
    let (value, _, afterWhole) := whole.getD (0, 0, body)
    let (part, places, afterFraction) := fraction afterWhole
    if whole.isNone && places = 0 then none
    else (exponent? afterFraction).map fun e =>
      Binary64.ofDecimal negative (value * Nat.pow 10 places + part) (e - places)

end IntegerProgram.Numeral
