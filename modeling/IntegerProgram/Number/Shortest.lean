import IntegerProgram.Number.Binary64

/-!
# The shortest decimal text of a double

Among the decimals that round to a given double, the one with the fewest digits stands for it, and
of several such decimals the nearest to the double. Reading the text gives the double back.

The search is exact. The decimals with `n` digits form a grid, and if any of them rounds to the
double then so does one of the double's two neighbours on that grid; the first `n` with such a
neighbour is the answer.

## Main definitions

* `Binary64.shortestDigits`: digits and decimal exponent of the shortest decimal.
* `Binary64.text`: the written form, positional for exponents from `-4` to `15`.
-/
namespace IntegerProgram

/-- The least `e` with `n < d · 10 ^ (e + 1)` and `d · 10 ^ e ≤ n`, searched upward from `e`. -/
def decimalExponentFrom (n d : Nat) (e : Int) : Nat → Int
  | 0 => e
  | fuel + 1 =>
    let above :=
      if e + 1 < 0 then d ≤ n * Nat.pow 10 (-(e + 1)).toNat
      else d * Nat.pow 10 (e + 1).toNat ≤ n
    if above then decimalExponentFrom n d (e + 1) fuel else e

/-- The decimal exponent of a positive quotient: that of its first digit. -/
def decimalExponent (n d : Nat) : Int :=
  let bits : Int := n.log2 - d.log2 - 1
  decimalExponentFrom n d (bits * 30103 / 100000 - 1) 4

namespace Binary64

/-- The two ends of the interval of reals that round to `m · 2 ^ e`, in units of `2 ^ (e - 2)`.
The interval is half as wide below a power of two. -/
def roundingInterval (m : Nat) (e : Int) : Nat × Nat :=
  if m = Nat.pow 2 52 ∧ leastExponent < e then (4 * m - 1, 4 * m + 2) else (4 * m - 2, 4 * m + 2)

/-- The multiple of `10 ^ k` nearest to `m · 2 ^ e` among its two neighbours that round to it. -/
def neighbour? (m : Nat) (e k : Int) : Option Nat :=
  let (low, high) := roundingInterval m e
  let tens : Nat × Nat := if k < 0 then (1, Nat.pow 10 (-k).toNat) else (Nat.pow 10 k.toNat, 1)
  let (unit, grid) := scale tens.2 tens.1 (2 - e)
  let value := 4 * m * unit
  let below := value / grid
  let inside (c : Nat) : Bool :=
    if m % 2 = 0 then low * unit ≤ c * grid && c * grid ≤ high * unit
    else low * unit < c * grid && c * grid < high * unit
  match inside below, inside (below + 1) with
  | true, true => some (roundHalfEven value grid)
  | true, false => some below
  | false, true => some (below + 1)
  | false, false => none

/-- The first grid of at most `fuel` with a decimal that rounds to the number; `n` digits are tried
next. -/
def shortestFrom (m : Nat) (e top : Int) (n : Nat) : Nat → Nat × Int
  | 0 => (0, top)
  | fuel + 1 =>
    match neighbour? m e (top - n) with
    | some c => (c, top - n)
    | none => shortestFrom m e top (n + 1) fuel

/-- A positive number `m · 2 ^ e` as `c · 10 ^ k` with the fewest digits in `c`. -/
def shortestDecimal (m : Nat) (e : Int) : Nat × Int :=
  let (n, d) := scale m 1 (-e)
  shortestFrom m e (decimalExponent n d) 0 18

/-- The digits of `c` without its final zeros. -/
def significantDigits (c : Nat) : List Char :=
  ((Nat.toDigits 10 c).reverse.dropWhile (· = '0')).reverse

/-- The digits of the shortest decimal and the exponent of its first digit. -/
def shortestDigits (m : Nat) (e : Int) : List Char × Int :=
  let (c, k) := shortestDecimal m e
  (significantDigits c, k + (Nat.toDigits 10 c).length - 1)

/-- Digits with the point after the first one and a signed exponent of at least two digits. -/
def scientific (digits : List Char) (exponent : Int) : List Char :=
  let mantissa := match digits with
    | [] => []
    | [c] => [c]
    | c :: rest => c :: '.' :: rest
  let places := Nat.toDigits 10 exponent.natAbs
  mantissa ++ ['e', if exponent < 0 then '-' else '+']
    ++ List.replicate (2 - places.length) '0' ++ places

/-- Digits with the point where the exponent puts it and at least one digit on each side. -/
def positional (digits : List Char) (exponent : Int) : List Char :=
  if exponent < 0 then '0' :: '.' :: List.replicate (exponent.natAbs - 1) '0' ++ digits
  else
    let whole := exponent.toNat + 1
    let fraction := digits.drop whole
    (digits ++ List.replicate (whole - digits.length) '0').take whole
      ++ '.' :: (if fraction.isEmpty then ['0'] else fraction)

/-- The shortest text that reads back as the number. -/
def text : Binary64 → String
  | notANumber _ => "nan"
  | infinite s => if s then "-inf" else "inf"
  | finite s m e =>
    let body :=
      if m = 0 then ['0', '.', '0']
      else
        let (digits, exponent) := shortestDigits m e
        if -4 ≤ exponent && exponent < 16 then positional digits exponent
        else scientific digits exponent
    String.ofList (if s then '-' :: body else body)

end Binary64

end IntegerProgram
