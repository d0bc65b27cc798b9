import IntegerProgram.Number.Binary64

/-!
# A fixed number of decimal places

A double is written with a fixed number of places by rounding its exact value on the decimal grid,
half way to the even neighbour. The same grid point, taken back to a double, is the number rounded
to those places.
-/
namespace IntegerProgram.Binary64

/-- How many units of `10 ^ -places` the magnitude is, rounded half to even. -/
def unitsAt (places m : Nat) (e : Int) : Nat :=
  let (n, d) := scale m 1 (-e)
  roundHalfEven (n * Nat.pow 10 places) d

/-- The number with exactly `places` digits after the point. -/
def fixed (places : Nat) : Binary64 → String
  | notANumber _ => "nan"
  | infinite s => if s then "-inf" else "inf"
  | finite s m e =>
    let digits := Nat.toDigits 10 (unitsAt places m e)
    let padded := List.replicate (places + 1 - digits.length) '0' ++ digits
    let whole := padded.take (padded.length - places)
    let fraction := padded.drop (padded.length - places)
    String.ofList ((if s then ['-'] else []) ++ whole
      ++ if places = 0 then [] else '.' :: fraction)

/-- The double nearest to the number rounded to `places` decimal places. -/
def roundedTo (places : Nat) : Binary64 → Binary64
  | finite s m e => ofRatio s (unitsAt places m e) (Nat.pow 10 places)
  | x => x

end IntegerProgram.Binary64
