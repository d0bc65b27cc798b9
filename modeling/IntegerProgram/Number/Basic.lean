import IntegerProgram.Number.Places

/-!
# Times

An engine reports a time in seconds either as an integer or as a double, and the difference shows
where the time is written.
-/
namespace IntegerProgram

/-- A number as it is reported: whole, or a double. -/
inductive Number where
  | whole (n : Int)
  | real (x : Binary64)
  deriving DecidableEq, Inhabited, Repr

namespace Number

/-- The number as a double. -/
def toBinary64 : Number → Binary64
  | whole n => .ofInt n
  | real x => x

/-- The number with exactly `places` digits after the point. -/
def fixed (places : Nat) (x : Number) : String := x.toBinary64.fixed places

/-- The number rounded to `places` decimal places, which a whole one does not need. -/
def roundedTo (places : Nat) : Number → Number
  | whole n => whole n
  | real x => real (x.roundedTo places)

end Number

end IntegerProgram
