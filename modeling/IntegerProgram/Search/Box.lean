/-!
# Boxes

A box gives every unknown of a search an interval of integers. A search narrows boxes until each
interval is one point, and splits them where it cannot.
-/
namespace IntegerProgram.Search

/-- The intervals of the unknowns, by place. -/
abbrev Box := Array (Int × Int)

namespace Box

/-- The least value of an unknown. -/
def lower (b : Box) (i : Nat) : Int := (b.getD i (0, 0)).1

/-- The greatest value of an unknown. -/
def upper (b : Box) (i : Nat) : Int := (b.getD i (0, 0)).2

/-- Whether an unknown has one value left. -/
def isFixed (b : Box) (i : Nat) : Bool := b.lower i = b.upper i

/-- How many values an unknown may have besides one. -/
def width (b : Box) (i : Nat) : Nat := (b.upper i - b.lower i).toNat

/-- The sum of the widths, which every split makes smaller. -/
def breadth (b : Box) : Nat := b.foldl (fun n d => n + (d.2 - d.1).toNat) 0

/-- Whether some interval is empty, so that the box has no point. -/
def hasNoPoint (b : Box) : Bool := b.any fun d => d.2 < d.1

/-- The box with the least value of an unknown raised. -/
def raise (b : Box) (i : Nat) (x : Int) : Box :=
  if b.lower i < x then b.setIfInBounds i (x, b.upper i) else b

/-- The box with the greatest value of an unknown lowered. -/
def cap (b : Box) (i : Nat) (x : Int) : Box :=
  if x < b.upper i then b.setIfInBounds i (b.lower i, x) else b

/-- The box with one value of an unknown taken away, if it is at an end of the interval. -/
def exclude (b : Box) (i : Nat) (x : Int) : Box :=
  if x = b.lower i then b.raise i (x + 1) else if x = b.upper i then b.cap i (x - 1) else b

/-- The two halves of a box, split at the middle of an interval. -/
def halves (b : Box) (i : Nat) : Box × Box :=
  let middle := b.lower i + (b.upper i - b.lower i) / 2
  (b.cap i middle, b.raise i (middle + 1))

/-- The least values of all unknowns: the point of a box that is one. -/
def corner (b : Box) : Array Int := b.map (·.1)

end Box

end IntegerProgram.Search
