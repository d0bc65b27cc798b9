import IntegerProgram.Datum

/-!
# Decision variables

A decision variable is a bounded integer unknown with a place in the table of the model that made
it. Two variables are the same only if one table made them in one step: index, name and bounds may
coincide without making them one.

A variable may have been declared with bounds that are no integers, or with a name that is no text.
It is shown as it was declared, and its bounds are the least and the greatest integer between those
that were declared.
-/
namespace IntegerProgram

/-- Which table made a variable, and how many it had made before. -/
structure Origin where
  table : Nat
  serial : Nat
  deriving DecidableEq, Inhabited, Repr

/-- What a variable was declared with. -/
structure Declaration where
  name : Datum
  lower : Datum
  upper : Datum
  deriving DecidableEq, Inhabited, Repr

/-- A bounded integer unknown. Its index is its place in the table of its model. What it was
declared with is kept if that is not just a text and two integers. -/
structure Variable where
  origin : Origin
  index : Int
  name : String
  lower : Int
  upper : Int
  declared : Option Declaration := none
  deriving DecidableEq, Inhabited, Repr

namespace Variable

/-- What the variable was declared with. -/
def declaration (v : Variable) : Declaration :=
  v.declared.getD ⟨.text v.name, .whole v.lower, .whole v.upper⟩

/-- Whether the bounds are the declared ones. -/
def isExact (v : Variable) : Bool :=
  v.declaration.lower.toRat? = some (v.lower : Rat)
    && v.declaration.upper.toRat? = some (v.upper : Rat)

/-- Whether the variable takes the values zero and one. -/
def isBoolean (v : Variable) : Bool := v.lower = 0 && v.upper = 1 && v.isExact

/-- The name with the bounds. -/
def label (v : Variable) : String :=
  s!"{v.name}[{v.declaration.lower.shown}..{v.declaration.upper.shown}]"

/-- What keeps the name of the variable from being written. -/
def nameObstacle? (v : Variable) : Option Obstacle :=
  v.declaration.name.obstacleAt Obstacle.maxLevels

/-- What keeps the name and the bounds from being written where so many levels are left. -/
def obstacleAt (levels : Nat) (v : Variable) : Option Obstacle :=
  v.declaration.name.obstacleAt levels <|> v.declaration.lower.obstacleAt levels
    <|> v.declaration.upper.obstacleAt levels

/-- What keeps the label of the variable from being written. -/
def obstacle? (v : Variable) : Option Obstacle := v.obstacleAt Obstacle.maxLevels

/-- Whether a value lies within the bounds. -/
def admits (v : Variable) (x : Int) : Bool := v.lower ≤ x && x ≤ v.upper

/-- A variable that was declared with a text and two integers has the declared bounds. -/
theorem isExact_of_declared_none {v : Variable} (h : v.declared = none) : v.isExact = true := by
  simp [isExact, declaration, h, Datum.toRat?]

end Variable

end IntegerProgram
