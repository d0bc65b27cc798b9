import IntegerProgram.Number.Shortest
import IntegerProgram.Text.Obstacle
import IntegerProgram.Text.Quoted

/-!
# Data

A datum is what a variable can be declared with: a number, a truth value, a text, nothing, or a list
or a record of data. Like other values it has two texts, a shown one for a reader and a literal that
tells the type.

## Main definitions

* `Datum`: a datum. Lists and records hold their parts one in front of the others, so that equality
  is decidable.
* `Datum.shown`, `Datum.literal`: the texts of a datum.
* `Datum.obstacleAt`: what keeps a datum from being written.
-/
namespace IntegerProgram

mutual

/-- A value that a variable can be declared with. -/
inductive Datum where
  | nothing
  | truth (b : Bool)
  | whole (n : Int)
  | real (x : Binary64)
  | text (s : String)
  | list (items : DatumList)
  | record (entries : DatumRecord)

/-- Data in turn. -/
inductive DatumList where
  | nil
  | cons (first : Datum) (rest : DatumList)

/-- Named data in turn. -/
inductive DatumRecord where
  | nil
  | cons (name : String) (value : Datum) (rest : DatumRecord)

end

deriving instance DecidableEq for Datum, DatumList, DatumRecord
deriving instance Repr, Inhabited for Datum, DatumList, DatumRecord

namespace Datum

/-- A truth value, capitalised. -/
def truthText (b : Bool) : String := if b then "True" else "False"

mutual

/-- The text that tells the type of a datum. -/
def literal : Datum → String
  | nothing => "None"
  | truth b => truthText b
  | whole n => toString n
  | real x => x.text
  | text s => Text.quote s
  | list items => "[" ++ ", ".intercalate (listLiterals items) ++ "]"
  | record entries => "\x7b" ++ ", ".intercalate (recordLiterals entries) ++ "\x7d"

/-- The literals of data in turn. -/
def listLiterals : DatumList → List String
  | .nil => []
  | .cons first rest => first.literal :: listLiterals rest

/-- The literals of named data in turn. -/
def recordLiterals : DatumRecord → List String
  | .nil => []
  | .cons name value rest => (Text.quote name ++ ": " ++ value.literal) :: recordLiterals rest

end

/-- The text of a datum for a reader. -/
def shown : Datum → String
  | text s => s
  | datum => datum.literal

mutual

/-- What keeps a datum from being written where so many levels are left. -/
def obstacleAt : Nat → Datum → Option Obstacle
  | _, whole n => Obstacle.ofInt? n
  | 0, list _ | 0, record _ => some .tooDeep
  | levels + 1, list items => listObstacleAt levels items
  | levels + 1, record entries => recordObstacleAt levels entries
  | _, _ => none

/-- What keeps data in turn from being written. -/
def listObstacleAt : Nat → DatumList → Option Obstacle
  | _, .nil => none
  | levels, .cons first rest => first.obstacleAt levels <|> listObstacleAt levels rest

/-- What keeps named data in turn from being written. -/
def recordObstacleAt : Nat → DatumRecord → Option Obstacle
  | _, .nil => none
  | levels, .cons _ value rest => value.obstacleAt levels <|> recordObstacleAt levels rest

end

/-- The exact value of a finite number, truth values counting as zero and one. -/
def toRat? : Datum → Option Rat
  | truth b => some (if b then 1 else 0)
  | whole n => some n
  | real x => x.toRat?
  | nothing | text _ | list _ | record _ => none

end Datum

end IntegerProgram
