import IntegerProgram.Model
import IntegerProgram.Value.Text

/-!
# Reports

A report is the record of one solve, successful or not. The values are those of the keys, and there
are none unless an optimum was proven and passed the checks.
-/
namespace IntegerProgram

/-- The record of one solve: who solved what, how it ended, and how large the model was. -/
structure Report where
  backend : String
  sense : Sense
  status : Status
  objective : Value
  variableCount : Nat
  constraintCount : Nat
  wallTime : Number
  timedOut : Bool
  values : List (Value × Value) := []
  deriving Inhabited

namespace Report

/-- Whether an optimum was proven. -/
def isOptimal (r : Report) : Bool := r.status = .optimal

/-- A list with the value of an entry replaced, or the entry added at the end. -/
def put (entries : List (String × Value)) (key : String) (value : Value) : List (String × Value) :=
  if entries.any fun e => e.1 = key then
    entries.map fun e => if e.1 = key then (key, value) else e
  else entries ++ [(key, value)]

/-- The values under the texts of their keys. Keys with one text share an entry, which has the place
of the first and the value of the last. -/
def valuesBy (r : Report) (text : Value → String) : List (String × Value) :=
  r.values.foldl (fun entries e => put entries (text e.1) e.2) []

/-- The time of the solve in seconds, to the microsecond. -/
def seconds (r : Report) : Number := r.wallTime.roundedTo 6

end Report

end IntegerProgram
