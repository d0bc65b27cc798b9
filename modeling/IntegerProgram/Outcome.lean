import IntegerProgram.Number.Basic
import IntegerProgram.Valuation

/-!
# The outcome of a solve

An engine answers with a status, values for the variables if it has found a point, the value of the
objective there, the time it took and whether it stopped at a limit.
-/
namespace IntegerProgram

/-- What an engine can say about a model. -/
inductive Status where
  | optimal
  | feasible
  | infeasible
  | unbounded
  | modelInvalid
  | unknown
  deriving DecidableEq, Inhabited, Repr

namespace Status

/-- The name of a status. -/
def name : Status → String
  | optimal => "OPTIMAL"
  | feasible => "FEASIBLE"
  | infeasible => "INFEASIBLE"
  | unbounded => "UNBOUNDED"
  | modelInvalid => "MODEL_INVALID"
  | unknown => "UNKNOWN"

/-- All statuses. -/
def all : List Status := [optimal, feasible, infeasible, unbounded, modelInvalid, unknown]

/-- The status with a given name. -/
def ofName? (s : String) : Option Status := all.find? fun t => t.name = s

/-- Whether values come with the status. -/
def hasPoint : Status → Bool
  | optimal | feasible => true
  | _ => false

/-- Whether a search under a time limit that ends so was stopped by the limit. -/
def isUndecided : Status → Bool
  | feasible | unknown => true
  | _ => false

end Status

/-- The answer of an engine to one solve. -/
structure Outcome where
  status : Status
  values : Valuation := fun _ => none
  objective : Value := .none
  wallTime : Number := .real (.zero false)
  timedOut : Bool := false
  deriving Inhabited

end IntegerProgram
