import IntegerProgram.Json.Basic
import IntegerProgram.Report

/-!
# Reports as JSON

A report is written as an object with a member for each of its fields, the values under the texts of
their keys.
-/
namespace IntegerProgram

/-- A number as JSON. -/
def Number.toJson : Number → Json
  | whole n => .int n
  | real x => .real x

/-- A report as JSON. -/
def Report.toJson (r : Report) (text : Value → String) : Json :=
  .object [("backend", .string r.backend), ("sense", .string r.sense.name),
    ("status", .string r.status.name), ("objective_value", .ofValue r.objective),
    ("num_variables", .int r.variableCount), ("num_constraints", .int r.constraintCount),
    ("wall_time_s", r.seconds.toJson), ("timed_out", .bool r.timedOut),
    ("values", .object ((r.valuesBy text).map fun e => (e.1, .ofValue e.2)))]

end IntegerProgram
