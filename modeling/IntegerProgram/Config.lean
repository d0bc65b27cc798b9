import IntegerProgram.Value.Conversion

/-!
# Settings

The settings of a session. Each is kept as the value that it was given as, since reports and faults
show it; an engine is given the number or the truth value that it stands for.

## Main definitions

* `Config`: the settings, with their defaults.
* `Config.ofFields`: settings from named values.
* `Config.validate`: the checks on backend, time limit and workers, in this order.
-/
namespace IntegerProgram

/-- The settings of a session. -/
structure Config where
  backend : Value := .text "cp_sat"
  timeLimit : Value := .none
  workers : Value := .int 1
  seed : Value := .int 0
  logSearch : Value := .bool false
  verify : Value := .bool true
  deriving Inhabited

/-- The engines that a session can be solved with. -/
inductive Backend where
  | gated
  | bigM
  deriving DecidableEq, Inhabited, Repr

namespace Backend

/-- The name by which settings choose an engine. -/
def name : Backend → String
  | gated => "cp_sat"
  | bigM => "cbc"

/-- The package that an engine is from, and what it is installed as. -/
def package : Backend → String × String
  | gated => ("OR-Tools", "ortools")
  | bigM => ("PuLP", "pulp")

/-- The engine with a given name, if there is one. -/
def ofName? (name : Value) : Option Backend :=
  [gated, bigM].find? fun b => name.isSameKey (.text b.name)

/-- The engine with a given name. -/
def ofName (name : Value) : Except Fault Backend :=
  match ofName? name with
  | some b => pure b
  | none => throw (.raised (.unknownBackend name))

end Backend

namespace Config

/-- The settings by name. -/
def fields (c : Config) : List (String × Value) :=
  [("backend", c.backend), ("time_limit_s", c.timeLimit), ("num_workers", c.workers),
    ("random_seed", c.seed), ("log_search_progress", c.logSearch), ("verify_solution", c.verify)]

/-- The settings with one of them replaced. -/
def set (c : Config) (name : String) (value : Value) : Except Fault Config :=
  match name with
  | "backend" => pure { c with backend := value }
  | "time_limit_s" => pure { c with timeLimit := value }
  | "num_workers" => pure { c with workers := value }
  | "random_seed" => pure { c with seed := value }
  | "log_search_progress" => pure { c with logSearch := value }
  | "verify_solution" => pure { c with verify := value }
  | _ => throw (.unknownSetting name)

/-- The settings with several of them replaced. -/
def setAll (c : Config) (changes : List (String × Value)) : Except Fault Config :=
  changes.foldlM (fun c change => c.set change.1 change.2) c

/-- The settings that are given by name, the others as they are by default. -/
def ofFields (fields : List (String × Value)) : Except Fault Config := setAll {} fields

/-- The settings, if the backend is known, the time limit positive and a worker there. -/
def validate (c : Config) : Except Fault Config := do
  if (Backend.ofName? c.backend).isNone then throw (.raised (.unlistedBackend c.backend))
  match c.timeLimit with
  | .none => pure ()
  | limit => if ← limit.isAtMost (.int 0) then throw (.raised (.timeLimitNotPositive limit))
  if ← c.workers.isLess (.int 1) then throw (.raised (.tooFewWorkers c.workers))
  return c

/-- Valid settings with several of them replaced, those by nothing left as they are. -/
def withOverrides (c : Config) (changes : List (String × Value)) : Except Fault Config := do
  let kept := changes.filter fun change => match change.2 with
    | .none => false
    | _ => true
  (← c.setAll kept).validate

end Config

end IntegerProgram
