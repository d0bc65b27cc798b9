import IntegerProgram.Attempt
import IntegerProgram.LinearForm.Evaluation
import IntegerProgram.Value.Integer

/-!
# Models

A model is a table of variables, a list of constraints, a list of search hints and an objective.
Models only grow: every operation appends one item to one of the lists, or replaces the objective,
and refers to no variable but those of the model itself.

## Main definitions

* `Model`: what has been recorded.
* `Model.newVariable`, `Model.add`, `Model.fix`, `Model.addStrategy`, `Model.setObjective`: the
  operations.
-/
namespace IntegerProgram

/-- Which end of the values of an objective is wanted. -/
inductive Sense where
  | minimize
  | maximize
  deriving DecidableEq, Inhabited, Repr

namespace Sense

/-- The name of a sense. -/
def name : Sense → String
  | minimize => "minimize"
  | maximize => "maximize"

/-- The sense with a given name. -/
def ofName? (s : String) : Option Sense := [minimize, maximize].find? fun t => t.name = s

end Sense

/-- What a solve is to optimise. -/
structure Objective where
  sum : LinearForm
  sense : Sense
  deriving Inhabited

/-- Everything recorded so far. A strategy is a list of variables to branch on, from the left and
with the least value first; it changes the order of a search and never its result. -/
structure Model where
  table : Nat := 0
  vars : List Variable := []
  constraints : List Constraint := []
  strategies : List (List Variable) := []
  objective : Option Objective := none
  deriving Inhabited

namespace Model

/-- The place in the table that an index stands for, counted from the end if it is negative. -/
def placeOf (m : Model) (index : Int) : Int := if index < 0 then index + m.vars.length else index

/-- The variable at an index. -/
def variableAt? (m : Model) (index : Int) : Option Variable :=
  if m.placeOf index < 0 then none else m.vars[(m.placeOf index).toNat]?

/-- Checks that a variable is the one in the table at its index. -/
def requireOwn (m : Model) (v : Variable) : Except Fault Unit :=
  if v.index + m.vars.length < 0 then throw (.noSuchPlace v.index)
  else if m.variableAt? v.index = some v then pure ()
  else throw (.raised (.foreignVariable v))

/-- Checks that all variables are in the table. -/
def requireAllOwn (m : Model) (vs : List Variable) : Except Fault Unit := vs.forM m.requireOwn

/-- Whether a value is zero or one. -/
def isSwitch (value : Value) : Except Fault Bool := do
  if ← (Value.int 0).equals value then return true else (Value.int 1).equals value

/-- Checks that a gate has an indicator of the model with the values zero and one, at one of which
it is active. -/
def requireGate (m : Model) (g : Gate) : Except Fault Unit := do
  m.requireOwn g.indicator
  if !g.indicator.isBoolean then throw (.raised (.gateDomain g.indicator))
  unless ← isSwitch g.activeWhen do throw (.raised (.gateValue g.activeWhen))

/-- Checks the gate of a constraint, if it has one. -/
def requireGate? (m : Model) (gate : Option Gate) : Except Fault Unit := gate.forM m.requireGate

/-- Allocates a variable. -/
def newVariable (lower upper : Int) (name : String) : Attempt Model Variable := do
  if upper < lower then
    throw (.raised (.emptyDomain (.int lower) (.int upper) (.text name)))
  let m ← get
  let place := m.vars.length
  let made : Variable := { origin := ⟨m.table, place⟩, index := place, name, lower, upper }
  set { m with vars := m.vars ++ [made] }
  return made

/-- Allocates a variable with the bounds and the name of a declaration. Bounds that are no numbers
count as such if they have an order. -/
def declareVariable (d : Declaration) : Attempt Model Variable := do
  if ← (Value.ofDatum d.upper).isLess (.ofDatum d.lower) then
    throw (.raised (.emptyDomain (.ofDatum d.lower) (.ofDatum d.upper) (.ofDatum d.name)))
  let m ← get
  let place := m.vars.length
  let made : Variable := {
    origin := ⟨m.table, place⟩
    index := place
    name := d.name.shown
    lower := ((d.lower.toRat?).map Rat.ceil).getD 0
    upper := ((d.upper.toRat?).map Rat.floor).getD 0
    declared := some d }
  set { m with vars := m.vars ++ [made] }
  return made

/-- Checks that what a constraint is named by can be written: its description or, if that is empty,
its sum. -/
def requireName (sum : LinearForm) (description : Value) : Except Fault Unit :=
  if description.isTrue then description.requireText else sum.requireShown

@[simp] theorem requireName_text {s : String} (sum : LinearForm) (named : s ≠ "") :
    requireName sum (.text s) = .ok () := by
  simp [requireName, Value.isTrue, named]

/-- Records that a sum compares with a number as stated, while the gate is active if one is given.
-/
def add (sum : LinearForm) (operator : Operator) (rhs : Value) (gate : Option Gate := none)
    (description : Value := .text "") : Attempt Model Constraint := do
  let m ← get
  m.requireAllOwn sum.vars
  m.requireGate? gate
  requireName sum description
  let what := if description.isTrue then description.shown else sum.text
  let rhs ← rhs.asInteger s!"right-hand side of {what}"
  let made : Constraint := ⟨sum, operator, rhs, gate, description⟩
  set { m with constraints := m.constraints ++ [made] }
  return made

/-- Records that a variable has a given value. -/
def fix (v : Variable) (value : Value) (description : Value := .text "") :
    Attempt Model Constraint :=
  add (.whole ⟨[(v, 1)]⟩) (.known .eq) value none description

/-- Records a search hint. -/
def addStrategy (vs : List Variable) : Attempt Model Unit := do
  let m ← get
  m.requireAllOwn vs
  set { m with strategies := m.strategies ++ [vs] }

/-- Replaces the objective. -/
def setObjective (sum : LinearForm) (sense : Sense) : Attempt Model Unit := do
  let m ← get
  m.requireAllOwn sum.vars
  set { m with objective := some ⟨sum, sense⟩ }

/-- Replaces the objective, with the sense given by name. -/
def setObjectiveNamed (sum : LinearForm) (sense : Value) : Attempt Model Unit := do
  let m ← get
  m.requireAllOwn sum.vars
  match sense.asText?.bind Sense.ofName? with
  | some t => setObjective sum t
  | none => throw (.raised (.unknownSense sense))

end Model

end IntegerProgram
