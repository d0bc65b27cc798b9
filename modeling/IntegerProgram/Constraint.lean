import IntegerProgram.LinearForm
import IntegerProgram.Relation

/-!
# Constraints

A constraint compares a linear form with an integer. It may be gated by an indicator, a variable
with the values zero and one, and then binds only while the indicator has the stated value.

The comparison is recorded as it was given. A symbol that is no comparison is kept, and found out by
whatever has to enforce the constraint.

## Main definitions

* `Gate`, `Constraint`: the parts of a constraint.
* `Constraint.text`: how a constraint is shown.
-/
namespace IntegerProgram

/-- The comparison that a constraint was given. -/
inductive Operator where
  | known (c : Comparison)
  | unknown (symbol : String)
  deriving DecidableEq, Inhabited, Repr

/-- The symbol between the two sides of a constraint. -/
def Operator.symbol : Operator → String
  | known c => c.symbol
  | unknown s => s

/-- The operator with a given symbol. -/
def Operator.ofSymbol (s : String) : Operator :=
  match Comparison.ofSymbol? s with
  | some c => .known c
  | none => .unknown s

/-- The indicator value at which a constraint binds. -/
structure Gate where
  indicator : Variable
  activeWhen : Value := .int 1
  deriving Inhabited

/-- The condition that a gate stands for. -/
def Gate.text (g : Gate) : String := s!"{g.indicator.name} == {g.activeWhen.shown}"

/-- What keeps the condition from being written. -/
def Gate.obstacle? (g : Gate) : Option Obstacle :=
  g.indicator.nameObstacle? <|> g.activeWhen.obstacle?

/-- A linear form, compared with an integer, while the gate is active if there is one. -/
structure Constraint where
  sum : LinearForm
  operator : Operator
  rhs : Int
  gate : Option Gate := none
  description : Value := .text ""
  deriving Inhabited

/-- The comparison, and the condition under which it binds. -/
def Constraint.text (c : Constraint) : String :=
  let body := s!"{c.sum.text} {c.operator.symbol} {c.rhs}"
  match c.gate with
  | some g => body ++ " if " ++ g.text
  | none => body

end IntegerProgram
