import IntegerProgram.Config
import IntegerProgram.Model.Check

/-!
# Gated programs

An engine that knows enforcement literals takes a model nearly as it is. Every variable gets a
domain, of which those with the values zero and one are truth values and can be negated; every
constraint becomes a linear rule that may be enforced only if a literal is true. A constraint
without terms is decided here: if it holds it adds nothing, and if not it becomes a clause that
forbids its gate.

## Main definitions

* `GatedProgram`: domains, rules, hints and objective.
* `GatedProgram.ofModel`: the program of a model.
* `GatedProgram.Answer.outcome`: what an engine's answer says about the model.
-/
namespace IntegerProgram

/-- A truth variable or its negation. -/
structure Literal where
  index : Int
  positive : Bool
  deriving DecidableEq, Inhabited, Repr

/-- The opposite literal. -/
def Literal.negate (l : Literal) : Literal := { l with positive := !l.positive }

/-- The literal with its index replaced. -/
def Literal.relabel (f : Int → Int) (l : Literal) : Literal := { l with index := f l.index }

/-- The literal that is true where a gate is active. -/
def Gate.literal (g : Gate) : Literal :=
  ⟨g.indicator.index, !g.activeWhen.isSameKey (.int 0)⟩

/-- The terms of a form by the indexes of their variables. -/
def LinearForm.indexed (f : LinearForm) : List (Int × Value) :=
  f.terms.map fun t => (t.1.index, t.2)

/-- The values that a variable of a gated program may take: the truth values, or those between its
bounds. -/
inductive GatedProgram.Domain where
  | truth (v : Variable)
  | range (v : Variable)
  deriving DecidableEq, Inhabited, Repr

/-- What a point of a gated program has to satisfy. -/
inductive GatedProgram.Rule where
  | linear (terms : List (Int × Value)) (comparison : Comparison) (rhs : Int)
      (onlyIf : Option Literal)
  | clause (literals : List Literal)
  deriving Inhabited

/-- Domains, rules, search hints and objective, all in the order of the model. -/
structure GatedProgram where
  domains : List GatedProgram.Domain
  rules : List GatedProgram.Rule
  hints : List (List Int)
  objective : Option (Sense × List (Int × Value))
  deriving Inhabited

namespace GatedProgram

/-- The domain of a variable. -/
def Domain.ofVariable (v : Variable) : Domain :=
  if v.isBoolean then .truth v else .range v

/-- The rule of a constraint, if it needs one. -/
def Rule.ofConstraint? (c : Constraint) : Except Fault (Option Rule) := do
  let onlyIf := c.gate.map Gate.literal
  match c.sum.terms, c.operator with
  | [], op =>
    if ← op.holds c.sum c.rhs fun _ => none then return none
    else return some (.clause (onlyIf.map Literal.negate).toList)
  | _, .unknown s => throw (.unsupportedOperator s)
  | _, .known op => return some (.linear c.sum.indexed op c.rhs onlyIf)

/-- The rule with all indexes replaced. -/
def Rule.relabel (f : Int → Int) : Rule → Rule
  | linear terms op rhs onlyIf =>
    linear (terms.map fun t => (f t.1, t.2)) op rhs (onlyIf.map (Literal.relabel f))
  | clause literals => clause (literals.map (Literal.relabel f))

/-- The program with all indexes replaced. -/
def relabel (f : Int → Int) (p : GatedProgram) : GatedProgram where
  domains := p.domains
  rules := p.rules.map (Rule.relabel f)
  hints := p.hints.map fun h => h.map f
  objective := p.objective.map fun o => (o.1, o.2.map fun t => (f t.1, t.2))

/-- The program of a model, in which every index is a place in the table. -/
def ofModel (m : Model) : Except Fault GatedProgram := do
  let rules ← m.constraints.mapM Rule.ofConstraint?
  let p : GatedProgram := {
    domains := m.vars.map Domain.ofVariable
    rules := rules.filterMap id
    hints := m.strategies.map fun vs => vs.map (·.index)
    objective := m.objective.map fun o => (o.sense, o.sum.indexed) }
  return p.relabel m.placeOf

/-- The parameters of the engine, in the order in which they are set. -/
def parameters (c : Config) : Except Fault (List (String × Value)) := do
  let limit ← match c.timeLimit with
    | .none => pure []
    | limit => do pure [("max_time_in_seconds", Value.float (← limit.asReal))]
  let workers ← c.workers.wholePart
  let seed ← c.seed.wholePart
  return limit ++ [("num_workers", .int workers), ("random_seed", .int seed),
    ("log_search_progress", .bool c.logSearch.isTrue)]

/-- An engine's answer: a status unless its code is unheard of, the values of the variables in the
order of the model, and the value of the objective. -/
structure Answer where
  status : Option Status
  values : List Value
  objective : Value
  deriving Inhabited

/-- The engine's value of the variable at an index. -/
def Answer.valueAt (a : Answer) (m : Model) (index : Int) : Except Fault Value :=
  match m.variableAt? index, a.values[(m.placeOf index).toNat]? with
  | some _, some x => pure x
  | _, _ => throw (.noSuchPlace index)

/-- The value of a variable, by its index. -/
def Answer.entry (a : Answer) (m : Model) (v : Variable) : Except Fault (Int × Value) := do
  return (v.index, .int (← (← a.valueAt m v.index).wholePart))

/-- What an answer says about the model. Values and objective count only with a point. -/
def Answer.outcome (a : Answer) (m : Model) (c : Config) : Except Fault Outcome := do
  let status := a.status.getD .unknown
  let timedOut := match c.timeLimit with
    | .none => false
    | _ => status.isUndecided
  if status.hasPoint then
    let values ← m.vars.mapM (a.entry m)
    return { status, timedOut, values := .ofEntries values
             objective := if m.objective.isSome then a.objective else .none }
  else return { status, timedOut }

end GatedProgram

end IntegerProgram
