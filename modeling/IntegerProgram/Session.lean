import IntegerProgram.Config
import IntegerProgram.Implication
import IntegerProgram.Model.Check
import IntegerProgram.Registry
import IntegerProgram.Report
import IntegerProgram.WeightedSum.Parallel

/-!
# Sessions

A session lets a caller state an integer program in terms of keys of its own and solve it. It owns a
registry, a model, the number of the next implication and the report of the last solve. An engine is
a parameter of a solve: the session trusts nothing of its answer that it can check.

## Main definitions

* `Session`: the state.
* `Session.bind`, `Session.enforceValue`, `Session.enforce`, `Session.ifThen`: requests.
* `Session.solve`: optimises a sum of keys over everything that was requested.
* `Session.verify`: the check of an engine's values.
-/
namespace IntegerProgram

/-- Answers a model under given settings. -/
abbrev Engine := Model → Config → Except Fault Outcome

/-- Settings, what has been recorded, and the report of the last solve. -/
structure Session where
  config : Config
  model : Model := {}
  registry : Registry := {}
  lastReport : Option Report := none
  nextCondition : Nat := 1
  deriving Inhabited

/-- One side of an implication as a caller states it. -/
structure ConditionRequest where
  keys : List Value
  coefficients : List Value
  constant : Value
  relation : Value
  deriving Inhabited

namespace Session

/-- A fresh session with valid settings. -/
def new (config : Config) : Except Fault Session := do
  let config ← config.validate
  return { config }

/-- An operation on the model of a session. -/
def onModel {α : Type} (m : Attempt Model α) : Attempt Session α :=
  m.focus Session.model fun s model => { s with model }

/-- Binds a key to a variable with the given bounds. A bound key keeps its variable. -/
def bind (key minimum maximum description : Value) : Attempt Session Variable :=
  (Registry.bind Model.newVariable key minimum maximum description).focus
    (fun s => (s.registry, s.model)) fun s p => { s with registry := p.1, model := p.2 }

/-- The sum of keys with parallel coefficients. -/
def sumOf (s : Session) (keys coefficients : List Value) (context : Value) :
    Except Fault WeightedSum := do
  if keys.length ≠ coefficients.length then
    throw (.raised (.sumArity keys.length coefficients.length context))
  let vars ← s.registry.resolveAll keys
  WeightedSum.ofParallel vars coefficients context

/-- Requests that a key have a value, which may lie outside its bounds. -/
def enforceValue (key value : Value) : Attempt Session Constraint := do
  let v ← (← get).registry.resolve key
  let n ← value.asInteger s!"Value of {v.name}"
  (Value.int n).requireText
  onModel (Model.fix v (.int n) (.text s!"{v.name} == {n}"))

/-- Requests that a sum of keys be related to a value. -/
def enforce (keys coefficients : List Value) (value relation description : Value) :
    Attempt Session Constraint := do
  let sum ← (← get).sumOf keys coefficients description
  let r ← relation.asRelation
  description.requireText
  let n ← value.asInteger s!"Constant of {description.shown}"
  onModel (Model.add (.whole sum) (.known r.comparison) (.int n) none description)

/-- Checks that a side of an implication has as many coefficients as keys. -/
def requireArity (side : Side) (c : ConditionRequest) (description : Value) : Except Fault Unit :=
  if c.keys.length = c.coefficients.length then pure ()
  else throw (.raised (.sideArity side c.coefficients.length c.keys.length description))

/-- Requests that the entailment hold if the predicate does. The holder that stands for the
implication is bound to its indicator, under the description or, if that is empty, its number. -/
def ifThen (predicate entailment : ConditionRequest) (description : Value) :
    Attempt Session Value := do
  requireArity .predicate predicate description
  requireArity .entailment entailment description
  let s ← get
  let p ← s.sumOf predicate.keys predicate.coefficients description
  let e ← s.sumOf entailment.keys entailment.coefficients description
  let r1 ← predicate.relation.asRelation
  let r2 ← entailment.relation.asRelation
  description.requireText
  let l1 ← predicate.constant.asInteger s!"Predicate constant of condition {description.shown}"
  let l2 ← entailment.constant.asInteger s!"Entailment constant of condition {description.shown}"
  let id := s.nextCondition
  modify fun s => { s with nextCondition := id + 1 }
  let holder := Value.holder id description
  let name := description.orElse (.text s!"condition {id}")
  let indicator ← bind holder (.int 0) (.int 1) name
  onModel (Model.encodeImplication indicator ⟨.ok (.whole p), .relation r1, .int l1⟩
    ⟨.ok (.whole e), .relation r2, .int l2⟩ description.shown)
  return holder

/-- The status of the last solve. -/
def status (s : Session) : Option Status := s.lastReport.map (·.status)

/-- Checks values against everything that was recorded: the bounds first, then the constraints. -/
def verify (m : Model) (values : Valuation) : Except Fault Unit := do
  let outside ← m.outOfBounds values
  if !outside.isEmpty then throw (.raised (.outOfBounds outside))
  let violated ← m.violated values
  if !violated.isEmpty then
    violated.forM fun c => do
      c.1.requireShown
      c.1.description.requireText
    throw (.violated (violated.map (·.1)))

/-- The first half of a solve: the objective is checked and recorded, with a search hint over its
variables. -/
def pose (keys coefficients : List Value) (sense : Sense) : Attempt Session Unit := do
  let sum ← (← get).sumOf keys coefficients (.text s!"{sense.name} objective")
  onModel (Model.addStrategy sum.vars)
  onModel (Model.setObjective (.whole sum) sense)

/-- The report of an outcome, without values. -/
def reportOf (s : Session) (sense : Sense) (o : Outcome) : Report where
  backend := s.config.backend.shown
  sense := sense
  status := o.status
  objective := o.objective
  variableCount := s.model.vars.length
  constraintCount := s.model.constraints.length
  wallTime := o.wallTime
  timedOut := o.timedOut

/-- The fault of an outcome that is no optimum. -/
def failure (s : Session) (o : Outcome) : Fault :=
  if o.timedOut then .timedOut o.status s.registry.names s.config.timeLimit
  else .notOptimal o.status s.registry.names

/-- The values of all keys. -/
def valuesOf (s : Session) (values : Valuation) : Except Fault (List (Value × Value)) :=
  s.registry.entries.mapM fun e => do return (e.1, ← values.get e.2.index)

/-- The second half of a solve: the outcome is reported and, if it is an optimum, checked. -/
def conclude (sense : Sense) (o : Outcome) : Attempt Session (List (Value × Value)) := do
  let s ← get
  let report := s.reportOf sense o
  set { s with lastReport := some report }
  if o.status ≠ .optimal then throw (s.failure o).raised
  if s.config.verify.isTrue then verify s.model o.values
  let values ← s.valuesOf o.values
  set { s with lastReport := some { report with values } }
  return values

/-- Optimises a sum of keys: the values of all keys at an optimum, in the order of binding. -/
def solve (engine : Engine) (keys coefficients : List Value) (sense : Sense) :
    Attempt Session (List (Value × Value)) := do
  pose keys coefficients sense
  let s ← get
  let o ← engine s.model s.config
  conclude sense o

end Session

end IntegerProgram
