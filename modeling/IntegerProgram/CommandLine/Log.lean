import IntegerProgram.Session.Request

/-!
# Log entries

A run tells what it does in entries of four levels. What a request has done is read off the sessions
before and after it: keys that were bound, constraints that were added, and an implication that was
encoded by them.
-/
namespace IntegerProgram

/-- How important a log entry is. -/
inductive Level where
  | debug
  | info
  | warning
  | error
  deriving DecidableEq, Inhabited, Repr

/-- The name of a level. -/
def Level.name : Level → String
  | debug => "DEBUG"
  | info => "INFO"
  | warning => "WARNING"
  | error => "ERROR"

/-- Something that a run tells. -/
structure LogEntry where
  level : Level
  message : String
  deriving DecidableEq, Inhabited, Repr

namespace LogEntry

/-- An entry as it is written. -/
def text (e : LogEntry) : String := s!"{e.level.name}: {e.message}"

/-- Whether an entry is written, which those of the lowest level are only on demand. -/
def isWritten (e : LogEntry) (verbose : Bool) : Bool := verbose || e.level ≠ .debug

/-- What is told of a bound key. -/
def ofBinding (e : Value × Variable) : LogEntry :=
  ⟨.debug, s!"Bound {e.1.literal} to {e.2.label}"⟩

/-- What is told of a recorded constraint. -/
def ofConstraint (c : Constraint) : LogEntry :=
  ⟨.debug, s!"Added constraint {Fault.constraintText c}"⟩

/-- A side of an implication, as the constraint that states it shows it. -/
def sideText (request : ConditionRequest) (c : Constraint) : String :=
  let relation := match request.relation.asRelation with
    | .ok r => r.name
    | .error _ => request.relation.shown
  s!"({c.sum.text}) {relation} {c.rhs}"

/-- What is told of an implication that three constraints encode. -/
def ofImplication (predicate entailment : ConditionRequest) (description : Value)
    (constraints : List Constraint) : List LogEntry :=
  match constraints with
  | [holds, _, predicateFails] =>
    let name := (holds.gate.map (·.indicator.name)).getD ""
    [⟨.debug, s!"Encoded implication {description.literal}: {sideText predicate predicateFails} => "
      ++ s!"{sideText entailment holds} via {name}"⟩]
  | _ => []

/-- What is told of a request that has led from one session to another. -/
def ofRequest (r : Request) (before after : Session) : List LogEntry :=
  let bound := after.registry.entries.drop before.registry.size
  let added := after.model.constraints.drop before.model.constraints.length
  let encoded := match r with
    | .ifThen predicate entailment description =>
      ofImplication predicate entailment description added
    | _ => []
  bound.map ofBinding ++ added.map ofConstraint ++ encoded

end LogEntry

/-- Performs requests in order and tells what they do, up to the first that fails. -/
def Request.performTelling : List Request → Session → Except Fault Unit × Session × List LogEntry
  | [], s => (.ok (), s, [])
  | r :: rest, s =>
    let (ending, after) := r.perform.on s
    let told := LogEntry.ofRequest r s after
    match ending with
    | .error fault => (.error fault, after, told)
    | .ok _ =>
      let (ending, last, more) := performTelling rest after
      (ending, last, told ++ more)

end IntegerProgram
