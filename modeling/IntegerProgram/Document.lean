import IntegerProgram.Session.Request

/-!
# Model documents

A model document describes a whole session: variables with bounds, fixed values, relations between
sums and constants, implications between such relations, and one objective. It is replayed as
requests, section by section and entry by entry, so that a fault is that of the first entry that
gives rise to one.

## Main definitions

* `Document`: the content of a model document.
* `Document.requests`: the calls that it stands for.
* `Document.build`: the session after them.
-/
namespace IntegerProgram

namespace Document

/-- A variable to bind. -/
structure VariableEntry where
  key : String
  minimum : Int
  maximum : Int
  description : String
  deriving DecidableEq, Inhabited, Repr

/-- A sum, related to a constant. -/
structure RelationEntry where
  terms : List (String × Int)
  relation : Relation
  rhs : Int
  description : String
  deriving DecidableEq, Inhabited, Repr

/-- Two relations, of which the second has to hold where the first does. -/
structure ImplicationEntry where
  condition : RelationEntry
  consequence : RelationEntry
  description : String
  deriving DecidableEq, Inhabited, Repr

end Document

/-- The content of a model document. -/
structure Document where
  vars : List Document.VariableEntry
  fixed : List (String × Int)
  constraints : List Document.RelationEntry
  implications : List Document.ImplicationEntry
  sense : Sense
  objective : List (String × Int)
  deriving DecidableEq, Inhabited

namespace Document

/-- The keys of terms. -/
def keysOf (terms : List (String × Int)) : List Value := terms.map fun t => .text t.1

/-- The coefficients of terms. -/
def coefficientsOf (terms : List (String × Int)) : List Value := terms.map fun t => .int t.2

/-- One side of an implication as it is requested. -/
def RelationEntry.condition (r : RelationEntry) : ConditionRequest :=
  ⟨keysOf r.terms, coefficientsOf r.terms, .int r.rhs, .relation r.relation⟩

/-- The requests of a document, in order. -/
def requests (d : Document) : List Request :=
  (d.vars.map fun v => .bind (.text v.key) (.int v.minimum) (.int v.maximum)
    (.text v.description))
  ++ (d.fixed.map fun f => .enforceValue (.text f.1) (.int f.2))
  ++ (d.constraints.map fun c => .enforce (keysOf c.terms) (coefficientsOf c.terms) (.int c.rhs)
    (.relation c.relation) (.text c.description))
  ++ d.implications.map fun i => .ifThen i.condition.condition i.consequence.condition
    (.text i.description)

/-- A session in which everything that the document states has been requested, and the holders of
its implications. -/
def build (d : Document) (config : Config) : Except Fault (Session × List Value) := do
  let s ← Session.new config
  match (Request.performAll d.requests).on s with
  | (.ok holders, s) => return (s, holders)
  | (.error fault, _) => throw fault

/-- Solves the objective of a document in its session. -/
def optimise (d : Document) (engine : Engine) : Attempt Session (List (Value × Value)) :=
  Session.solve engine (keysOf d.objective) (coefficientsOf d.objective) d.sense

end Document

end IntegerProgram
