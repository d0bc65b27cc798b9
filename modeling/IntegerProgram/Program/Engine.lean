import IntegerProgram.Program.Gated
import IntegerProgram.Program.Rows
import IntegerProgram.Search.Solver
import IntegerProgram.Session

/-!
# Engines

An engine builds the program of a model, has it solved under the settings that it was given, and
reads the answer. The solver is a parameter. Either kind of program can be solved by exact search,
whose answer comes back as an engine reports it, with doubles for numbers.

The package that an engine is from is looked for when it is asked to solve, before the model is
looked at. An engine without its package refuses every model.

## Main definitions

* `GatedProgram.solve`, `RowProgram.solve`: answers by exact search.
* `Solver`: what answers programs.
* `Backend.engineWith`: from a model to the outcome of a solve, with the package there.
* `Backend.absentEngine`: what an engine does without its package.
-/
namespace IntegerProgram

/-- An integer as an engine reports it. -/
def Value.reported (n : Int) : Value := .float (.ofInt n)

/-- The objective that an engine reports, which only ever makes sums least: for the greatest value
it reports the least of the opposite sum with the opposite sign, so that zero comes out negative. -/
def Sense.reported (s : Sense) (least : Int) : Value :=
  match s with
  | .minimize => .reported least
  | .maximize => .float (-.ofInt least)

/-- Coefficients to be made least for a sense. -/
def Sense.coefficients (s : Sense) (terms : List (Nat × Int)) : List (Nat × Int) :=
  match s with
  | .minimize => Search.mergeTerms terms
  | .maximize => Search.mergeTerms (Search.negateTerms terms)

/-- One where a literal is true and zero where it is false: a term and a constant. -/
def Literal.affine (l : Literal) : (Nat × Int) × Int :=
  if l.positive then ((l.index.toNat, 1), 0) else ((l.index.toNat, -1), 1)

/-- The variable of a literal and the value at which the literal is true. -/
def Literal.condition (l : Literal) : Nat × Int := (l.index.toNat, if l.positive then 1 else 0)

namespace GatedProgram

/-- The interval of a domain. -/
def Domain.interval : Domain → Int × Int
  | truth _ => (0, 1)
  | range v => (v.lower, v.upper)

/-- The terms by place. -/
def placed (terms : List (Int × Value)) : List (Nat × Int) :=
  terms.map fun t => (t.1.toNat, t.2.whole)

/-- What a rule demands of a point. At least one literal of a clause is true. -/
def Rule.demands : Rule → List Search.Rule
  | linear terms op rhs onlyIf =>
    Search.Rule.ofComparison (placed terms) op rhs (onlyIf.map Literal.condition)
  | clause literals =>
    let parts := literals.map Literal.affine
    Search.Rule.ofComparison (parts.map (·.1)) .ge (1 - (parts.map (·.2)).foldr (· + ·) 0) none

/-- The search for an optimal point. -/
def problem (p : GatedProgram) : Search.Problem where
  box := (p.domains.map Domain.interval).toArray
  rules := p.rules.flatMap Rule.demands
  objective := (p.objective.map fun o => o.1.coefficients (placed o.2)).getD []

/-- The answer to a program, by exact search. -/
def solve (p : GatedProgram) : Answer :=
  match p.problem.solve with
  | none => ⟨some .infeasible, [], .none⟩
  | some s =>
    let sense := (p.objective.map (·.1)).getD .minimize
    ⟨some .optimal, s.point.toList.map .int, sense.reported s.value⟩

end GatedProgram

namespace RowProgram

/-- The interval of a column. -/
def interval (m : Model) : Column → Int × Int
  | .structural i => ((m.variableAt? i).map fun v => (v.lower, v.upper)).getD (0, 0)
  | .side _ => (0, 1)

/-- The terms by the places of their columns. -/
def placed (columns : List Column) (terms : List (Column × Value)) : List (Nat × Int) :=
  terms.map fun t => (columns.idxOf t.1, t.2.whole)

/-- The comparison of a row. -/
def Relation.comparison : RowProgram.Relation → Comparison
  | le => .le
  | ge => .ge
  | eq => .eq

/-- The search for an optimal point, over the columns that occur. -/
def problem (p : RowProgram) (m : Model) : Search.Problem where
  box := (p.columns.map (interval m)).toArray
  rules := p.rows.flatMap fun r =>
    Search.Rule.ofComparison (placed p.columns r.terms) r.relation.comparison r.rhs none
  objective := (p.objective.map fun terms => p.sense.coefficients (placed p.columns terms)).getD []

/-- The answer to a program, by exact search. -/
def solve (p : RowProgram) (m : Model) : Answer :=
  match (p.problem m).solve with
  | none => ⟨-1, fun _ => none⟩
  | some s => ⟨1, fun i => (s.point[p.columns.idxOf (.structural i)]?).map .reported⟩

end RowProgram

/-- What answers programs of either kind. That of rows knows the bounds of columns from the model.
-/
structure Solver where
  gated : GatedProgram → GatedProgram.Answer
  rows : RowProgram → Model → RowProgram.Answer

/-- Exact search. -/
def Solver.search : Solver := ⟨GatedProgram.solve, RowProgram.solve⟩

/-- The word for a status code in a note. -/
def RowProgram.statusWord (code : Int) : String :=
  match code with
  | 1 => "Optimal"
  | 0 => "Not Solved"
  | -1 => "Infeasible"
  | -2 => "Unbounded"
  | _ => "Undefined"

/-- An outcome with what the engine notes before and after the search. -/
structure EngineRun where
  outcome : Outcome
  before : List String
  after : String
  deriving Inhabited

/-- Checks that a search can use all coefficients of a model: they must be whole. -/
def Model.requireWhole (m : Model) : Except Fault Unit := do
  m.constraints.forM fun c => do let _ ← c.sum.asSum
  m.objective.forM fun o => do let _ ← o.sum.asSum

namespace Backend

/-- Solves the gated program of a model. -/
def runGated (s : Solver) (m : Model) (c : Config) : Except Fault EngineRun := do
  let p ← GatedProgram.ofModel m
  m.requireWhole
  let _ ← GatedProgram.parameters c
  let answer := s.gated p
  let outcome ← answer.outcome m c
  return {
    outcome
    before := [s!"CP-SAT model: {p.domains.length} variables, {m.constraints.length} constraints, "
      ++ s!"{p.hints.length} strategies"]
    after := s!"CP-SAT finished with {(answer.status.getD .unknown).name}" }

/-- Solves the program of rows of a model. -/
def runBigM (s : Solver) (m : Model) (c : Config) : Except Fault EngineRun := do
  let p ← RowProgram.ofModel m
  m.requireWhole
  let _ ← RowProgram.options c
  let answer := s.rows p m
  let outcome ← answer.outcome p m c
  let hints := m.strategies.length
  let ignored := if hints = 0 then [] else [s!"CBC ignores {hints} decision strategies"]
  return {
    outcome
    before := ignored ++ [s!"CBC model: {p.columns.length} variables ({p.sides} auxiliary), "
      ++ s!"{p.rows.length} rows"]
    after := s!"CBC finished with {RowProgram.statusWord answer.code} ({outcome.status.name})" }

/-- Solves the program of a model that the backend takes. -/
def runWith (s : Solver) : Backend → Model → Config → Except Fault EngineRun
  | gated => runGated s
  | bigM => runBigM s

/-- Solves the program of a model by exact search. -/
def run : Backend → Model → Config → Except Fault EngineRun := runWith .search

/-- The engine of a backend, with a given solver. -/
def engineWith (s : Solver) (b : Backend) : Engine := fun m c => do
  return (← b.runWith s m c).outcome

/-- The engine of a backend. -/
def engine : Backend → Engine := engineWith .search

/-- The engine of a backend whose package is not installed. -/
def absentEngine (b : Backend) : Engine := fun _ _ =>
  throw (.notInstalled b.package.1 b.package.2)

end Backend

/-- The engine that the settings name, with a given solver. -/
def Config.engineWith (s : Solver) : Engine := fun m c => do
  (← Backend.ofName c.backend).engineWith s m c

/-- The engine that the settings name. -/
def Config.engine : Engine := engineWith .search

end IntegerProgram
