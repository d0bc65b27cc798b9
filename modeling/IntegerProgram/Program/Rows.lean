import IntegerProgram.Config
import IntegerProgram.Model.Check

/-!
# Programs of rows

An engine that knows only linear rows gets gated constraints in another form. A row that must hold
only while a gate is active is relaxed by a multiple of an affine form that is zero exactly then and
at least one otherwise; the multiple is the most by which the sum can overshoot, taken from its
bounds. So the row is void where the gate is off, and a row that can never be overshot is left out.

Strict comparisons are tightened by one. A constraint that forbids one value gets a side variable of
its own, which chooses whether the sum stays below or above that value, and two relaxed rows.

Too large a multiple is refused: such an engine takes a variable for zero or one within a tolerance,
and the multiple of the tolerance must stay below one for the relaxation to be exact.

The constants of rows are held as doubles, which is to say that they keep 53 significant bits; what
is beyond the range of doubles is refused.

## Main definitions

* `RowProgram`: variables, rows and objective.
* `RowProgram.add`: the rows of a constraint, with constants kept as a parameter says.
* `RowProgram.ofModel`: the program of a model.
* `RowProgram.Answer.outcome`: what an engine's answer says about the model.
-/
namespace IntegerProgram

/-- A variable of a row program: structural, which is to say one of the model's, or a choice of
side. -/
inductive Column where
  | structural (index : Int)
  | side (number : Nat)
  deriving DecidableEq, Inhabited, Repr

namespace Column

/-- The name of a column, which is unique in its program. -/
def name : Column → String
  | structural index => (if index < 0 then "x_" else "x") ++ toString index.natAbs
  | side number => s!"ne{number}"

/-- The variables come in the order of the model, those with negative indexes after the others, and
the sides come last. -/
def isBefore : Column → Column → Bool
  | structural i, structural j =>
    if i < 0 ↔ j < 0 then i.natAbs < j.natAbs else j < 0
  | structural _, side _ => true
  | side _, structural _ => false
  | side i, side j => i < j

end Column

/-- A sum of columns with a constant. -/
structure AffineForm where
  terms : List (Column × Int)
  constant : Int
  deriving DecidableEq, Inhabited, Repr

namespace AffineForm

/-- A column alone. -/
def ofColumn (c : Column) : AffineForm := ⟨[(c, 1)], 0⟩

/-- One minus a column. -/
def complement (c : Column) : AffineForm := ⟨[(c, -1)], 1⟩

/-- The sum of two forms. -/
def add (a b : AffineForm) : AffineForm := ⟨a.terms ++ b.terms, a.constant + b.constant⟩

end AffineForm

/-- The terms multiplied by a number. -/
def scaleTerms (k : Int) (terms : List (Column × Int)) : List (Column × Int) :=
  terms.map fun t => (t.1, k * t.2)

/-- Terms with values for coefficients. -/
def valueTerms (terms : List (Column × Int)) : List (Column × Value) :=
  terms.map fun t => (t.1, .int t.2)

/-- A sum by columns. Terms with a zero coefficient are left out. -/
def WeightedSum.columns (s : WeightedSum) : List (Column × Int) :=
  (s.terms.filter fun t => t.2 ≠ 0).map fun t => (.structural t.1.index, t.2)

/-- Terms with a column inserted in order, or its coefficient increased. -/
def insertTerm (c : Column) (k : Value) :
    List (Column × Value) → Except Fault (List (Column × Value))
  | [] => pure [(c, k)]
  | (d, l) :: rest => do
    if c = d then return (d, ← l.add k) :: rest
    else if c.isBefore d then return (c, k) :: (d, l) :: rest
    else return (d, l) :: (← insertTerm c k rest)

/-- The terms with those of one column added up, zero coefficients left out, in order. -/
def collectTerms (terms : List (Column × Value)) : Except Fault (List (Column × Value)) := do
  let collected ← terms.foldlM (fun collected t => insertTerm t.1 t.2 collected) []
  return collected.filter fun t => t.2.isTrue

namespace RowProgram

/-- How a row compares with its constant. -/
inductive Relation where
  | le
  | ge
  | eq
  deriving DecidableEq, Inhabited, Repr

/-- The symbol of a row relation. -/
def Relation.symbol : Relation → String
  | le => "<="
  | ge => ">="
  | eq => "=="

/-- A sum of columns, compared with a constant. -/
structure Row where
  terms : List (Column × Value)
  relation : RowProgram.Relation
  rhs : Int
  deriving Inhabited

end RowProgram

/-- Rows and objective over the variables of a model and `sides` further ones with the values zero
and one. A program with a constraint that cannot hold whatever the values is `impossible`. -/
structure RowProgram where
  rows : List RowProgram.Row := []
  sides : Nat := 0
  impossible : Bool := false
  sense : Sense := .minimize
  objective : Option (List (Column × Value)) := none
  deriving Inhabited

namespace RowProgram

/-- The largest multiple by which a row may be relaxed. -/
def bigMLimit : Int := 1000000

/-- The program with one more row. -/
def push (p : RowProgram) (row : Row) : RowProgram := { p with rows := p.rows ++ [row] }

/-- The form that is zero exactly where a gate is active, and one elsewhere. -/
def relaxation (g : Gate) : AffineForm :=
  let b := Column.structural g.indicator.index
  if g.activeWhen.isSameKey (.int 1) then .complement b else .ofColumn b

/-- A number as it is held, in 53 significant bits. Doubles have numbers of up to 1024 bits. -/
def held (n : Int) : Except Fault Int :=
  if (significant n).natAbs.log2 < 1024 then pure (significant n) else throw .numberTooLarge

/-- A number of 53 bits is held as it is. -/
theorem held_of_lt {n : Int} (h : n.natAbs < Nat.pow 2 53) : held n = .ok n := by
  have small : n.natAbs.log2 < 1024 := by
    by_cases zero : n.natAbs = 0
    · simp [zero]
    · have := (Nat.log2_lt zero).2 h
      omega
  rw [held, significant_of_lt h, if_pos small]
  rfl

/-- Checks that an engine can use a number: that it is one in the range of doubles. -/
def requireFinite (number : Value) : Except Fault Unit := do
  if number.asText?.isSome then throw (.notComparable number)
  unless (← number.asReal).isFinite do throw (.notFinite number)

/-- The coefficient of a column, unless it is zero. No decimal can be one. -/
def columnCoefficient? (c : Value) : Except Fault (Option Value) := do
  requireFinite c
  if !c.isTrue then return none
  else if c.isDecimal then throw (.notComparable c)
  else return some (← (Value.int 1).mul c.unboxed)

/-- The columns of a form, whose coefficients are in the range of doubles. -/
def columnsOf : LinearForm → Except Fault (List (Column × Value))
  | .whole s => do
    s.terms.forM fun t => do let _ ← held t.2
    return valueTerms s.columns
  | .mixed terms => do
    let columns ← terms.mapM fun t => do
      return (← columnCoefficient? t.2).map (Column.structural t.1.index, ·)
    return columns.filterMap id

/-- The terms with opposite signs. -/
def negateColumns (terms : List (Column × Value)) : Except Fault (List (Column × Value)) :=
  terms.mapM fun t => do return (t.1, ← t.2.neg)

section

/-! The rows of a constraint. How their constants are kept is a parameter. -/

variable (hold : Int → Except Fault Int)

/-- Adds a row relaxed by `bound` times a form, written as a sum that is at most a constant. -/
def relaxed (p : RowProgram) (f : LinearForm) (k : Int) (terms : List (Column × Value)) (rhs : Int)
    (bound : Int) (relax : AffineForm) : Except Fault RowProgram :=
  if bound ≤ 0 then pure p
  else if bigMLimit < bound then do
    f.requireShown
    throw (.raised (.bigM f k bound bigMLimit))
  else do
    let rhs ← hold ((← hold rhs) + bound * relax.constant)
    return p.push ⟨terms ++ valueTerms (scaleTerms (-bound) relax.terms), .le, rhs⟩

/-- Adds that a form is at most `k`, where the relaxation is zero. -/
def atMost (p : RowProgram) (f : LinearForm) (k : Int) (relax : Option AffineForm) :
    Except Fault RowProgram := do
  let terms ← columnsOf f
  match relax with
  | none => return p.push ⟨terms, .le, ← hold k⟩
  | some r => relaxed hold p f k terms k ((← f.bounds).2 - k) r

/-- Adds that a form is at least `k`, where the relaxation is zero. -/
def atLeast (p : RowProgram) (f : LinearForm) (k : Int) (relax : Option AffineForm) :
    Except Fault RowProgram := do
  let terms ← columnsOf f
  match relax with
  | none => return p.push ⟨terms, .ge, ← hold k⟩
  | some r => relaxed hold p f k (← negateColumns terms) (-k) (k - (← f.bounds).1) r

/-- Adds that a form is `k`, where the relaxation is zero. -/
def equal (p : RowProgram) (f : LinearForm) (k : Int) (relax : Option AffineForm) :
    Except Fault RowProgram :=
  match relax with
  | none => do return p.push ⟨← columnsOf f, .eq, ← hold k⟩
  | some _ => do atLeast hold (← atMost hold p f k relax) f k relax

/-- Adds that a form differs from `k`, where the relaxation is zero. A value that the form cannot
have needs nothing. -/
def different (p : RowProgram) (f : LinearForm) (k : Int) (relax : Option AffineForm) :
    Except Fault RowProgram := do
  let (low, high) ← f.bounds
  if low ≤ k ∧ k ≤ high then
    let d := Column.side p.sides
    let below := relax.elim (.ofColumn d) fun r => r.add (.ofColumn d)
    let above := relax.elim (.complement d) fun r => r.add (.complement d)
    let p ← atMost hold { p with sides := p.sides + 1 } f (k - 1) (some below)
    atLeast hold p f (k + 1) (some above)
  else return p

/-- Adds that a sum without terms cannot compare as stated: the gate has to be off. -/
def forbid (p : RowProgram) (relax : Option AffineForm) : RowProgram :=
  match relax with
  | none => { p with impossible := true }
  | some r => p.push ⟨valueTerms r.terms, .eq, 1 - r.constant⟩

/-- Adds that a form compares with `k` as stated, where the relaxation is zero. -/
def compare (p : RowProgram) (f : LinearForm) (op : Comparison) (k : Int)
    (relax : Option AffineForm) : Except Fault RowProgram :=
  match op with
  | .lt => atMost hold p f (k - 1) relax
  | .le => atMost hold p f k relax
  | .gt => atLeast hold p f (k + 1) relax
  | .ge => atLeast hold p f k relax
  | .eq => equal hold p f k relax
  | .ne => different hold p f k relax

/-- Adds the rows of a constraint. -/
def add (p : RowProgram) (c : Constraint) : Except Fault RowProgram := do
  let relax := c.gate.map relaxation
  match c.sum.terms, c.operator with
  | [], op => if ← op.holds c.sum c.rhs fun _ => none then return p else return p.forbid relax
  | _, .unknown s => throw (.unsupportedOperator s)
  | _, .known op => compare hold p c.sum op c.rhs relax

/-- The rows of constraints. -/
def ofConstraints (cs : List Constraint) : Except Fault RowProgram := cs.foldlM (add hold) {}

end

/-- Checks that the bounds of a variable are in the range of doubles. -/
def requireHeldBounds (v : Variable) : Except Fault Unit := do
  match v.declared with
  | none =>
    let _ ← held v.lower
    let _ ← held v.upper
  | some d =>
    requireFinite (.ofDatum d.lower)
    requireFinite (.ofDatum d.upper)

/-- The program of a model. -/
def ofModel (m : Model) : Except Fault RowProgram := do
  m.vars.forM requireHeldBounds
  let p ← ofConstraints held m.constraints
  let objective ← m.objective.mapM fun o => columnsOf o.sum
  return { p with
    sense := (m.objective.map (·.sense)).getD .minimize
    objective }

/-- The options of the engine. -/
def options (c : Config) : Except Fault (List (String × Value)) := do
  let threads ← c.workers.wholePart
  let limit ← match c.timeLimit with
    | .none => pure []
    | limit => do pure [("timeLimit", Value.float (← limit.asReal))]
  return [("msg", .bool c.logSearch.isTrue), ("threads", .int threads)] ++ limit

/-- The columns that occur in a row or in the objective, each once. Only these are known to the
engine. -/
def columns (p : RowProgram) : List Column :=
  ((p.rows.flatMap (·.terms) ++ p.objective.getD []).map (·.1)).eraseDups

/-- An engine's answer: the code of a status, and values for the variables by index, of which some
may be missing. -/
structure Answer where
  code : Int
  values : Int → Option Value
  deriving Inhabited

/-- The status that a code stands for. -/
def statusOf (code : Int) : Status :=
  match code with
  | 1 => .optimal
  | 2 => .feasible
  | -1 => .infeasible
  | -2 => .unbounded
  | _ => .unknown

/-- The integer nearest to an engine's value. -/
def nearest (value : Value) : Except Fault Int :=
  match value with
  | .float x =>
    if x.isFinite then pure (nearestInteger (x.toRat?.getD 0)) else Value.doublePart x
  | .int _ | .bool _ => value.wholePart
  | _ => throw (.notComparable value)

/-- The value within the bounds of a variable that is nearest to zero. -/
def defaultValue (v : Variable) : Except Fault Value := do
  let lower := Value.ofDatum v.declaration.lower
  let upper := Value.ofDatum v.declaration.upper
  let least := if ← (Value.int 0).isLess lower then lower else .int 0
  return if ← upper.isLess least then upper else least

/-- The value of a variable: the nearest integer to the engine's, or that within its bounds which is
nearest to zero if the engine has none. -/
def readValue (v : Variable) : Option Value → Except Fault Value
  | none => defaultValue v
  | some value => do return .int (← nearest value)

/-- The engine's value of a variable, if it knows the variable. -/
def Answer.valueAt (a : Answer) (p : RowProgram) (index : Int) : Option Value :=
  if p.columns.contains (.structural index) then a.values index else none

/-- The coefficients of the objective, each column once, in the order of their first terms. -/
def objectiveTerms (terms : List (Column × Value)) : Except Fault (List (Column × Value)) :=
  (terms.map (·.1)).eraseDups.mapM fun c => do
    return (c, ← Value.total ((terms.filter fun t => t.1 = c).map (·.2)))

/-- The objective as the sum of the engine's values; none if there is no term, or no value for one.
-/
def Answer.objective (a : Answer) (p : RowProgram) : Except Fault Value := do
  let terms := (← objectiveTerms (p.objective.getD [])).map fun t =>
    match t.1 with
    | .structural i => (a.valueAt p i).map (·, t.2)
    | .side _ => none
  match terms.mapM id with
  | none | some [] => return .none
  | some terms => terms.foldlM Grid.addProduct (.float (.zero false))

/-- The value of a variable, by its index. -/
def Answer.entry (a : Answer) (p : RowProgram) (m : Model) (v : Variable) :
    Except Fault (Int × Value) :=
  match m.variableAt? v.index with
  | some w => do return (v.index, ← readValue v (a.valueAt p w.index))
  | none => throw (.noSuchPlace v.index)

/-- What an answer says about the model. Values and objective count only with a point. -/
def Answer.outcome (a : Answer) (p : RowProgram) (m : Model) (c : Config) :
    Except Fault Outcome := do
  let status := if p.impossible then .infeasible else statusOf a.code
  let timedOut := match c.timeLimit with
    | .none => false
    | _ => status.isUndecided
  if status.hasPoint then
    let values ← m.vars.mapM (a.entry p m)
    return { status, timedOut, values := .ofEntries values, objective := ← a.objective p }
  else return { status, timedOut }

end RowProgram

end IntegerProgram
