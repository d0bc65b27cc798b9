import IntegerProgram.Search.Rule

/-!
# Exact search

A point of a box is sought that satisfies all rules and has the least value of an objective. A box
is narrowed by the rules and by the demand to improve on the best point found so far, and then split
at the middle of one interval; the half with the better end for the objective is searched first.
Since narrowing and splitting lose no better point, the best point at the end is an optimum, and if
there is none then no point satisfies the rules.

## Main definitions

* `Problem`: a box, rules and an objective.
* `Problem.solve`: an optimal point and its value.
-/
namespace IntegerProgram.Search

/-- A box, rules for its points, and the sum that is to be least. -/
structure Problem where
  box : Box
  rules : List Rule
  objective : List (Nat × Int) := []
  deriving Inhabited

/-- A point with the value of the objective there. -/
structure Solution where
  point : Array Int
  value : Int
  deriving Inhabited, Repr

namespace Problem

/-- How often a box is narrowed by all rules before it is split. -/
def maxPasses : Nat := 200

/-- Narrows a box once by every rule. -/
def pass (rules : List Rule) (b : Box) : Option Box :=
  rules.foldlM (fun b r => do
    let b ← r.narrow b
    if b.hasNoPoint then none else some b) b

/-- Narrows a box by the rules until nothing changes or the passes are used up. -/
def narrow (rules : List Rule) : Nat → Box → Option Box
  | 0, b => some b
  | fuel + 1, b => do
    let narrowed ← pass rules b
    if narrowed.breadth = b.breadth then some narrowed else narrow rules fuel narrowed

/-- The unknown with the fewest values among those that are not fixed. -/
def narrowest? (b : Box) : Option Nat :=
  (List.range (Array.size b)).foldl (fun best i =>
    if b.isFixed i then best
    else match best with
      | none => some i
      | some j => if b.width i < b.width j then some i else best) none

/-- The two halves of a box at an interval, the one nearer to zero first. -/
def halvesNearZero (b : Box) (i : Nat) : Box × Box :=
  let (low, high) := b.halves i
  if low.upper i < 0 then (high, low) else (low, high)

/-- The unknown to split at, with the half to search first: one of the objective's with its better
half, or else the one with the fewest values and the half that is nearer to zero. -/
def branch? (p : Problem) (b : Box) : Option (Box × Box) :=
  match p.objective.find? fun t => !b.isFixed t.1 with
  | some (i, c) =>
    let (low, high) := b.halves i
    some (if 0 < c then (low, high) else (high, low))
  | none => (narrowest? b).map (halvesNearZero b)

/-- The demand to improve on the best point so far. -/
def cut (p : Problem) (best : Option Solution) : List Rule :=
  match best with
  | some s => [⟨p.objective, .atMost, s.value - 1, none⟩]
  | none => []

/-- A point with its value, if it satisfies the rules. -/
def solutionAt? (p : Problem) (rules : List Rule) (point : Array Int) : Option Solution :=
  if rules.all fun r => r.holdsAt point then
    some ⟨point, p.objective.foldl (fun s t => s + t.2 * point.getD t.1 0) 0⟩
  else none

/-- The best of the points of a box and one found before. -/
def search (p : Problem) : Nat → Box → Option Solution → Option Solution
  | 0, _, best => best
  | fuel + 1, b, best =>
    if p.objective.isEmpty && best.isSome then best
    else
      let rules := p.cut best ++ p.rules
      match narrow rules maxPasses b with
      | none => best
      | some b =>
        match p.branch? b with
        | some (first, second) => p.search fuel second (p.search fuel first best)
        | none => (p.solutionAt? rules b.corner).or best

/-- A point of the box that satisfies all rules and has the least objective. Every split takes from
the breadth of the box, so that is fuel enough. -/
def solve (p : Problem) : Option Solution :=
  if p.box.hasNoPoint then none else p.search (p.box.breadth + 1) p.box none

end Problem

end IntegerProgram.Search
