import IntegerProgram.Relation
import IntegerProgram.Search.Box

/-!
# Rules of a search

A rule bounds a sum of unknowns from above, or forbids it one value. It may be enforced only where
an unknown has a given value. Narrowing a box by a rule loses no point that satisfies it.

## Main definitions

* `Rule`: a bound or a forbidden value, under a condition.
* `Rule.ofComparison`: the rules that a comparison amounts to.
* `Rule.narrow`: the box without values that the rule excludes.
-/
namespace IntegerProgram.Search

/-- What a rule says about its sum. -/
inductive Shape where
  | atMost
  | differs
  deriving DecidableEq, Inhabited, Repr

/-- A sum of unknowns that is at most a number, or differs from it, while an unknown has the value
of the condition, if there is one. -/
structure Rule where
  terms : List (Nat × Int)
  shape : Shape
  rhs : Int
  condition : Option (Nat × Int) := none
  deriving Inhabited, Repr

/-- Terms with an unknown added, or its coefficient increased. -/
def mergeTerm (i : Nat) (c : Int) : List (Nat × Int) → List (Nat × Int)
  | [] => [(i, c)]
  | (j, d) :: rest => if i = j then (j, d + c) :: rest else (j, d) :: mergeTerm i c rest

/-- The terms with each unknown once and no zero coefficient. -/
def mergeTerms (terms : List (Nat × Int)) : List (Nat × Int) :=
  (terms.foldr (fun t merged => mergeTerm t.1 t.2 merged) []).filter fun t => t.2 ≠ 0

/-- The terms with opposite signs. -/
def negateTerms (terms : List (Nat × Int)) : List (Nat × Int) := terms.map fun t => (t.1, -t.2)

/-- The greatest common divisor of the coefficients. -/
def divisor (terms : List (Nat × Int)) : Nat := terms.foldl (fun g t => g.gcd t.2.natAbs) 0

namespace Rule

/-- The rules that a comparison of a sum with a number amounts to. An equation that no integers
solve, since the number is no multiple of the divisor of the coefficients, is a rule that fails. -/
def ofComparison (terms : List (Nat × Int)) (op : Comparison) (k : Int)
    (condition : Option (Nat × Int)) : List Rule :=
  let terms := mergeTerms terms
  let negated := negateTerms terms
  match op with
  | .le => [⟨terms, .atMost, k, condition⟩]
  | .lt => [⟨terms, .atMost, k - 1, condition⟩]
  | .ge => [⟨negated, .atMost, -k, condition⟩]
  | .gt => [⟨negated, .atMost, -k - 1, condition⟩]
  | .ne => [⟨terms, .differs, k, condition⟩]
  | .eq =>
    if k % (divisor terms : Int) = 0 then
      [⟨terms, .atMost, k, condition⟩, ⟨negated, .atMost, -k, condition⟩]
    else [⟨[], .atMost, -1, condition⟩]

/-- The least value of the sum in a box. -/
def least (r : Rule) (b : Box) : Int :=
  r.terms.foldl (fun s t => s + t.2 * (if 0 < t.2 then b.lower t.1 else b.upper t.1)) 0

/-- Narrows the unknowns of a sum that is at most a number, where the sum can fall below the number
by `slack`. -/
def narrowTerms (slack : Int) (terms : List (Nat × Int)) (b : Box) : Box :=
  terms.foldl (fun b t =>
    if 0 < t.2 then b.cap t.1 (b.lower t.1 + slack / t.2)
    else b.raise t.1 (b.upper t.1 - slack / (-t.2))) b

/-- The unknowns of the sum that are not fixed. -/
def free (r : Rule) (b : Box) : List (Nat × Int) := r.terms.filter fun t => !b.isFixed t.1

/-- Whether the rule fails at every point of a box. -/
def fails (r : Rule) (b : Box) : Bool :=
  match r.shape with
  | .atMost => r.rhs < r.least b
  | .differs => (r.free b).isEmpty && r.least b = r.rhs

/-- Narrows a box by what a rule says, whatever its condition. -/
def enforce (r : Rule) (b : Box) : Box :=
  match r.shape with
  | .atMost => narrowTerms (r.rhs - r.least b) r.terms b
  | .differs =>
    match r.free b with
    | [(i, c)] =>
      let rest := r.rhs - (r.least b - c * (if 0 < c then b.lower i else b.upper i))
      if rest % c = 0 then b.exclude i (rest / c) else b
    | _ => b

/-- The box without values that the rule excludes, or nothing if the rule fails throughout. -/
def narrow (r : Rule) (b : Box) : Option Box :=
  match r.condition with
  | none => if r.fails b then none else some (r.enforce b)
  | some (i, x) =>
    if x < b.lower i || b.upper i < x then some b
    else if b.isFixed i then if r.fails b then none else some (r.enforce b)
    else if r.fails b then some (b.exclude i x)
    else some b

/-- Whether a point satisfies the rule. -/
def holdsAt (r : Rule) (point : Array Int) : Bool :=
  let active := match r.condition with
    | none => true
    | some (i, x) => point.getD i 0 = x
  let sum := r.terms.foldl (fun s t => s + t.2 * point.getD t.1 0) 0
  !active || match r.shape with
    | .atMost => sum ≤ r.rhs
    | .differs => sum ≠ r.rhs

end Rule

end IntegerProgram.Search
