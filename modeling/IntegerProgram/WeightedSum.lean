import IntegerProgram.Valuation

/-!
# Weighted sums

A weighted sum is a list of variables with integer coefficients. A variable may occur in several
terms, whose coefficients then add up.

Its bounds are interval arithmetic over the bounds of the variables, term by term. They are exact if
no variable repeats, and otherwise still enclose every value of the sum.

## Main definitions

* `WeightedSum.value`: the value of a sum at a point.
* `WeightedSum.bounds`: the smallest and the largest value.
-/
namespace IntegerProgram

/-- An ordered sum of variables with integer coefficients. -/
structure WeightedSum where
  terms : List (Variable × Int)
  deriving DecidableEq, Inhabited, Repr

/-- Terms with their signs between them; a plus sign in front is left out. -/
def joinTerms (terms : List String) : String :=
  match terms with
  | [] => "0"
  | _ =>
    let joined := " ".intercalate terms
    if joined.startsWith "+ " then (joined.drop 2).toString else joined

namespace WeightedSum

/-- The variables of the terms, in order. -/
def vars (s : WeightedSum) : List Variable := s.terms.map (·.1)

/-- The coefficients of the terms, in order. -/
def coefficients (s : WeightedSum) : List Int := s.terms.map (·.2)

/-- The value of the sum at a point. -/
def value (s : WeightedSum) (x : Point) : Int :=
  s.terms.foldr (fun t rest => t.2 * x t.1.index + rest) 0

@[simp] theorem value_nil (x : Point) : (⟨[]⟩ : WeightedSum).value x = 0 := rfl

@[simp] theorem value_cons (t : Variable × Int) (rest : List (Variable × Int)) (x : Point) :
    (⟨t :: rest⟩ : WeightedSum).value x = t.2 * x t.1.index + (⟨rest⟩ : WeightedSum).value x := rfl

/-- The least and the greatest value of one term. -/
def termBounds (t : Variable × Int) : Int × Int :=
  (min (t.2 * t.1.lower) (t.2 * t.1.upper), max (t.2 * t.1.lower) (t.2 * t.1.upper))

/-- The least value that the terms can have together, each taken for itself. -/
def low (s : WeightedSum) : Int := s.terms.foldr (fun t rest => (termBounds t).1 + rest) 0

/-- The greatest value that the terms can have together, each taken for itself. -/
def high (s : WeightedSum) : Int := s.terms.foldr (fun t rest => (termBounds t).2 + rest) 0

/-- The least and the greatest value of the sum. -/
def bounds (s : WeightedSum) : Int × Int := (s.low, s.high)

/-- A term with its sign in front. -/
def termText (t : Variable × Int) : String :=
  (if t.2 < 0 then "- " else "+ ") ++ toString t.2.natAbs ++ "*" ++ t.1.name

/-- The terms with their signs between them. -/
def text (s : WeightedSum) : String := joinTerms (s.terms.map termText)

/-- What keeps the terms from being written. -/
def obstacle? (s : WeightedSum) : Option Obstacle :=
  s.terms.findSome? fun t => Obstacle.ofInt? t.2 <|> t.1.nameObstacle?

end WeightedSum

end IntegerProgram
