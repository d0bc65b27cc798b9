import IntegerProgram.Program.Gated

/-!
# Points of a gated program

What a gated program says of a point: that every value lies in its domain, and that every rule
holds. A linear rule says nothing where its literal is false, and a clause that at least one of its
literals is true, so that the empty clause never holds.

## Main definitions

* `GatedProgram.Rule.Holds`: what a rule says of a point.
* `GatedProgram.Admits`: what a program says of a point.
-/
namespace IntegerProgram

/-- A literal is true where its variable is one or, if it is a negation, zero. -/
def Literal.IsTrue (l : Literal) (x : Point) : Prop := x l.index = if l.positive then 1 else 0

namespace GatedProgram

/-- The value of terms at a point, of which only the whole coefficients count. -/
def termsValue (terms : List (Int × Value)) (x : Point) : Int :=
  terms.foldr (fun t rest => t.2.whole * x t.1 + rest) 0

/-- The terms of a sum have its value. -/
@[simp] theorem termsValue_indexed (s : WeightedSum) (x : Point) :
    termsValue (LinearForm.whole s).indexed x = s.value x := by
  simp [termsValue, LinearForm.indexed, LinearForm.terms, WeightedSum.value, List.foldr_map]

/-- The numbers in a domain. -/
def Domain.Contains : Domain → Int → Prop
  | truth _, n => n = 0 ∨ n = 1
  | range v, n => v.lower ≤ n ∧ n ≤ v.upper

/-- The domain of a variable holds the numbers that the variable admits. -/
theorem Domain.contains_ofVariable (v : Variable) (n : Int) :
    (Domain.ofVariable v).Contains n ↔ v.admits n = true := by
  by_cases boolean : v.isBoolean <;> simp [ofVariable, boolean, Contains, Variable.admits]
  simp [Variable.isBoolean] at boolean
  omega

/-- What a rule says of a point. -/
def Rule.Holds : Rule → Point → Prop
  | linear terms op rhs onlyIf, x =>
    (∀ l, onlyIf = some l → l.IsTrue x) → op.holds (termsValue terms x) rhs = true
  | clause literals, x => ∃ l ∈ literals, l.IsTrue x

/-- A program admits a point in all domains at which every rule holds. -/
structure Admits (p : GatedProgram) (x : Point) : Prop where
  domains : ∀ (i : Nat) (d : Domain), p.domains[i]? = some d → d.Contains (x i)
  rules : ∀ r ∈ p.rules, r.Holds x

end GatedProgram

end IntegerProgram
