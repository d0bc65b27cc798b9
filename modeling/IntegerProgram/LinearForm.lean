import IntegerProgram.Value.Text
import IntegerProgram.WeightedSum

/-!
# Linear forms

A linear form is what a constraint or an objective is given: a weighted sum, or terms whose
coefficients are numbers of any type. Both are shown in the same way. Only weighted sums can be
solved for; the value of another form is found out by computing with the coefficients as they are.

## Main definitions

* `LinearForm`: the two kinds.
* `LinearForm.terms`: the terms of either, with values for coefficients.
-/
namespace IntegerProgram

/-- The integers that values are, if all of them are. -/
def Value.integers? (values : List Value) : Option (List Int) :=
  values.mapM fun
    | .int n => some n
    | _ => Option.none

/-- A weighted sum, or terms with coefficients of any type. -/
inductive LinearForm where
  | whole (s : WeightedSum)
  | mixed (terms : List (Variable × Value))
  deriving Inhabited

namespace LinearForm

instance : Coe WeightedSum LinearForm := ⟨whole⟩

/-- The form of terms: a weighted sum if all coefficients are integers and all variables have the
bounds that they were declared with. -/
def ofTerms (terms : List (Variable × Value)) : LinearForm :=
  match Value.integers? (terms.map (·.2)) with
  | some coefficients =>
    if terms.all fun t => t.1.declared.isNone then
      whole ⟨(terms.map (·.1)).zip coefficients⟩
    else mixed terms
  | none => mixed terms

/-- The terms, with values for coefficients. -/
def terms : LinearForm → List (Variable × Value)
  | whole s => s.terms.map fun t => (t.1, .int t.2)
  | mixed terms => terms

/-- The variables of the terms, in order. -/
def vars (f : LinearForm) : List Variable := f.terms.map (·.1)

/-- The coefficients of the terms, in order. -/
def coefficients (f : LinearForm) : List Value := f.terms.map (·.2)

@[simp] theorem vars_whole (s : WeightedSum) : (whole s).vars = s.vars := by
  simp [vars, terms, WeightedSum.vars]

/-- A term with its sign in front. -/
def termText (t : Variable × Value) : String :=
  (if t.2.isNegative then "- " else "+ ") ++ t.2.sizeText ++ "*" ++ t.1.name

/-- The terms with their signs between them. -/
def text : LinearForm → String
  | whole s => s.text
  | mixed terms => joinTerms (terms.map termText)

end LinearForm

end IntegerProgram
