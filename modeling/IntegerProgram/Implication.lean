import IntegerProgram.Model
import IntegerProgram.Value.Relation

/-!
# Implications

"If the predicate relation holds then so does the entailment relation" is encoded with one
indicator `b`, a variable with the values zero and one, and three gated constraints:

* the entailment relation, while `b` is one;
* its complement, while `b` is zero;
* the complement of the predicate relation, while `b` is zero.

By the first two `b` tells whether the entailment relation holds. By the third, `b` is one whenever
the predicate relation holds. Nothing is asked of the predicate while `b` is one, so where it fails
the entailment stays free: the implication goes one way only.
-/
namespace IntegerProgram

/-- One side of an implication: a form, a relation and a constant. What is wrong with a form comes
to light only where the form is used. -/
structure Condition where
  sum : Except Fault LinearForm
  relation : Value
  constant : Value
  deriving Inhabited

/-- Records the constraints of an implication. Both relations are looked up before the first of
them; a form and a constant are checked by the constraint that uses them. -/
def Model.encodeImplication (indicator : Variable) (predicate entailment : Condition)
    (description : String := "") : Attempt Model Unit := do
  if !indicator.isBoolean then throw (.raised (.indicatorDomain indicator))
  let holds ← entailment.relation.asComparison
  let fails ← entailment.relation.asComplement
  let predicateFails ← predicate.relation.asComplement
  let _ ← add (← entailment.sum) (.known holds) entailment.constant (some ⟨indicator, .int 1⟩)
    (.text (description ++ " [then]"))
  let _ ← add (← entailment.sum) (.known fails) entailment.constant (some ⟨indicator, .int 0⟩)
    (.text (description ++ " [then, negated]"))
  let _ ← add (← predicate.sum) (.known predicateFails) predicate.constant
    (some ⟨indicator, .int 0⟩) (.text (description ++ " [if, negated]"))

end IntegerProgram
