import IntegerProgram.Program.Rows

/-!
# Points of a program of rows

A point of a program of rows has a value for every column. The program says of it that every choice
of side is zero or one, and that every row holds. What it says of the variables of the model beyond
their rows is that they lie within their bounds, which the model says as well.

## Main definitions

* `RowProgram.Row.Holds`: what a row says of the values of columns.
* `RowProgram.Admits`: what a program says of them.
-/
namespace IntegerProgram

/-- The values of columns: those of a point, and those of the choices of side. -/
def Column.value (x : Point) (side : Nat → Int) : Column → Int
  | structural i => x i
  | Column.side n => side n

/-- The value of terms over columns. -/
def columnsValue (terms : List (Column × Int)) (y : Column → Int) : Int :=
  terms.foldr (fun t rest => t.2 * y t.1 + rest) 0

@[simp] theorem columnsValue_nil (y : Column → Int) : columnsValue [] y = 0 := rfl

@[simp] theorem columnsValue_cons (t : Column × Int) (rest : List (Column × Int))
    (y : Column → Int) : columnsValue (t :: rest) y = t.2 * y t.1 + columnsValue rest y := rfl

@[simp] theorem columnsValue_append (a b : List (Column × Int)) (y : Column → Int) :
    columnsValue (a ++ b) y = columnsValue a y + columnsValue b y := by
  induction a with
  | nil => simp
  | cons t rest ih => simp only [List.cons_append, columnsValue_cons, ih]; omega

@[simp] theorem columnsValue_scaleTerms (k : Int) (terms : List (Column × Int))
    (y : Column → Int) : columnsValue (scaleTerms k terms) y = k * columnsValue terms y := by
  induction terms with
  | nil => simp [scaleTerms]
  | cons t rest ih =>
    simp only [scaleTerms, List.map_cons, columnsValue_cons, Int.mul_add, Int.mul_assoc] at ih ⊢
    rw [ih]

/-- The columns of a sum have its value. -/
theorem columnsValue_columns (s : WeightedSum) (x : Point) (side : Nat → Int) :
    columnsValue s.columns (Column.value x side) = s.value x := by
  obtain ⟨terms⟩ := s
  induction terms with
  | nil => rfl
  | cons t rest ih =>
    by_cases zero : t.2 = 0 <;>
      simp_all [WeightedSum.columns, Column.value]

namespace AffineForm

/-- The value of a form. -/
def value (a : AffineForm) (y : Column → Int) : Int := columnsValue a.terms y + a.constant

@[simp] theorem value_ofColumn (c : Column) (y : Column → Int) : (ofColumn c).value y = y c := by
  simp [value, ofColumn]

@[simp] theorem value_complement (c : Column) (y : Column → Int) :
    (complement c).value y = 1 - y c := by
  simp [value, complement]
  omega

@[simp] theorem value_add (a b : AffineForm) (y : Column → Int) :
    (a.add b).value y = a.value y + b.value y := by
  simp [value, add]
  omega

end AffineForm

namespace RowProgram

/-- The coefficients of a row, of which only those that are whole count. -/
def Row.wholeTerms (r : Row) : List (Column × Int) := r.terms.map fun t => (t.1, t.2.whole)

/-- What a row says of the values of columns. -/
def Row.Holds (r : Row) (y : Column → Int) : Prop :=
  match r.relation with
  | .le => columnsValue r.wholeTerms y ≤ r.rhs
  | .ge => r.rhs ≤ columnsValue r.wholeTerms y
  | .eq => columnsValue r.wholeTerms y = r.rhs

/-- Terms with integers for coefficients keep them. -/
theorem wholeTerms_valueTerms (terms : List (Column × Int)) (rel : Relation) (rhs : Int) :
    (⟨valueTerms terms, rel, rhs⟩ : Row).wholeTerms = terms := by
  simp [Row.wholeTerms, valueTerms, Function.comp_def]

/-- The opposite of terms with integers for coefficients. -/
theorem negateColumns_valueTerms (terms : List (Column × Int)) :
    negateColumns (valueTerms terms) = .ok (valueTerms (scaleTerms (-1) terms)) := by
  induction terms with
  | nil => rfl
  | cons t rest ih =>
    simp only [negateColumns, valueTerms, scaleTerms, List.map_cons, List.mapM_cons, Value.neg,
      bind, Except.bind, pure, Except.pure] at ih ⊢
    rw [ih]
    simp

/-- A program admits values of columns with choices of side at which every row holds, unless it is
impossible. -/
structure Admits (p : RowProgram) (y : Column → Int) : Prop where
  possible : p.impossible = false
  sides : ∀ n < p.sides, y (.side n) = 0 ∨ y (.side n) = 1
  rows : ∀ r ∈ p.rows, r.Holds y

end RowProgram

end IntegerProgram
