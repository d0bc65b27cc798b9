import IntegerProgram.Text.Blank

/-!
# Relations and comparisons

A request relates a weighted sum to an integer constant by one of five relations. The constraints of
a model use six comparisons: those five and "differs from", which no request can ask for and which
arises only as the complement of equality.

## Main definitions

* `Relation.comparison`: the comparison that makes a relation hold.
* `Relation.complement`: the comparison that makes it fail.
* `Relation.ofText?`: the relation that a name or symbol stands for.
-/
namespace IntegerProgram

/-- What a request may ask of a weighted sum and a constant. -/
inductive Relation where
  | eq
  | gt
  | gte
  | lt
  | lte
  deriving DecidableEq, Inhabited, Repr

/-- What a constraint may state of a weighted sum and a constant. -/
inductive Comparison where
  | eq
  | ne
  | ge
  | gt
  | le
  | lt
  deriving DecidableEq, Inhabited, Repr

namespace Comparison

/-- Whether `lhs` compares with `rhs` as stated. -/
def holds : Comparison → Int → Int → Bool
  | eq, lhs, rhs => lhs = rhs
  | ne, lhs, rhs => lhs ≠ rhs
  | ge, lhs, rhs => rhs ≤ lhs
  | gt, lhs, rhs => rhs < lhs
  | le, lhs, rhs => lhs ≤ rhs
  | lt, lhs, rhs => lhs < rhs

/-- The symbol between the two sides. -/
def symbol : Comparison → String
  | eq => "=="
  | ne => "!="
  | ge => ">="
  | gt => ">"
  | le => "<="
  | lt => "<"

/-- The short name. -/
def name : Comparison → String
  | eq => "EQ"
  | ne => "NE"
  | ge => "GE"
  | gt => "GT"
  | le => "LE"
  | lt => "LT"

/-- All comparisons. -/
def all : List Comparison := [eq, ne, ge, gt, le, lt]

/-- The comparison with a given symbol. -/
def ofSymbol? (s : String) : Option Comparison := all.find? fun c => c.symbol = s

end Comparison

namespace Relation

/-- The name, which is also the text that a relation is written as. -/
def name : Relation → String
  | eq => "EQ"
  | gt => "GT"
  | gte => "GTE"
  | lt => "LT"
  | lte => "LTE"

/-- All relations. -/
def all : List Relation := [eq, gt, gte, lt, lte]

/-- The relation with a given name. -/
def ofName? (s : String) : Option Relation := all.find? fun r => r.name = s

/-- The comparison that holds exactly when the relation does. -/
def comparison : Relation → Comparison
  | eq => .eq
  | gt => .gt
  | gte => .ge
  | lt => .lt
  | lte => .le

/-- The comparison that holds exactly when the relation does not. -/
def complement : Relation → Comparison
  | eq => .ne
  | gt => .le
  | gte => .lt
  | lt => .ge
  | lte => .gt

/-- Whether `lhs` is related to `rhs`. -/
def holds (r : Relation) (lhs rhs : Int) : Bool := r.comparison.holds lhs rhs

/-- **Exactly one of a relation and its complement holds.** -/
theorem holds_complement (r : Relation) (lhs rhs : Int) :
    r.complement.holds lhs rhs = !r.holds lhs rhs := by
  rw [Bool.eq_iff_iff]
  cases r <;> simp [complement, holds, comparison, Comparison.holds]

/-- The names and symbols by which a relation may be asked for, in upper case. -/
def aliases : Relation → List String
  | eq => ["EQ", "==", "="]
  | gt => ["GT", ">"]
  | gte => ["GTE", ">="]
  | lt => ["LT", "<"]
  | lte => ["LTE", "<="]

/-- The relation that a text asks for, blanks around it and the case of its letters aside. Only the
letters of the Latin alphabet have to change case, since no other becomes one of a name. -/
def ofText? (s : String) : Option Relation :=
  let word := (Text.trim s).toUpper
  all.find? fun r => r.aliases.contains word

end Relation

end IntegerProgram
