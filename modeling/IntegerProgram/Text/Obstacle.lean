import IntegerProgram.Number.Numeral

/-!
# What cannot be written

Not everything that can be held can be written: an integer is written only if it has as many digits
as may be read, and the parts of a value only so many levels deep. A text of several parts is
written from the left, and fails at the first part that cannot be written.

## Main definitions

* `Obstacle`: why something cannot be written.
* `Obstacle.ofInt?`: that of an integer, if it has one.
-/
namespace IntegerProgram

/-- Why something cannot be written. -/
inductive Obstacle where
  | tooManyDigits
  | tooDeep
  deriving DecidableEq, Inhabited, Repr

namespace Obstacle

/-- How many levels of parts of a value can be written. -/
def maxLevels : Nat := 980

/-- The least natural number with too many digits. -/
@[irreducible]
def digitLimit : Nat := Nat.pow 10 Numeral.maxDigits

/-- What keeps a natural number from being written. -/
def ofNat? (n : Nat) : Option Obstacle := if n < digitLimit then none else some tooManyDigits

/-- What keeps an integer from being written. Its sign does not count. -/
def ofInt? (n : Int) : Option Obstacle := ofNat? n.natAbs

/-- What keeps a fraction from being written. -/
def ofRat? (q : Rat) : Option Obstacle := ofInt? q.num <|> ofNat? q.den

theorem ofNat?_eq_none {n : Nat} : ofNat? n = none ↔ n < digitLimit := by
  simp [ofNat?]

theorem ofNat?_eq_some {n : Nat} {o : Obstacle} (unwritable : ofNat? n = some o) :
    o = tooManyDigits := by
  rw [ofNat?] at unwritable
  split at unwritable
  · exact absurd unwritable (by simp)
  · exact (Option.some.inj unwritable).symm

theorem ofInt?_eq_some {n : Int} {o : Obstacle} (unwritable : ofInt? n = some o) :
    o = tooManyDigits :=
  ofNat?_eq_some unwritable

/-- Some integers cannot be written. -/
theorem exists_ofInt? : ∃ n, ofInt? n = some tooManyDigits :=
  ⟨Nat.pow 10 5000, by decide +kernel⟩

theorem ofInt?_eq_none {n : Int} : ofInt? n = none ↔ n.natAbs < digitLimit :=
  ofNat?_eq_none

end Obstacle

end IntegerProgram
