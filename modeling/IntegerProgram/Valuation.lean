import IntegerProgram.Value.Basic

/-!
# Valuations

A point gives every variable a value, by index. A valuation is what a caller or an engine claims to
be one: it may lack values, and those that it has need not be integers.

## Main definitions

* `Point`, `Valuation`: values for all variables, or for some of them.
* `Point.valuation`: the valuation in which no value is missing.
-/
namespace IntegerProgram

/-- A value for every variable, by index. -/
abbrev Point := Int → Int

/-- The values of variables, by index; some may have none. -/
abbrev Valuation := Int → Option Value

/-- The valuation that a list of entries describes, of which a later one replaces an earlier. -/
def Valuation.ofEntries (entries : List (Int × Value)) : Valuation := fun i =>
  (entries.reverse.find? fun e => e.1 = i).map (·.2)

/-- The valuation in which no value is missing. -/
def Point.valuation (x : Point) : Valuation := fun i => some (.int (x i))

end IntegerProgram
