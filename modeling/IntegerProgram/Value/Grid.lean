import IntegerProgram.Value.Conversion

/-!
# Grids of values

Coefficients, bounds and values of variables are multiplied as grids. A list of plain values is a
grid with one axis; lists and tuples of one length in all its places are a further axis, and so on
as deep as they are regular. Grids are combined place by place, where an axis of length one is
spread over the other grid's.

## Main definitions

* `Grid.ofValues`: the grid of values in turn.
* `Grid.zipWith`: two grids combined place by place.
* `Grid.dot`: the sum of the products of two grids with one axis.
-/
namespace IntegerProgram

/-- Items in places with a number on every axis, the last axis running first. -/
structure Grid where
  shape : List Nat
  items : List Value
  deriving Inhabited

namespace Grid

/-- The items of a list or a tuple. -/
def itemsOf? : Value → Option (List Value)
  | .list items | .tuple items => some items
  | _ => none

/-- The length of the first of some lists, if all have it. -/
def commonLength? : List (List Value) → Option Nat
  | [] => none
  | first :: rest => if rest.all fun l => l.length = first.length then some first.length else none

/-- The grid of items with further axes as far as they are regular, at most `fuel` of them. -/
def refine : Nat → List Nat → List Value → Grid
  | 0, shape, items => ⟨shape, items⟩
  | fuel + 1, shape, items =>
    match items.mapM itemsOf? with
    | none => ⟨shape, items⟩
    | some lists =>
      match commonLength? lists with
      | none => ⟨shape, items⟩
      | some n => refine fuel (shape ++ [n]) lists.flatten

/-- The greatest number of axes. -/
def maxAxes : Nat := 64

/-- The grid of values in turn. -/
def ofValues (values : List Value) : Grid := refine (maxAxes - 1) [values.length] values

/-- The lengths of the axes of two grids spread over each other, the last axes first. -/
def commonAxes? : List Nat → List Nat → Option (List Nat)
  | [], axes | axes, [] => some axes
  | m :: left, n :: right => do
    let rest ← commonAxes? left right
    if m = n || n = 1 then some (m :: rest) else if m = 1 then some (n :: rest) else none

/-- Items in as many pieces of a given size. -/
def pieces (size : Nat) : Nat → List Value → List (List Value)
  | 0, _ => []
  | count + 1, items => items.take size :: pieces size count (items.drop size)

/-- The items of a grid of one shape spread over another. -/
def spread : List Nat → List Nat → List Value → List Value
  | m :: shape, n :: target, items =>
    let size := shape.foldr (· * ·) 1
    let inner := ((pieces size m items).map (spread shape target)).flatten
    if m = n then inner else (List.replicate n inner).flatten
  | _, _, items => items

/-- The items of a grid in the places of a shape that it can be spread over. -/
def spreadTo (g : Grid) (target : List Nat) : List Value :=
  spread (List.replicate (target.length - g.shape.length) 1 ++ g.shape) target g.items

/-- Two grids combined place by place. -/
def zipWith (f : Value → Value → Except Fault Value) (a b : Grid) : Except Fault Grid := do
  match commonAxes? a.shape.reverse b.shape.reverse with
  | none => throw .shapeMismatch
  | some axes =>
    let shape := axes.reverse
    return ⟨shape, ← ((a.spreadTo shape).zip (b.spreadTo shape)).mapM fun t => f t.1 t.2⟩

/-- The first value unless it is greater than the second. -/
def least (a b : Value) : Except Fault Value := do return if ← a.isAtMost b then a else b

/-- The first value unless it is less than the second. -/
def greatest (a b : Value) : Except Fault Value := do return if ← b.isAtMost a then a else b

/-- A sum with one more product. -/
def addProduct (sum : Value) (factors : Value × Value) : Except Fault Value := do
  sum.add (← factors.1.mul factors.2)

/-- The sum of the products of values with others. -/
def dotLane (values others : List Value) : Except Fault Value :=
  match values.zip others with
  | [] => pure (.int 0)
  | first :: rest => do rest.foldlM addProduct (← first.1.mul first.2)

/-- The items of a grid along its last axis but one, or along its only one, in turn. -/
def lanes (g : Grid) : List (List Value) :=
  match g.shape.reverse with
  | last :: length :: _ =>
    (pieces (length * last) (g.items.length / max 1 (length * last)) g.items).flatMap fun block =>
      (List.range last).map fun place =>
        (pieces last length block).filterMap fun row => row[place]?
  | _ => [g.items]

/-- The sum of the products of two grids with one axis. Grids with more axes have a product that is
a grid, and no number; it is computed nevertheless. -/
def dot (a b : Grid) : Except Fault Value :=
  let inner := if b.shape.length < 2 then b.shape.getLast? else b.shape.dropLast.getLast?
  match a.shape, b.shape with
  | [m], [n] => if m = n then dotLane a.items b.items else throw .shapeMismatch
  | _, _ =>
    if a.shape.getLast? = inner then do
      let size := a.shape.getLastD 0
      for row in pieces size (a.items.length / max 1 size) a.items do
        for lane in b.lanes do
          let _ ← dotLane row lane
      throw (.notComparable (.list b.items))
    else throw .shapeMismatch

end Grid

end IntegerProgram
