import IntegerProgram.Number.Binary64
import IntegerProgram.Value.Text

/-!
# JSON values

A JSON value keeps the order of the members of its objects and tells whole numbers from doubles: a
number written with a point or an exponent is a double, any other is an integer of any size.
-/
namespace IntegerProgram

/-- A JSON value. -/
inductive Json where
  | null
  | bool (b : Bool)
  | int (n : Int)
  | real (x : Binary64)
  | string (s : String)
  | array (items : List Json)
  | object (members : List (String × Json))
  deriving Inhabited

namespace Json

/-- The members of an object with one member set: an existing one keeps its place. -/
def setMember (members : List (String × Json)) (name : String) (value : Json) :
    List (String × Json) :=
  if members.any fun m => m.1 = name then
    members.map fun m => if m.1 = name then (name, value) else m
  else members ++ [(name, value)]

/-- The member of an object with a given name. -/
def member? (name : String) : Json → Option Json
  | object members => (members.find? fun m => m.1 = name).map (·.2)
  | _ => none

mutual

/-- The value that a JSON value stands for. -/
def toValue : Json → Value
  | null => .none
  | bool b => .bool b
  | int n => .int n
  | real x => .float x
  | string s => .text s
  | array items => .list (toValues items)
  | object members => .dictionary (toEntries members)

/-- The values of the items of an array. -/
def toValues : List Json → List Value
  | [] => []
  | j :: rest => j.toValue :: toValues rest

/-- The entries of an object. -/
def toEntries : List (String × Json) → List (Value × Value)
  | [] => []
  | (name, j) :: rest => (.text name, j.toValue) :: toEntries rest

end

mutual

/-- The datum that a JSON value is. -/
def toDatum : Json → Datum
  | null => .nothing
  | bool b => .truth b
  | int n => .whole n
  | real x => .real x
  | string s => .text s
  | array items => .list (toDatumList items)
  | object members => .record (toDatumRecord members)

/-- The data that the items of an array are. -/
def toDatumList : List Json → DatumList
  | [] => .nil
  | j :: rest => .cons j.toDatum (toDatumList rest)

/-- The named data that the members of an object are. -/
def toDatumRecord : List (String × Json) → DatumRecord
  | [] => .nil
  | (name, j) :: rest => .cons name j.toDatum (toDatumRecord rest)

end

mutual

/-- A value as JSON, as far as JSON has it. Other values are written by their texts. -/
def ofValue : Value → Json
  | .none => null
  | .bool b => bool b
  | .int n => int n
  | .float x => real x
  | .list items | .tuple items => array (ofValues items)
  | .dictionary entries => object (ofEntries entries)
  | value => string value.shown

/-- The values of a list as items of an array. -/
def ofValues : List Value → List Json
  | [] => []
  | v :: rest => ofValue v :: ofValues rest

/-- The entries of a dictionary as members of an object. -/
def ofEntries : List (Value × Value) → List (String × Json)
  | [] => []
  | (key, v) :: rest => (key.shown, ofValue v) :: ofEntries rest

end

end Json

end IntegerProgram
