import IntegerProgram.Number.Decimal
import IntegerProgram.Relation
import IntegerProgram.Variable

/-!
# Values of callers

Callers name variables by objects of their own, and pass bounds, coefficients and descriptions as
whatever values they hold. `Value` is the type of all of these; which of them is accepted where is
decided by the operation that receives it.
-/
namespace IntegerProgram

/-- The kinds of machine integers, those without a sign last. -/
inductive IntegerWidth where
  | int8
  | int16
  | int32
  | int64
  | uint8
  | uint16
  | uint32
  | uint64
  deriving DecidableEq, Inhabited, Repr

namespace IntegerWidth

/-- How many bits an integer of a width has. -/
def bits : IntegerWidth → Nat
  | int8 | uint8 => 8
  | int16 | uint16 => 16
  | int32 | uint32 => 32
  | int64 | uint64 => 64

/-- Whether an integer of a width may be negative. -/
def isSigned : IntegerWidth → Bool
  | int8 | int16 | int32 | int64 => true
  | uint8 | uint16 | uint32 | uint64 => false

/-- How many integers there are of a width. -/
def size (width : IntegerWidth) : Nat := Nat.pow 2 width.bits

/-- The integer of a width that differs from a given one by a multiple of its size. -/
def wrap (width : IntegerWidth) (n : Int) : Int :=
  if width.isSigned then n.bmod width.size else n % width.size

/-- Whether an integer is one of a width. -/
def holds (width : IntegerWidth) (n : Int) : Bool := width.wrap n = n

/-- Whether all integers of a width are integers of another one. -/
def fitsIn (width other : IntegerWidth) : Bool :=
  if width.isSigned = other.isSigned then width.bits ≤ other.bits
  else other.isSigned && width.bits < other.bits

/-- The least width that integers of two widths fit in, if there is one. -/
def common? (v w : IntegerWidth) : Option IntegerWidth :=
  [v, w, int16, int32, int64].find? fun t => v.fitsIn t && w.fitsIn t

end IntegerWidth

/-- The types of real machine numbers other than doubles. One of extended precision has more bits
than a double on many machines. -/
inductive RealType where
  | half
  | single
  | extended
  deriving DecidableEq, Inhabited, Repr

/-- A real machine number that is no double. With which digits a finite one is written depends on
its type and on the machine, so it comes with them. -/
inductive MachineReal where
  | notANumber (object : Nat := 0)
  | infinite (negative : Bool)
  | finite (q : Rat) (digits : String)
  deriving DecidableEq, Inhabited, Repr

namespace MachineReal

/-- The nearest double, which is infinite beyond the largest one. -/
def toBinary64 : MachineReal → Binary64
  | notANumber object => .notANumber object
  | infinite s => .infinite s
  | finite q _ => .ofRat q

/-- The exact value of a finite number. -/
def toRat? : MachineReal → Option Rat
  | finite q _ => some q
  | _ => none

/-- How a number is written. -/
def text : MachineReal → String
  | notANumber _ => "nan"
  | infinite s => if s then "-inf" else "inf"
  | finite _ digits => digits

end MachineReal

/-- A value that a caller may pass. -/
inductive Value where
  | none
  | bool (b : Bool)
  | int (n : Int)
  | float (x : Binary64)
  | fraction (q : Rat)
  | decimal (d : Decimal)
  | complex (re im : Binary64)
  | machineBool (b : Bool)
  | machineInt (width : IntegerWidth) (n : Int)
  | machineFloat (x : Binary64)
  | machineReal (type : RealType) (x : MachineReal)
  | machineComplex (re im : Binary64)
  | text (s : String)
  | relation (r : Relation)
  | comparison (c : Comparison)
  | list (items : List Value)
  | tuple (items : List Value)
  | dictionary (entries : List (Value × Value))
  | object (name : String)
  | handle (v : Variable)
  | holder (id : Nat) (description : Value)
  deriving Inhabited

namespace Value

/-- Whether the value stands for "yes" where a condition is asked for: it is not nothing, not zero
and not empty. -/
def isTrue : Value → Bool
  | none => false
  | bool b | machineBool b => b
  | int n | machineInt _ n => n ≠ 0
  | float x | machineFloat x => x.toRat? ≠ some 0
  | machineReal _ x => x.toRat? ≠ some 0
  | fraction q => q ≠ 0
  | decimal d => !d.isZero
  | complex re im | machineComplex re im => re.toRat? ≠ some 0 || im.toRat? ≠ some 0
  | text s => s ≠ ""
  | list items | tuple items => !items.isEmpty
  | dictionary entries => !entries.isEmpty
  | relation _ | comparison _ | object _ | handle _ | holder .. => true

/-- Whether the value has members that can be searched: a text or a tuple. -/
def isSequence : Value → Bool
  | text _ | relation _ | comparison _ | list _ | tuple _ => true
  | _ => false

/-- The text of a value that is a text or stands for one. -/
def asText? : Value → Option String
  | text s => some s
  | relation r => some r.name
  | comparison c => some c.symbol
  | _ => Option.none

mutual

/-- The value that a datum is. -/
def ofDatum : Datum → Value
  | .nothing => none
  | .truth b => bool b
  | .whole n => int n
  | .real x => float x
  | .text s => text s
  | .list items => list (ofDatumList items)
  | .record entries => dictionary (ofDatumRecord entries)

/-- The values that data in turn are. -/
def ofDatumList : DatumList → List Value
  | .nil => []
  | .cons first rest => ofDatum first :: ofDatumList rest

/-- The entries that named data in turn are. -/
def ofDatumRecord : DatumRecord → List (Value × Value)
  | .nil => []
  | .cons name value rest => (text name, ofDatum value) :: ofDatumRecord rest

end

/-- The value, or another one in its place if it is not true. -/
def orElse (value other : Value) : Value := if value.isTrue then value else other

end Value

end IntegerProgram
