import IntegerProgram.Number.Residue
import IntegerProgram.Value.Text

/-!
# Keys

A caller's value can name a variable if it is hashable: lists, dictionaries and signaling decimals
are not, nor is a tuple that holds one. Two values are the same key if they are one object or equal
as values, whatever their types: all numbers compare by their exact value and truth values count as
zero and one, a relation equals its name and a comparison its symbol, opaque objects, handles and
holders equal only themselves, and tuples are compared member by member. What is no number equals
nothing, and is the same key only as the object that it is: named twice it is one key, while two
such objects are two keys.

Keys are sorted before they are compared, and those that are sorted to one place may refuse to be
compared. A decimal refuses a machine integer, though a machine integer is found by a decimal, so
this depends on the order. And members of tuples are compared only so many levels deep, unless they
are one object: members that are the same key and are written alike stand for one.

## Main definitions

* `Value.isHashable`: whether a value can be a key at all.
* `Value.key?`: the normal form under which equal values meet, as all hashable ones have it.
* `Value.isSameKey`: whether two values are the same key.
* `Value.refusal?`, `Value.refuses`: why and whether a key refuses to be compared with a value.
-/
namespace IntegerProgram

/-- The normal form of a key. A tuple is written as its members in turn and the end, and a decimal
of very many places as its shortest coefficient and the exponent. A number of extended precision
that is no double meets only others of its type. What is no number keeps its type and the object
that it is. -/
inductive Key where
  | none
  | number (q : Rat)
  | scaled (negative : Bool) (coefficient : Nat) (exponent : Int)
  | extended (q : Rat)
  | infinite (negative : Bool)
  | complex (re im : Key)
  | undefined (machine : Bool) (object : Nat)
  | undefinedReal (type : RealType) (object : Nat)
  | undefinedComplex (machine : Bool) (re im : Binary64)
  | undefinedDecimal (d : Decimal)
  | text (s : String)
  | object (name : String)
  | handle (v : Variable)
  | holder (id : Nat)
  | member (first rest : Key)
  | endOfTuple
  deriving DecidableEq, Inhabited

/-- Whether a double is no number. -/
def Binary64.isUndefined : Binary64 → Bool
  | notANumber _ => true
  | _ => false

/-- The key of a double. -/
def Binary64.key (machine : Bool) : Binary64 → Key
  | notANumber object => .undefined machine object
  | infinite s => .infinite s
  | x => .number (x.toRat?.getD 0)

/-- The key of a real machine number that is no double. -/
def MachineReal.key (type : RealType) : MachineReal → Key
  | notANumber object => .undefinedReal type object
  | infinite s => .infinite s
  | finite q _ => if (Binary64.ofRat q).toRat? = some q then .number q else .extended q

/-- The key of a complex number. One without an imaginary part is the same key as its real part. -/
def complexKey (machine : Bool) (re im : Binary64) : Key :=
  if re.isUndefined || im.isUndefined then .undefinedComplex machine re im
  else if im.key machine = .number 0 then re.key machine
  else .complex (re.key machine) (im.key machine)

/-- The residue by which the key of a number is sorted. One of extended precision is sorted as the
nearest double is. -/
def Key.residue? : Key → Option Int
  | number q => some (ratResidue q)
  | scaled s c e => (Decimal.finite s c e).residue?
  | extended q => (Binary64.ofRat q).toRat?.map ratResidue
  | infinite s => some (signedResidue s infiniteResidue)
  | _ => Option.none

/-- Whether two keys are sorted to one place, so that they come to be compared. -/
def Key.sharesPlace : Key → Key → Bool
  | member first rest, member first' rest' => first.sharesPlace first' && rest.sharesPlace rest'
  | complex re im, complex re' im' => re.sharesPlace re' && im.sharesPlace im'
  | k, l => k = l || k.residue?.isSome && k.residue? = l.residue?

/-- The most places that a number is written out with. No number of another type has more. -/
def maxPlaces : Nat := 5000

/-- The key of a decimal, unless it is a signaling one. -/
def Decimal.key? : Decimal → Option Key
  | d@(notANumber ..) => if d.isSignaling then none else some (.undefinedDecimal d)
  | infinite s => some (.infinite s)
  | finite s c e =>
    if c = 0 then some (.number 0)
    else
      let (c, e) := stripped c e
      if e.natAbs ≤ maxPlaces then some (.number (scaled s c e)) else some (.scaled s c e)

namespace Value

mutual

/-- Whether the value can be a key. -/
def isHashable : Value → Bool
  | list _ | dictionary _ => false
  | decimal d => !d.isSignaling
  | tuple items => areHashable items
  | _ => true

/-- Whether all members of a tuple can be keys. -/
def areHashable : List Value → Bool
  | [] => true
  | v :: rest => v.isHashable && areHashable rest

end

mutual

/-- The normal form of a value as a key, if it can be one. -/
def key? : Value → Option Key
  | none => some .none
  | bool b | machineBool b => some (.number (if b then 1 else 0))
  | int n | machineInt _ n => some (.number n)
  | float x => some (x.key false)
  | machineFloat x => some (x.key true)
  | machineReal type x => some (x.key type)
  | fraction q => some (.number q)
  | decimal d => d.key?
  | complex re im => some (complexKey false re im)
  | machineComplex re im => some (complexKey true re im)
  | text s => some (.text s)
  | relation r => some (.text r.name)
  | comparison c => some (.text c.symbol)
  | list _ | dictionary _ => Option.none
  | tuple items => tupleKey? items
  | object name => some (.object name)
  | handle v => some (.handle v)
  | holder id _ => some (.holder id)

/-- The normal form of a tuple with the given members. -/
def tupleKey? : List Value → Option Key
  | [] => some .endOfTuple
  | v :: rest => do
    let first ← v.key?
    let rest ← tupleKey? rest
    return .member first rest

end

/-- Whether two values are the same key. -/
def isSameKey (key value : Value) : Bool :=
  match key.key?, value.key? with
  | some k, some l => k = l
  | _, _ => false

/-- Whether two values are sorted to one place as keys. -/
def sharesPlace (key value : Value) : Bool :=
  match key.key?, value.key? with
  | some k, some l => k.sharesPlace l
  | _, _ => false

mutual

/-- Whether two values stand for one object: they are the same key, and are written alike. -/
def isOneWith : Value → Value → Bool
  | tuple items, tuple others => areOneWith items others
  | v, w => v.isSameKey w && v.literal = w.literal

/-- Whether the members of two tuples stand for the same objects. -/
def areOneWith : List Value → List Value → Bool
  | [], [] => true
  | v :: rest, w :: others => v.isOneWith w && areOneWith rest others
  | _, _ => false

end

/-- Why two values cannot be compared: one refuses the other, or they are nested too deeply. -/
inductive Refusal where
  | incomparable
  | tooDeep
  deriving DecidableEq, Inhabited, Repr

mutual

/-- Whether two values are found to be the same, where they may be nested so many levels deep. -/
def comparedAt : Nat → Value → Value → Except Refusal Bool
  | 0, v, w => if v.isOneWith w then .ok true else .error .tooDeep
  | _ + 1, decimal _, machineInt .. => .error .incomparable
  | levels + 1, tuple items, tuple others => membersComparedAt levels items others
  | _ + 1, v, w => .ok (v.isSameKey w)

/-- Whether the members of two tuples are found to be the same. They are compared in turn, until two
of them differ. -/
def membersComparedAt : Nat → List Value → List Value → Except Refusal Bool
  | _, [], [] => .ok true
  | levels, v :: rest, w :: others =>
    match comparedAt levels v w with
    | .ok true => membersComparedAt levels rest others
    | ending => ending
  | _, _, _ => .ok false

end

/-- Why a key cannot be compared with a value, if they come to be compared. -/
def refusal? (key value : Value) : Option Refusal :=
  if key.sharesPlace value then
    match comparedAt Obstacle.maxLevels key value with
    | .error refusal => some refusal
    | .ok _ => Option.none
  else Option.none

/-- Whether a key refuses to be compared with a value. -/
def refuses (key value : Value) : Bool := (key.refusal? value).isSome

/-- Whether a key and a value are compared with any result but that they differ. -/
def meets (key value : Value) : Bool := key.isSameKey value || key.refuses value

end Value

end IntegerProgram
