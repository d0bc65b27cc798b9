import IntegerProgram.Attempt
import IntegerProgram.Value.Integer
import IntegerProgram.Value.Key

/-!
# Registries

A registry pairs the keys of a caller with the variables that stand for them. Keys are listed in
the order of their first binding, and binding a key again returns its variable and changes nothing.
No two entries have equal keys, and no two have variables of one index, so that a key is found from
its variable as the variable is from its key.

A caller may refer to a variable by its key or by the handle that binding it returned. A handle is
accepted only by the registry that it came from.

## Main definitions

* `Registry`: the entries.
* `Registry.variableOf?`, `Registry.keyAt?`: its two directions.
* `Registry.bind`: binds a key to a variable of a given allocator.
* `Registry.resolve`: the variable that a key or a handle refers to.
-/
namespace IntegerProgram

/-- Makes a variable with the given bounds and name, in a state of its own. -/
abbrev Allocator (σ : Type) := Int → Int → String → Attempt σ Variable

/-- Keys and their variables, in the order of binding. -/
structure Registry where
  entries : List (Value × Variable) := []
  deriving Inhabited

namespace Registry

variable {σ : Type}

/-- The number of keys. -/
def size (r : Registry) : Nat := r.entries.length

/-- The keys in the order of binding. -/
def keys (r : Registry) : List Value := r.entries.map (·.1)

/-- The variables in the order of binding. -/
def vars (r : Registry) : List Variable := r.entries.map (·.2)

/-- The names of the variables in the order of binding. -/
def names (r : Registry) : List String := r.vars.map (·.name)

/-- The first entry that a key meets. -/
def entryOf? (r : Registry) (key : Value) : Option (Value × Variable) :=
  r.entries.find? fun e => e.1.meets key

/-- Why a key cannot be looked up, if an entry refuses to be compared with it. -/
def refusal? (r : Registry) (key : Value) : Option Value.Refusal :=
  (r.entryOf? key).bind fun e => e.1.refusal? key

/-- Whether a key cannot be looked up. -/
def isRefused (r : Registry) (key : Value) : Bool := (r.refusal? key).isSome

/-- The variable of a key. -/
def variableOf? (r : Registry) (key : Value) : Option Variable :=
  if r.isRefused key then none else (r.entryOf? key).map (·.2)

/-- The entry with a variable of the given index. -/
def entryAt? (r : Registry) (index : Int) : Option (Value × Variable) :=
  r.entries.find? fun e => e.2.index = index

/-- The key of the variable with the given index. -/
def keyAt? (r : Registry) (index : Int) : Option Value := (r.entryAt? index).map (·.1)

/-- What is wrong with a key that cannot be looked up. -/
def refusalFault (key : Value) : Value.Refusal → Fault
  | .incomparable => .raised (.unhashableKey key)
  | .tooDeep => .tooDeep

/-- What is wrong with a reference that nothing is found by. One that an entry refuses is not known
either, but members that are nested too deeply are told. -/
def absence (r : Registry) (ref : Value) : Fault :=
  if r.refusal? ref = some .tooDeep then .tooDeep else .raised (.unknownKey ref)

/-- The bounds of a new key, checked. -/
def range (minimum maximum description : Value) : Except Fault (Int × Int) := do
  description.requireText
  let lower ← minimum.asInteger s!"Lower bound of {description.literal}"
  let upper ← maximum.asInteger s!"Upper bound of {description.literal}"
  if upper < lower then throw (.raised (.invertedRange lower upper description))
  return (lower, upper)

/-- The variable of a key, made by the allocator if the key is new. Bounds and description count
only then. A variable that was allocated and cannot be entered stays allocated. -/
def bind (allocate : Allocator σ) (key minimum maximum description : Value) :
    Attempt (Registry × σ) Variable := do
  if !key.isHashable then throw (.raised (.unhashableKey key))
  let (r, _) ← get
  if let some refusal := r.refusal? key then throw (refusalFault key refusal)
  match r.variableOf? key with
  | some v => return v
  | none =>
    if let .handle v := key then throw (.raised (.handleAsKey v))
    let (lower, upper) ← range minimum maximum description
    let made ← (allocate lower upper description.shown).focus Prod.snd fun s t => (s.1, t)
    match r.keyAt? made.index with
    | some k => throw (.raised (.alreadyBound made k))
    | none =>
      modify fun s => (⟨r.entries ++ [(key, made)]⟩, s.2)
      return made

/-- The variable that a key or a handle refers to. The handle of the key "nothing" is not accepted.
-/
def resolve (r : Registry) (ref : Value) : Except Fault Variable :=
  match ref with
  | .handle v =>
    match r.entryAt? v.index with
    | some (.none, _) | none => throw (.raised (.foreignHandle v))
    | some (_, w) => if w = v then pure v else throw (.raised (.foreignHandle v))
  | _ =>
    match r.variableOf? ref with
    | some v => pure v
    | none => throw (r.absence ref)

/-- The variables that several keys or handles refer to. -/
def resolveAll (r : Registry) (refs : List Value) : Except Fault (List Variable) :=
  refs.mapM r.resolve

/-- Whether a key or a handle refers to a variable. -/
def contains (r : Registry) (ref : Value) : Except Fault Bool :=
  match r.resolve ref with
  | .ok _ => pure true
  | .error fault => if fault.kind = .notFound then pure false else throw fault

/-- The key of the variable that a handle refers to. -/
def keyOf (r : Registry) (ref : Value) : Except Fault Value := do
  let v ← r.resolve ref
  match ref with
  | .handle _ =>
    match r.keyAt? v.index with
    | some key => return key
    | none => throw (.raised (.foreignHandle v))
  | _ => throw (.notAVariable ref .value)

/-- The name of the variable that a key or a handle refers to. -/
def describe (r : Registry) (ref : Value) : Except Fault String := do
  return (← r.resolve ref).name

end Registry

end IntegerProgram
