import IntegerProgram.Fault
import IntegerProgram.Value.Key

/-!
# Relations among values

A request gives its relation as a relation, or as a text that is one of its names or symbols. The
encoding of implications is stricter: there only a relation will do, or a text that is the name of
one exactly.
-/
namespace IntegerProgram.Value

/-- The relation that a request asks for. -/
def asRelation (value : Value) : Except Fault Relation :=
  let found :=
    match value with
    | relation r => some r
    | text s => Relation.ofText? s
    | comparison c => Relation.ofText? c.symbol
    | _ => Option.none
  match found with
  | some r => pure r
  | Option.none => throw (.raised (.unsupportedRelation value))

/-- The relation that a value is equal to, if it is equal to one. -/
def equalRelation? (value : Value) : Except Fault (Option Relation) :=
  if !value.isHashable then throw .unhashable
  else
    match value.key? with
    | some (.text s) => pure (Relation.ofName? s)
    | _ => pure Option.none

/-- The comparison that makes the relation hold. -/
def asComparison (value : Value) : Except Fault Comparison := do
  match ← value.equalRelation? with
  | some r => pure r.comparison
  | Option.none => throw (.raised (.unsupportedRelation value))

/-- The comparison that makes the relation fail. -/
def asComplement (value : Value) : Except Fault Comparison := do
  match ← value.equalRelation? with
  | some r => pure r.complement
  | Option.none => throw (.raised (.noComplement value))

end IntegerProgram.Value
