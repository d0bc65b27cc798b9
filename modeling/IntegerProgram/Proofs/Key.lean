import IntegerProgram.Value.Order

/-!
# Keys

Being the same key is symmetric and transitive, and a value is the same key as itself just if it can
be a key. No key refuses to be compared with itself.

## Main statements

* `Value.isSameKey_iff`: two values are the same key if they have one normal form.
* `Value.isSome_key?`, `Value.isSameKey_self`: what can be a key has a normal form, and is the same
  key as itself.
* `Value.refuses_self`: a key can be compared with itself.
* `Value.eq_none_of_key?`, `Value.eq_handle_of_key?`: nothing and handles share their keys with no
  other value.
-/
namespace IntegerProgram

@[simp] theorem Key.sharesPlace_self (k : Key) : k.sharesPlace k = true := by
  induction k with
  | member first rest ih ih' => simp [sharesPlace, ih, ih']
  | complex re im ih ih' => simp [sharesPlace, ih, ih']
  | _ => simp [sharesPlace]

namespace Value

variable {k l m : Value}

theorem isSameKey_iff : k.isSameKey l = true ↔ ∃ key, k.key? = some key ∧ l.key? = some key := by
  unfold isSameKey
  cases k.key? <;> cases l.key? <;> simp [eq_comm]

theorem isSameKey_comm (k l : Value) : k.isSameKey l = l.isSameKey k := by
  rw [Bool.eq_iff_iff, isSameKey_iff, isSameKey_iff]
  simp only [and_comm]

theorem isSameKey_trans (first : k.isSameKey l = true) (second : l.isSameKey m = true) :
    k.isSameKey m = true := by
  obtain ⟨key, left, middle⟩ := isSameKey_iff.1 first
  obtain ⟨key', middle', right⟩ := isSameKey_iff.1 second
  obtain rfl := Option.some.inj (middle.symm.trans middle')
  exact isSameKey_iff.2 ⟨key, left, right⟩

theorem isSome_decimalKey? (d : Decimal) : d.key?.isSome = !d.isSignaling := by
  cases d with
  | notANumber negative signaling payload object => cases signaling <;> rfl
  | infinite s => rfl
  | finite s c e =>
    simp only [Decimal.key?]
    split
    · rfl
    · split <;> rfl

mutual

/-- What can be a key has a normal form. -/
theorem isSome_key? : (value : Value) → value.key?.isSome = value.isHashable
  | tuple items => by rw [key?, isHashable, isSome_tupleKey? items]
  | decimal d => by rw [key?, isHashable, isSome_decimalKey? d]
  | list _ | dictionary _ | none | bool _ | int _ | float _ | fraction _ | complex ..
  | machineBool _ | machineInt .. | machineFloat _ | machineReal .. | machineComplex .. | text _
  | relation _ | comparison _ | object _ | handle _ | holder .. => by simp [key?, isHashable]

/-- A tuple has a normal form if its members can be keys. -/
theorem isSome_tupleKey? : (items : List Value) → (tupleKey? items).isSome = areHashable items
  | [] => by simp [tupleKey?, areHashable]
  | v :: rest => by
    rw [areHashable, ← isSome_key? v, ← isSome_tupleKey? rest]
    cases key : v.key? <;> cases keys : tupleKey? rest <;> simp [tupleKey?, key, keys]

end

/-- A value is the same key as itself if it can be a key. -/
theorem isSameKey_self (value : Value) : value.isSameKey value = value.isHashable := by
  rw [← isSome_key?, isSameKey]
  cases value.key? <;> simp

mutual

/-- What can be a key is one with itself. -/
theorem isOneWith_self : (key : Value) → key.isHashable = true → key.isOneWith key = true
  | tuple items, hashable => areOneWith_self items hashable
  | list _, unhashable | dictionary _, unhashable => by simp [isHashable] at unhashable
  | decimal _, hashable | none, hashable | bool _, hashable | int _, hashable | float _, hashable
  | fraction _, hashable | complex .., hashable | machineBool _, hashable | machineInt .., hashable
  | machineFloat _, hashable | machineReal .., hashable | machineComplex .., hashable
  | text _, hashable | relation _, hashable | comparison _, hashable | object _, hashable
  | handle _, hashable | holder .., hashable => by simp [isOneWith, isSameKey_self, hashable]

theorem areOneWith_self : (items : List Value) → areHashable items = true →
    areOneWith items items = true
  | [], _ => rfl
  | v :: rest, hashable => by
    obtain ⟨first, others⟩ := Bool.and_eq_true_iff.1 hashable
    rw [areOneWith, isOneWith_self v first, areOneWith_self rest others, Bool.and_self]

end

mutual

/-- What can be a key is found to be the same as itself, however deep its members are nested. -/
theorem comparedAt_self : (levels : Nat) → (key : Value) → key.isHashable = true →
    comparedAt levels key key = .ok true
  | 0, key, hashable => by simp [comparedAt, isOneWith_self key hashable]
  | levels + 1, tuple items, hashable => membersComparedAt_self levels items hashable
  | _ + 1, list _, unhashable | _ + 1, dictionary _, unhashable => by
    simp [isHashable] at unhashable
  | _ + 1, decimal _, hashable | _ + 1, none, hashable | _ + 1, bool _, hashable
  | _ + 1, int _, hashable | _ + 1, float _, hashable | _ + 1, fraction _, hashable
  | _ + 1, complex .., hashable | _ + 1, machineBool _, hashable | _ + 1, machineInt .., hashable
  | _ + 1, machineFloat _, hashable | _ + 1, machineReal .., hashable
  | _ + 1, machineComplex .., hashable | _ + 1, text _, hashable | _ + 1, relation _, hashable
  | _ + 1, comparison _, hashable | _ + 1, object _, hashable | _ + 1, handle _, hashable
  | _ + 1, holder .., hashable => by simp [comparedAt, isSameKey_self, hashable]

theorem membersComparedAt_self : (levels : Nat) → (items : List Value) →
    areHashable items = true → membersComparedAt levels items items = .ok true
  | _, [], _ => rfl
  | levels, v :: rest, hashable => by
    obtain ⟨first, others⟩ := Bool.and_eq_true_iff.1 hashable
    simp [membersComparedAt, comparedAt_self levels v first,
      membersComparedAt_self levels rest others]

end

/-- A key can be compared with itself. -/
@[simp] theorem refusal?_self (key : Value) : key.refusal? key = Option.none := by
  cases hashable : key.isHashable with
  | true => simp [refusal?, comparedAt_self _ key hashable]
  | false =>
    have unsorted : key.key? = Option.none := by
      rw [← Option.not_isSome_iff_eq_none, isSome_key?, hashable]
      exact Bool.false_ne_true
    simp [refusal?, sharesPlace, unsorted]

/-- What a key refuses to be compared with can be a key. -/
theorem isHashable_of_refusal? {key value : Value} {refusal : Refusal}
    (refused : key.refusal? value = some refusal) : value.isHashable = true := by
  rw [refusal?] at refused
  split at refused
  · next sorted =>
    rw [← isSome_key?]
    cases normal : value.key? with
    | some k => rfl
    | none => simp [sharesPlace, normal] at sorted
  · simp at refused

/-- No key refuses to be compared with a text. -/
@[simp] theorem refusal?_text (key : Value) (s : String) :
    key.refusal? (.text s) = Option.none := by
  have compared : comparedAt Obstacle.maxLevels key (.text s) = .ok (key.isSameKey (.text s)) := by
    cases key <;> rfl
  simp [refusal?, compared]

/-- No key refuses to be compared with a holder. -/
@[simp] theorem refusal?_holder (key : Value) (id : Nat) (description : Value) :
    key.refusal? (.holder id description) = Option.none := by
  have compared : comparedAt Obstacle.maxLevels key (.holder id description) =
      .ok (key.isSameKey (.holder id description)) := by
    cases key <;> rfl
  simp [refusal?, compared]

/-- No key refuses to be compared with itself, a text or a holder. -/
theorem refuses_self (key : Value) : key.refuses key = false := by
  simp [refuses]

theorem refuses_text (key : Value) (s : String) : key.refuses (.text s) = false := by
  simp [refuses]

theorem refuses_holder (key : Value) (id : Nat) (description : Value) :
    key.refuses (.holder id description) = false := by
  simp [refuses]

@[simp] theorem meets_text (s t : String) : (text s).meets (.text t) = decide (s = t) := by
  simp [meets, refuses_text, isSameKey, key?]

@[simp] theorem meets_holder_text (id : Nat) (description : Value) (t : String) :
    (holder id description).meets (.text t) = false := by
  simp [meets, refuses_text, isSameKey, key?]

@[simp] theorem meets_text_holder (s : String) (id : Nat) (description : Value) :
    (text s).meets (.holder id description) = false := by
  simp [meets, refuses_holder, isSameKey, key?]

@[simp] theorem meets_holder (id id' : Nat) (description description' : Value) :
    (holder id description).meets (.holder id' description') = decide (id = id') := by
  simp [meets, refuses_holder, isSameKey, key?]

end Value

/-- Whether a key is that of a number, or of what has the type of one. -/
def Key.isNumeric : Key → Bool
  | number _ | scaled .. | extended _ | infinite _ | complex .. => true
  | undefined .. | undefinedReal .. | undefinedComplex .. | undefinedDecimal _ => true
  | _ => false

/-- Whether a key is that of a tuple. -/
def Key.isTuple : Key → Bool
  | member .. | endOfTuple => true
  | _ => false

theorem Binary64.isNumeric_key (machine : Bool) (x : Binary64) :
    (x.key machine).isNumeric = true := by
  cases x <;> rfl

theorem MachineReal.isNumeric_key (type : RealType) (x : MachineReal) :
    (x.key type).isNumeric = true := by
  cases x with
  | notANumber _ | infinite _ => rfl
  | finite q digits =>
    rw [key]
    split <;> rfl

theorem isNumeric_complexKey (machine : Bool) (re im : Binary64) :
    (complexKey machine re im).isNumeric = true := by
  rw [complexKey]
  split
  · rfl
  · split
    · exact Binary64.isNumeric_key machine re
    · rfl

theorem Decimal.isNumeric_of_key? {d : Decimal} {k : Key} (normal : d.key? = some k) :
    k.isNumeric = true := by
  cases d with
  | notANumber negative signaling payload object =>
    obtain ⟨-, rfl⟩ : _ ∧ Key.undefinedDecimal _ = k := by simpa [key?] using normal
    rfl
  | infinite s =>
    rw [key?, Option.some.injEq] at normal
    rw [← normal, Key.isNumeric]
  | finite s c e =>
    simp only [key?] at normal
    split at normal
    · rw [← Option.some.inj normal, Key.isNumeric]
    · split at normal <;> rw [← Option.some.inj normal, Key.isNumeric]

namespace Value

variable {value : Value} {k : Key}

/-- A number has the key of one. -/
theorem isNumeric_of_key? (number : value.isNumber = true) (normal : value.key? = some k) :
    k.isNumeric = true := by
  cases value with
  | decimal d =>
    rw [key?] at normal
    exact Decimal.isNumeric_of_key? normal
  | float x | machineFloat x =>
    rw [← Option.some.inj normal]
    exact Binary64.isNumeric_key _ x
  | machineReal type x =>
    rw [← Option.some.inj normal]
    exact MachineReal.isNumeric_key type x
  | complex re im | machineComplex re im =>
    rw [← Option.some.inj normal]
    exact isNumeric_complexKey _ re im
  | bool _ | int _ | fraction _ | machineBool _ | machineInt _ _ =>
    rw [key?, Option.some.injEq] at normal
    rw [← normal, Key.isNumeric]
  | _ => simp [isNumber] at number

theorem isTuple_of_tupleKey? {items : List Value} (normal : tupleKey? items = some k) :
    k.isTuple = true := by
  cases items with
  | nil =>
    rw [tupleKey?, Option.some.injEq] at normal
    rw [← normal, Key.isTuple]
  | cons v rest =>
    simp only [tupleKey?, Option.bind_eq_bind, Option.bind_eq_some_iff, Option.pure_def,
      Option.some.injEq] at normal
    obtain ⟨_, -, _, -, rfl⟩ := normal
    rfl

/-- Nothing is the only value with its key. -/
theorem eq_none_of_key? (normal : value.key? = some .none) : value = none := by
  by_cases number : value.isNumber = true
  · exact absurd (isNumeric_of_key? number normal) Bool.false_ne_true
  cases value with
  | none => rfl
  | tuple items =>
    rw [key?] at normal
    exact absurd (isTuple_of_tupleKey? normal) Bool.false_ne_true
  | _ => simp_all [key?, isNumber]

/-- Nothing is the same key as itself only. -/
theorem eq_none_iff_of_isSameKey {value other : Value} (same : value.isSameKey other = true) :
    value = none ↔ other = none := by
  obtain ⟨normal, left, right⟩ := isSameKey_iff.1 same
  constructor
  · rintro rfl
    obtain rfl : .none = normal := Option.some.inj left
    exact eq_none_of_key? right
  · rintro rfl
    obtain rfl : .none = normal := Option.some.inj right
    exact eq_none_of_key? left

/-- A handle is the only value with its key. -/
theorem eq_handle_of_key? {v : Variable} (normal : value.key? = some (.handle v)) :
    value = handle v := by
  by_cases number : value.isNumber = true
  · exact absurd (isNumeric_of_key? number normal) Bool.false_ne_true
  cases value with
  | tuple items =>
    rw [key?] at normal
    exact absurd (isTuple_of_tupleKey? normal) Bool.false_ne_true
  | _ => simp_all [key?, isNumber]

end Value

end IntegerProgram
