import IntegerProgram.Proofs.Attempt
import IntegerProgram.Value.Grid

/-!
# Refusals and other faults

Some faults are refusals: they tell a caller that what was asked for is not in order. Computing with
values fails in other ways only, such as for numbers that are too large. That an operation fails in
certain ways only is shown part by part.

## Main definitions

* `Fault.Kind.isRefusal`, `Fault.IsOther`: whether a fault is a refusal, or not.
* `Fault.IsUnwritten`: whether it is that something cannot be written.
* `FailsOnly`: an operation all of whose faults have a property.

## Main statements

* `Value.failsOnly_add`, `Value.failsOnly_mul`: sums and products refuse nothing.
* `Value.failsOnly_wholePart`, `Value.failsOnly_asReal`: nor do conversions.
-/
namespace IntegerProgram

/-- Whether a family tells that what was asked for is not in order: the settings or the bounds, a
key, the number of coefficients, or a relation. -/
@[simp] def Fault.Kind.isRefusal : Kind → Bool
  | configuration | notFound | arity | relation => true
  | _ => false

/-- Whether a fault is of another family. -/
@[simp] def Fault.IsOther (fault : Fault) : Prop := fault.kind.isRefusal = false

/-- Whether a fault is that something cannot be written. -/
def Fault.IsUnwritten (fault : Fault) : Prop := ∃ o : Obstacle, fault = o.fault

/-- What cannot be written is a bad value, or nested too deeply. -/
theorem Fault.IsUnwritten.kind_eq {fault : Fault} (unwritten : fault.IsUnwritten) :
    fault.kind = .badValue ∨ fault.kind = .recursion := by
  obtain ⟨o, rfl⟩ := unwritten
  cases o with
  | tooManyDigits => exact .inl rfl
  | tooDeep => exact .inr rfl

/-- That something cannot be written is no refusal. -/
theorem Obstacle.isOther_fault (o : Obstacle) : o.fault.IsOther := by
  cases o <;> simp [fault, Fault.kind]

/-- The fault that comes about has a property if the one that would have come about has it, and what
cannot be written. -/
theorem Fault.of_raised {P : Fault → Prop} {f : Fault} (own : P f)
    (unwritten : ∀ o : Obstacle, P o.fault) : P f.raised := by
  cases obstacle : f.obstacle? with
  | none => rwa [raised_of_none obstacle]
  | some o =>
    rw [raised_of_some obstacle]
    exact unwritten o

/-- Whether all faults of an operation have a property. -/
def FailsOnly {α : Type} (P : Fault → Prop) (r : Except Fault α) : Prop :=
  ∀ fault, r = .error fault → P fault

namespace FailsOnly

variable {α β : Type} {P Q : Fault → Prop} {r : Except Fault α}

@[simp] theorem ok_iff (a : α) : FailsOnly P (.ok a) ↔ True := by
  simp [FailsOnly]

@[simp] theorem pure_iff (a : α) : FailsOnly P (pure a) ↔ True := ok_iff a

@[simp] theorem error_iff (fault : Fault) :
    FailsOnly P (.error fault : Except Fault α) ↔ P fault := by
  simp [FailsOnly]

@[simp] theorem throw_iff (fault : Fault) :
    FailsOnly P (throw fault : Except Fault α) ↔ P fault := error_iff fault

theorem mono (F : FailsOnly P r) (weaker : ∀ fault, P fault → Q fault) : FailsOnly Q r :=
  fun fault failed => weaker fault (F fault failed)

theorem of_eq_ok {a : α} (returned : r = .ok a) : FailsOnly P r := by
  rw [returned, ok_iff]
  trivial

/-- A sequence fails where its first part does, or where the second does after what the first has
returned. -/
theorem bind (F : FailsOnly P r) {f : α → Except Fault β}
    (next : ∀ a, r = .ok a → FailsOnly P (f a)) : FailsOnly P (r >>= f) := by
  cases returned : r with
  | error fault =>
    rw [error_bind, error_iff]
    exact F fault returned
  | ok a =>
    rw [ok_bind]
    exact next a returned

theorem map (F : FailsOnly P r) (f : α → β) : FailsOnly P (f <$> r) := by
  rw [← bind_pure_comp]
  exact F.bind fun a _ => by simp

theorem mapM {f : α → Except Fault β} {xs : List α} (each : ∀ x ∈ xs, FailsOnly P (f x)) :
    FailsOnly P (xs.mapM f) := by
  induction xs with
  | nil => simp
  | cons x xs ih =>
    rw [List.forall_mem_cons] at each
    rw [List.mapM_cons]
    exact each.1.bind fun _ _ => (ih each.2).bind fun _ _ => by simp

theorem forM {f : α → Except Fault Unit} {xs : List α} (each : ∀ x ∈ xs, FailsOnly P (f x)) :
    FailsOnly P (xs.forM f) := by
  induction xs with
  | nil => exact (ok_iff ()).2 trivial
  | cons x xs ih =>
    rw [List.forall_mem_cons] at each
    exact each.1.bind fun _ _ => ih each.2

theorem foldlM {f : β → α → Except Fault β} {xs : List α}
    (each : ∀ b, ∀ x ∈ xs, FailsOnly P (f b x)) (b : β) : FailsOnly P (xs.foldlM f b) := by
  induction xs generalizing b with
  | nil => simp
  | cons x xs ih =>
    rw [List.foldlM_cons]
    refine (each b x List.mem_cons_self).bind fun c _ => ih ?_ c
    exact fun b x hx => each b x (List.mem_cons_of_mem _ hx)

end FailsOnly

namespace Attempt

variable {σ α β : Type} {P : Fault → Prop} {s : σ}

/-- Whether an attempt fails with a fault of a certain kind and leaves the state as it was. -/
def IsRefused (P : Fault → Prop) (m : Attempt σ α) (s : σ) : Prop :=
  ∃ fault, P fault ∧ m.on s = (.error fault, s)

/-- What begins with a check is refused by the check, or by what follows if that is passed. -/
theorem IsRefused.check {r : Except Fault α} {f : α → Attempt σ β} (F : FailsOnly P r)
    (next : ∀ a, r = .ok a → IsRefused P (f a) s) :
    IsRefused P ((liftM r : Attempt σ α) >>= f) s := by
  cases returned : r with
  | error fault => exact ⟨fault, F fault returned, on_bind_error (on_liftM _ s)⟩
  | ok a =>
    obtain ⟨fault, kind, failed⟩ := next a returned
    exact ⟨fault, kind, (on_bind_ok (on_liftM _ s)).trans failed⟩

/-- Looking at the state refuses nothing. -/
theorem IsRefused.get {f : σ → Attempt σ β} (next : IsRefused P (f s) s) :
    IsRefused P (MonadState.get >>= f) s := by
  obtain ⟨fault, kind, failed⟩ := next
  exact ⟨fault, kind, (on_bind_ok (on_get s)).trans failed⟩

theorem IsRefused.map {m : Attempt σ α} (refused : IsRefused P m s) (f : α → β) :
    IsRefused P (f <$> m) s := by
  obtain ⟨fault, kind, failed⟩ := refused
  exact ⟨fault, kind, by rw [on_map, failed]; rfl⟩

end Attempt

/-- A check that something can be written fails with that fault only. -/
theorem Obstacle.isUnwritten_of_requireNone (o? : Option Obstacle) :
    FailsOnly Fault.IsUnwritten (requireNone o?) := by
  cases o? with
  | none => simp
  | some o => simp [Fault.IsUnwritten]

/-- Checking that something can be written refuses nothing. -/
theorem Obstacle.failsOnly_requireNone (o? : Option Obstacle) :
    FailsOnly Fault.IsOther (requireNone o?) := by
  cases o? with
  | none => simp
  | some o => simp [-Fault.IsOther, o.isOther_fault]

namespace Value

variable (a b value : Value)

theorem failsOnly_asIndex : FailsOnly Fault.IsOther value.asIndex := by
  cases value <;> simp [asIndex, Fault.kind]

theorem failsOnly_asRational : FailsOnly Fault.IsOther value.asRational := by
  cases value <;> simp [asRational, Fault.kind]

theorem failsOnly_doubleOf (q : Rat) : FailsOnly Fault.IsOther (doubleOf q) := by
  unfold doubleOf
  simp only
  split <;> simp [Fault.kind]

theorem failsOnly_asDouble : FailsOnly Fault.IsOther value.asDouble := by
  unfold asDouble
  split
  · simp
  · simp
  · exact value.failsOnly_asRational.bind fun q _ => failsOnly_doubleOf q

theorem failsOnly_asComplex : FailsOnly Fault.IsOther value.asComplex := by
  unfold asComplex
  split
  · simp
  · simp
  · exact value.failsOnly_asDouble.bind fun _ _ => by simp

theorem failsOnly_asDecimal : FailsOnly Fault.IsOther value.asDecimal := by
  cases value <;> simp [asDecimal, Fault.kind]

theorem failsOnly_inWidth (width : IntegerWidth) (n : Int) :
    FailsOnly Fault.IsOther (inWidth width n) := by
  unfold inWidth
  split <;> simp [Fault.kind]

section

variable (op : Operation)

theorem failsOnly_combineIntegers : FailsOnly Fault.IsOther (combineIntegers op a b) := by
  unfold combineIntegers
  split
  · simp
  · simp
  · simp
  · refine a.failsOnly_asIndex.bind fun m _ => b.failsOnly_asIndex.bind fun n _ => ?_
    split
    · simp
    · next width _ =>
      exact (failsOnly_inWidth width m).bind fun _ _ =>
        (failsOnly_inWidth width n).bind fun _ _ => by simp

theorem failsOnly_mapError {α : Type} (r : Except Decimal.Trap α) :
    FailsOnly Fault.IsOther (r.mapError Decimal.Trap.fault) := by
  cases r with
  | ok a => simp [Except.mapError]
  | error trap =>
    cases trap <;>
      simp [Except.mapError, Decimal.Trap.fault, Fault.kind]

theorem failsOnly_combinePlain : FailsOnly Fault.IsOther (combinePlain op a b) := by
  unfold combinePlain
  simp only
  split
  · exact a.failsOnly_asComplex.bind fun _ _ => b.failsOnly_asComplex.bind fun _ _ => by simp
  · split
    · exact a.failsOnly_asDecimal.bind fun _ _ => b.failsOnly_asDecimal.bind fun _ _ =>
        (failsOnly_mapError _).bind fun _ _ => by simp
    · split
      · exact a.failsOnly_asDouble.bind fun _ _ => b.failsOnly_asDouble.bind fun _ _ => by simp
      · split
        · exact a.failsOnly_asRational.bind fun _ _ => b.failsOnly_asRational.bind fun _ _ => by
            simp
        · exact failsOnly_combineIntegers a b op

theorem failsOnly_combine : FailsOnly Fault.IsOther (combine op a b) := by
  unfold combine
  split
  · exact failsOnly_combinePlain _ _ op
  · exact failsOnly_combinePlain a b op

end

theorem failsOnly_repetitions (parts : Nat) (isText : Bool) :
    FailsOnly Fault.IsOther (repetitions value parts isText) := by
  unfold repetitions
  split
  · simp [Fault.kind]
  · refine value.failsOnly_asIndex.bind fun n _ => ?_
    split
    · simp [Fault.kind]
    · split
      · simp [Fault.kind]
      · split <;> simp [Fault.kind]

theorem failsOnly_repeatItems (items : List Value) :
    FailsOnly Fault.IsOther (repeatItems items value) :=
  (value.failsOnly_repetitions _ _).bind fun _ _ => by simp

theorem failsOnly_repeated? {r : Except Fault Value} (given : repeated? a b = some r) :
    FailsOnly Fault.IsOther r := by
  unfold repeated? at given
  split at given
  · obtain rfl := Option.some.inj given
    exact (b.failsOnly_repetitions _ _).bind fun _ _ => by simp
  · obtain rfl := Option.some.inj given
    exact (b.failsOnly_repeatItems _).bind fun _ _ => by simp
  · obtain rfl := Option.some.inj given
    exact (b.failsOnly_repeatItems _).bind fun _ _ => by simp
  · simp at given

/-- **A product refuses nothing.** -/
theorem failsOnly_mul : FailsOnly Fault.IsOther (a.mul b) := by
  unfold mul
  split
  · next given => exact failsOnly_repeated? a b given
  · next given => exact failsOnly_repeated? b a given
  · exact failsOnly_combine a b _

/-- **A sum refuses nothing.** -/
theorem failsOnly_add : FailsOnly Fault.IsOther (a.add b) := by
  unfold add
  split
  · simp
  · simp [Fault.kind]
  · cases a.isMachine <;> simp [Fault.kind]
  · split
    · simp
    · simp
    · exact failsOnly_combine a b _

theorem failsOnly_total (values : List Value) : FailsOnly Fault.IsOther (total values) := by
  cases values with
  | nil => simp [total]
  | cons first rest => exact .foldlM (fun b x _ => failsOnly_add b x) first

theorem failsOnly_neg : FailsOnly Fault.IsOther value.neg := by
  cases value <;> simp [neg, Fault.kind]

theorem failsOnly_doublePart (x : Binary64) : FailsOnly Fault.IsOther (doublePart x) := by
  cases x <;> simp [doublePart, Fault.kind]

theorem failsOnly_realPart (x : MachineReal) : FailsOnly Fault.IsOther (realPart x) := by
  cases x <;> simp [realPart, Fault.kind]

theorem failsOnly_decimalPart (d : Decimal) : FailsOnly Fault.IsOther (decimalPart d) := by
  cases d <;> simp [decimalPart, Fault.kind]

/-- **Asking for the integer part of a value refuses nothing.** -/
theorem failsOnly_wholePart : FailsOnly Fault.IsOther value.wholePart := by
  unfold wholePart
  split
  · split <;> simp [Fault.kind]
  · cases value with
    | float x | machineFloat x | machineComplex x _ => exact failsOnly_doublePart x
    | machineReal type x => exact failsOnly_realPart x
    | decimal d => exact failsOnly_decimalPart d
    | _ => simp [Fault.kind]

/-- **Asking for the double nearest to a value refuses nothing.** -/
theorem failsOnly_asReal : FailsOnly Fault.IsOther value.asReal := by
  unfold asReal
  split
  · split <;> simp [Fault.kind]
  · split
    · split <;> simp [Fault.kind]
    · simp
    · exact value.failsOnly_asDouble

end Value

/-- One more product refuses nothing. -/
theorem Grid.failsOnly_addProduct (sum : Value) (factors : Value × Value) :
    FailsOnly Fault.IsOther (addProduct sum factors) :=
  (Value.failsOnly_mul _ _).bind fun product _ => sum.failsOnly_add product

end IntegerProgram
