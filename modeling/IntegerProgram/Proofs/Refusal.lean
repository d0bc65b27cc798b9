import IntegerProgram.Proofs.Answer
import IntegerProgram.Proofs.Fault

/-!
# What engines refuse

An engine whose package is installed refuses nothing of a well-formed model but a multiple that is
too large to relax a row by, whatever its settings are and whatever its solver answers. What it
makes of an answer with a point has an integer for every variable.

## Main definitions

* `Fault.IsLimit`: that a multiple is too large.

## Main statements

* `Backend.failsOnly_engineWith`: the faults of an engine.
* `Backend.exists_isAt_of_engineWith`: the values of an outcome with a point.
-/
namespace IntegerProgram

/-- Whether a fault tells that a multiple is too large to relax a row by. -/
def Fault.IsLimit (fault : Fault) : Prop := ∃ sum rhs bound limit, fault = .bigM sum rhs bound limit

/-- What is raised in the place of another fault is no such one either. -/
theorem Fault.not_isLimit_raised {f : Fault} (other : ¬f.IsLimit) : ¬f.raised.IsLimit :=
  of_raised (P := fun fault => ¬fault.IsLimit) other fun o => by
    cases o <;> simp [Obstacle.fault, IsLimit]

/-- Whether a fault is one of the program of rows: no refusal but that of a multiple. -/
def Fault.IsOfRows (fault : Fault) : Prop := fault.IsOther ∨ fault.IsLimit

theorem FailsOnly.ofRows {α : Type} {r : Except Fault α} (F : FailsOnly Fault.IsOther r) :
    FailsOnly Fault.IsOfRows r :=
  F.mono fun _ => .inl

variable {m : Model} {c : Config} {o : Outcome}

/-- Entries with integers for variables give each variable an integer. -/
theorem Valuation.exists_isAt_ofEntries {vs : List Variable} {entries : List (Int × Value)}
    (integers : List.Forall₂ (fun v e => ∃ n, e = (v.index, .int n)) vs entries) :
    ∃ x, (ofEntries entries).IsAt x vs := by
  refine ⟨fun i => ((ofEntries entries i).map Value.whole).getD 0, fun v hv => ?_⟩
  obtain ⟨e, he, n, rfl⟩ := exists_mem_of_forall₂ integers v hv
  have integer : ∀ e ∈ entries, ∃ n, e.2 = .int n := by
    intro e he
    obtain ⟨w, -, n, rfl⟩ := exists_mem_of_forall₂ integers.flip e he
    exact ⟨n, rfl⟩
  cases found : entries.reverse.find? fun e : Int × Value => e.1 = v.index with
  | none =>
    rw [List.find?_eq_none] at found
    simpa using found _ (List.mem_reverse.2 he)
  | some e' =>
    obtain ⟨k, same⟩ := integer e' (List.mem_reverse.1 (List.mem_of_find?_eq_some found))
    simp [ofEntries, found, same]

namespace GatedProgram

theorem failsOnly_parameters (c : Config) : FailsOnly Fault.IsOther (parameters c) := by
  have others (limit : List (String × Value)) : FailsOnly Fault.IsOther (do
      let workers ← c.workers.wholePart
      let seed ← c.seed.wholePart
      return limit ++ [("num_workers", .int workers), ("random_seed", .int seed),
        ("log_search_progress", .bool c.logSearch.isTrue)]) :=
    c.workers.failsOnly_wholePart.bind fun _ _ => c.seed.failsOnly_wholePart.bind fun _ _ => by simp
  unfold parameters
  simp only
  split
  · exact others []
  · exact (Value.failsOnly_asReal _).bind fun _ _ => others _

theorem failsOnly_entry (a : Answer) (m : Model) (v : Variable) :
    FailsOnly Fault.IsOther (a.entry m v) := by
  unfold Answer.entry
  refine .bind ?_ fun value _ => value.failsOnly_wholePart.bind fun _ _ => by simp
  unfold Answer.valueAt
  split <;> simp [Fault.kind]

/-- Reading an answer to a gated program refuses nothing. -/
theorem failsOnly_outcome (a : Answer) (m : Model) (c : Config) :
    FailsOnly Fault.IsOther (a.outcome m c) := by
  unfold Answer.outcome
  simp only
  split
  · exact (FailsOnly.mapM fun v _ => failsOnly_entry a m v).bind fun _ _ => by simp
  · simp

/-- What is made of an answer with a point has an integer for every variable. -/
theorem exists_isAt_of_outcome {a : Answer} (read : a.outcome m c = .ok o)
    (point : o.status.hasPoint = true) : ∃ x, o.values.IsAt x m.vars := by
  unfold Answer.outcome at read
  simp only at read
  split at read
  · obtain ⟨entries, listed, same⟩ := bind_eq_ok.1 read
    obtain rfl := Except.ok.inj same
    refine Valuation.exists_isAt_ofEntries ((mapM_eq_ok.1 listed).imp fun v e entered => ?_)
    obtain ⟨value, -, entered⟩ := bind_eq_ok.1 entered
    obtain ⟨n, -, same⟩ := bind_eq_ok.1 entered
    exact ⟨n, (Except.ok.inj same).symm⟩
  · next none =>
    obtain rfl := Except.ok.inj read
    exact absurd point none

end GatedProgram

namespace RowProgram

theorem failsOnly_held (n : Int) : FailsOnly Fault.IsOther (held n) := by
  unfold held
  split <;> simp [Fault.kind]

theorem failsOnly_requireFinite (number : Value) :
    FailsOnly Fault.IsOther (requireFinite number) := by
  have finite : FailsOnly Fault.IsOther
      (do unless (← number.asReal).isFinite do throw (.notFinite number) : Except Fault Unit) := by
    refine number.failsOnly_asReal.bind fun x _ => ?_
    split <;> simp [Fault.kind]
  unfold requireFinite
  split
  · simp [Fault.kind]
  · exact finite

theorem failsOnly_columnsOf (f : LinearForm) : FailsOnly Fault.IsOther (columnsOf f) := by
  cases f with
  | whole s =>
    exact (FailsOnly.forM fun t _ => (failsOnly_held t.2).bind fun _ _ => by simp).bind
      fun _ _ => by simp
  | mixed terms =>
    refine (FailsOnly.mapM fun t _ => .bind ?_ fun _ _ => by simp).bind fun _ _ => by simp
    refine (failsOnly_requireFinite t.2).bind fun _ _ => ?_
    split
    · simp
    · split
      · simp [Fault.kind]
      · exact ((Value.int 1).failsOnly_mul _).bind fun _ _ => by simp

theorem failsOnly_negateColumns (terms : List (Column × Value)) :
    FailsOnly Fault.IsOfRows (negateColumns terms) :=
  .mapM fun t _ => t.2.failsOnly_neg.ofRows.bind fun _ _ => by simp

section

variable (p : RowProgram) (s : WeightedSum) (k : Int) (relax : Option AffineForm)

theorem failsOnly_relaxed (terms : List (Column × Value)) (rhs bound : Int) (r : AffineForm) :
    FailsOnly Fault.IsOfRows (relaxed held p (.whole s) k terms rhs bound r) := by
  unfold relaxed
  split
  · simp
  · split
    · refine (Obstacle.failsOnly_requireNone _).ofRows.bind fun _ _ => ?_
      rw [FailsOnly.throw_iff]
      exact Fault.of_raised (.inr ⟨_, _, _, _, rfl⟩) fun o => .inl o.isOther_fault
    · exact (failsOnly_held _).ofRows.bind fun _ _ =>
        (failsOnly_held _).ofRows.bind fun _ _ => by simp

theorem failsOnly_atMost : FailsOnly Fault.IsOfRows (atMost held p (.whole s) k relax) := by
  refine (failsOnly_columnsOf (.whole s)).ofRows.bind fun terms _ => ?_
  cases relax with
  | none => exact (failsOnly_held k).ofRows.bind fun _ _ => by simp
  | some r => exact failsOnly_relaxed p s k _ _ _ r

theorem failsOnly_atLeast : FailsOnly Fault.IsOfRows (atLeast held p (.whole s) k relax) := by
  refine (failsOnly_columnsOf (.whole s)).ofRows.bind fun terms _ => ?_
  cases relax with
  | none => exact (failsOnly_held k).ofRows.bind fun _ _ => by simp
  | some r =>
    exact (failsOnly_negateColumns terms).bind fun _ _ => failsOnly_relaxed p s k _ _ _ r

theorem failsOnly_equal : FailsOnly Fault.IsOfRows (equal held p (.whole s) k relax) := by
  cases relax with
  | none =>
    exact (failsOnly_columnsOf _).ofRows.bind fun _ _ =>
      (failsOnly_held k).ofRows.bind fun _ _ => by simp
  | some r => exact (failsOnly_atMost p s k _).bind fun q _ => failsOnly_atLeast q s k _

theorem failsOnly_different : FailsOnly Fault.IsOfRows (different held p (.whole s) k relax) := by
  unfold different
  simp only [LinearForm.bounds, pure_bind]
  split
  · exact (failsOnly_atMost _ s _ _).bind fun q _ => failsOnly_atLeast q s _ _
  · simp

theorem failsOnly_compare (op : Comparison) :
    FailsOnly Fault.IsOfRows (compare held p (.whole s) op k relax) := by
  cases op with
  | lt | le => exact failsOnly_atMost p s _ relax
  | gt | ge => exact failsOnly_atLeast p s _ relax
  | eq => exact failsOnly_equal p s k relax
  | ne => exact failsOnly_different p s k relax

end

theorem failsOnly_add (p : RowProgram) {con : Constraint} {vs : List Variable} (C : con.IsOver vs) :
    FailsOnly Fault.IsOfRows (add held p con) := by
  obtain ⟨⟨terms⟩, whole, -⟩ := C.whole
  obtain ⟨op, known⟩ := C.known
  unfold add
  rw [whole, known]
  cases terms with
  | nil =>
    have decided : (Operator.known op).holds (.whole ⟨[]⟩) con.rhs (fun _ => none) =
        .ok (op.holds 0 con.rhs) := rfl
    simp only [LinearForm.terms, List.map_nil, decided, ok_bind]
    split <;> simp
  | cons t rest => exact failsOnly_compare p ⟨t :: rest⟩ _ _ op

/-- The program of rows of a well-formed model is refused for a multiple only. -/
theorem failsOnly_ofModel (H : m.IsWellFormed)
    (integral : ∀ o, m.objective = some o → ∃ s : WeightedSum, o.sum = .whole s) :
    FailsOnly Fault.IsOfRows (ofModel m) := by
  unfold ofModel
  refine (FailsOnly.forM fun v hv => ?_).bind fun _ _ => ?_
  · rw [requireHeldBounds, H.declared v hv]
    exact (failsOnly_held _).ofRows.bind fun _ _ =>
      (failsOnly_held _).ofRows.bind fun _ _ => by simp
  refine (FailsOnly.foldlM (fun p con hc => failsOnly_add p (H.constraints con hc)) {}).bind
    fun p _ => ?_
  cases posed : m.objective with
  | none => simp
  | some o =>
    obtain ⟨s, whole⟩ := integral o posed
    refine .bind ?_ fun _ _ => by simp
    rw [Option.mapM_some, whole]
    exact (failsOnly_columnsOf _).ofRows.map _

theorem failsOnly_options (c : Config) : FailsOnly Fault.IsOther (options c) := by
  unfold options
  refine c.workers.failsOnly_wholePart.bind fun _ _ => ?_
  simp only
  split
  · simp
  · exact (Value.failsOnly_asReal _).bind fun _ _ => by simp

theorem failsOnly_nearest (value : Value) : FailsOnly Fault.IsOther (nearest value) := by
  unfold nearest
  split
  · split
    · simp
    · exact Value.failsOnly_doublePart _
  · exact Value.failsOnly_wholePart _
  · exact Value.failsOnly_wholePart _
  · simp [Fault.kind]

theorem failsOnly_objective (a : Answer) (p : RowProgram) :
    FailsOnly Fault.IsOther (a.objective p) := by
  unfold Answer.objective
  refine .bind ?_ fun terms _ => ?_
  · exact .mapM fun _ _ => (Value.failsOnly_total _).bind fun _ _ => by simp
  · simp only
    split
    · simp
    · simp
    · exact .foldlM (fun sum factors _ => Grid.failsOnly_addProduct sum factors) _

theorem failsOnly_entry (H : m.IsWellFormed) (a : Answer) (p : RowProgram) {v : Variable}
    (hv : v ∈ m.vars) : FailsOnly Fault.IsOther (a.entry p m v) := by
  unfold Answer.entry
  split
  · refine .bind ?_ fun _ _ => by simp
    unfold readValue
    split
    · simp [defaultValue_eq_ok (H.declared v hv)]
    · exact (failsOnly_nearest _).bind fun _ _ => by simp
  · simp [Fault.kind]

/-- What is read for a variable is an integer. -/
theorem eq_int_of_readValue {v : Variable} (plain : v.declared = none) {given : Option Value}
    {value : Value} (read : readValue v given = .ok value) : ∃ n, value = .int n := by
  cases given with
  | none =>
    rw [readValue, defaultValue_eq_ok plain] at read
    exact ⟨_, (Except.ok.inj read).symm⟩
  | some _ =>
    obtain ⟨n, -, same⟩ := bind_eq_ok.1 read
    exact ⟨n, (Except.ok.inj same).symm⟩

/-- Reading an answer to a program of rows refuses nothing. -/
theorem failsOnly_outcome (H : m.IsWellFormed) (a : Answer) (p : RowProgram) (c : Config) :
    FailsOnly Fault.IsOther (a.outcome p m c) := by
  unfold Answer.outcome
  generalize (if p.impossible then Status.infeasible else statusOf a.code) = status
  simp only
  split
  · exact (FailsOnly.mapM fun v hv => failsOnly_entry H a p hv).bind fun _ _ =>
      (failsOnly_objective a p).bind fun _ _ => by simp
  · simp

/-- What is made of an answer with a point has an integer for every variable. -/
theorem exists_isAt_of_outcome (H : m.IsWellFormed) {a : Answer} {p : RowProgram}
    (read : a.outcome p m c = .ok o) (point : o.status.hasPoint = true) :
    ∃ x, o.values.IsAt x m.vars := by
  unfold Answer.outcome at read
  generalize (if p.impossible then Status.infeasible else statusOf a.code) = status at read
  simp only at read
  split at read
  · obtain ⟨entries, listed, read⟩ := bind_eq_ok.1 read
    obtain ⟨objective, -, same⟩ := bind_eq_ok.1 read
    obtain rfl := Except.ok.inj same
    have owned := (List.forall₂_and_left _ _).2 ⟨fun v hv => hv, mapM_eq_ok.1 listed⟩
    refine Valuation.exists_isAt_ofEntries (owned.imp fun v e ⟨hv, entered⟩ => ?_)
    rw [Answer.entry, H.variableAt?_index hv] at entered
    obtain ⟨value, read, same⟩ := bind_eq_ok.1 entered
    obtain ⟨n, rfl⟩ := eq_int_of_readValue (H.declared v hv) read
    exact ⟨n, (Except.ok.inj same).symm⟩
  · next none =>
    obtain rfl := Except.ok.inj read
    exact absurd point none

end RowProgram

theorem LinearForm.failsOnly_asSum (f : LinearForm) : FailsOnly Fault.IsOther f.asSum := by
  cases f with
  | whole s => simp [asSum]
  | mixed terms =>
    refine .bind (.mapM fun t _ => ?_) fun _ _ => by simp
    split <;> simp [Fault.kind]

theorem Model.failsOnly_requireWhole (m : Model) : FailsOnly Fault.IsOther m.requireWhole := by
  refine (FailsOnly.forM fun con _ => ?_).bind fun _ _ => ?_
  · exact con.sum.failsOnly_asSum.bind fun _ _ => by simp
  · cases m.objective with
    | none => simp
    | some o => exact o.sum.failsOnly_asSum.bind fun _ _ => by simp

namespace Backend

/-- **An engine refuses a multiple only**, and only one for programs of rows does so. -/
theorem failsOnly_engineWith (H : m.IsWellFormed)
    (integral : ∀ o, m.objective = some o → ∃ s : WeightedSum, o.sum = .whole s) (s : Solver)
    (b : Backend) (c : Config) :
    FailsOnly (fun fault => fault.IsOther ∨ fault.IsLimit ∧ b = .bigM) (b.engineWith s m c) := by
  refine .bind ?_ fun _ _ => by simp
  cases b with
  | gated =>
    obtain ⟨p, made, -⟩ := GatedProgram.exists_ofModel H
    have F : FailsOnly Fault.IsOther (runGated s m c) := by
      rw [runGated, made]
      exact m.failsOnly_requireWhole.bind fun _ _ =>
        (GatedProgram.failsOnly_parameters c).bind fun _ _ =>
          (GatedProgram.failsOnly_outcome _ m c).bind fun _ _ => by simp
    exact F.mono fun _ => .inl
  | bigM =>
    have F : FailsOnly Fault.IsOfRows (runBigM s m c) :=
      (RowProgram.failsOnly_ofModel H integral).bind fun p _ =>
        m.failsOnly_requireWhole.ofRows.bind fun _ _ =>
          (RowProgram.failsOnly_options c).ofRows.bind fun _ _ =>
            (RowProgram.failsOnly_outcome H _ p c).ofRows.bind fun _ _ => by simp
    exact F.mono fun _ given => given.imp id fun limit => ⟨limit, rfl⟩

/-- **An outcome with a point has an integer for every variable.** -/
theorem exists_isAt_of_engineWith (H : m.IsWellFormed) {s : Solver} {b : Backend}
    (answered : b.engineWith s m c = .ok o) (point : o.status.hasPoint = true) :
    ∃ x, o.values.IsAt x m.vars := by
  obtain ⟨run, ran, same⟩ := bind_eq_ok.1 answered
  obtain rfl := Except.ok.inj same
  cases b with
  | gated =>
    obtain ⟨p, -, ran⟩ := bind_eq_ok.1 ran
    obtain ⟨-, -, ran⟩ := bind_eq_ok.1 ran
    obtain ⟨-, -, ran⟩ := bind_eq_ok.1 ran
    obtain ⟨o, read, same⟩ := bind_eq_ok.1 ran
    obtain rfl := Except.ok.inj same
    exact GatedProgram.exists_isAt_of_outcome read point
  | bigM =>
    obtain ⟨p, -, ran⟩ := bind_eq_ok.1 ran
    obtain ⟨-, -, ran⟩ := bind_eq_ok.1 ran
    obtain ⟨-, -, ran⟩ := bind_eq_ok.1 ran
    obtain ⟨o, read, same⟩ := bind_eq_ok.1 ran
    obtain rfl := Except.ok.inj same
    exact RowProgram.exists_isAt_of_outcome H read point

end Backend

end IntegerProgram
