import IntegerProgram.Report.Json
import Mathlib.Data.List.Induction
import Mathlib.Data.List.Nodup
import Mathlib.Data.List.Perm.Subperm

/-!
# Values of written reports

A report is written with its values under the texts of their keys. Of the values whose keys have one
text only the last is written, so a report is written without loss just if no two of its keys have
the same text.

## Main definitions

* `Report.collected`: values under the texts of their keys.
* `Report.Writes`: whether a written report has a value under a name.
* `Report.LosesNothing`: whether all of its values are written.

## Main statements

* `Report.mem_collected`: of the values under one text, the last is written.
* `Report.losesNothing_iff`: nothing is lost just if all texts differ.
-/
namespace IntegerProgram.Report

variable {entries : List (String × Value)} {e e' : String × Value} {key : String} {value : Value}

/-- An entry that is put is there, and the others are kept unless they have its name. -/
theorem mem_put : e ∈ put entries key value ↔ e = (key, value) ∨ e ∈ entries ∧ e.1 ≠ key := by
  unfold put
  split
  · next taken =>
    simp only [List.any_eq_true, decide_eq_true_eq] at taken
    obtain ⟨old, listed, named⟩ := taken
    rw [List.mem_map]
    constructor
    · rintro ⟨other, there, rfl⟩
      by_cases same : other.1 = key
      · simp [same]
      · simp [same, there]
    · rintro (rfl | ⟨there, other⟩)
      · exact ⟨old, listed, by simp [named]⟩
      · exact ⟨e, there, by simp [other]⟩
  · next free =>
    simp only [List.any_eq_true, decide_eq_true_eq, not_exists, not_and] at free
    have others (there : e ∈ entries) : e.1 ≠ key := free e there
    rw [List.mem_append, List.mem_singleton]
    tauto

/-- An entry with a new name is added at the end. -/
theorem put_of_new (new : key ∉ entries.map (·.1)) :
    put entries key value = entries ++ [(key, value)] := by
  refine if_neg fun taken => new ?_
  simpa using taken

/-- The names of the entries after one is put. -/
theorem map_fst_put : (put entries key value).map (·.1) =
    if key ∈ entries.map (·.1) then entries.map (·.1) else entries.map (·.1) ++ [key] := by
  split
  · next taken =>
    have replaced : (entries.any fun e => e.1 = key) = true := by simpa using taken
    rw [put, if_pos replaced, List.map_map]
    refine List.map_congr_left fun e _ => ?_
    by_cases same : e.1 = key <;> simp [same]
  · next new => simp [put_of_new new]

/-- Values under the texts of their keys. -/
def collected (values : List (Value × Value)) (text : Value → String) : List (String × Value) :=
  values.foldl (fun entries e => put entries (text e.1) e.2) []

variable {values : List (Value × Value)} {text : Value → String}

theorem collected_snoc (e : Value × Value) :
    collected (values ++ [e]) text = put (collected values text) (text e.1) e.2 := by
  simp [collected]

/-- No two values are collected under one name. -/
theorem nodup_collected (values : List (Value × Value)) (text : Value → String) :
    ((collected values text).map (·.1)).Nodup := by
  induction values using List.reverseRecOn with
  | nil => exact List.nodup_nil
  | append_singleton values e ih =>
    rw [collected_snoc, map_fst_put]
    split
    · exact ih
    · next new =>
      rw [List.nodup_append]
      refine ⟨ih, List.nodup_singleton _, fun name there other added same => new ?_⟩
      rwa [← List.mem_singleton.1 added, ← same]

/-- **Of the values under one text, the last is written.** -/
theorem mem_collected : e ∈ collected values text ↔
    ∃ before key value after, values = before ++ (key, value) :: after ∧
      e = (text key, value) ∧ ∀ later ∈ after, text later.1 ≠ text key := by
  induction values using List.reverseRecOn with
  | nil => simp [collected]
  | append_singleton values last ih =>
    rw [collected_snoc, mem_put, ih]
    constructor
    · rintro (rfl | ⟨⟨before, key, value, after, rfl, rfl, latest⟩, other⟩)
      · exact ⟨values, last.1, last.2, [], rfl, rfl, by simp⟩
      · refine ⟨before, key, value, after ++ [last], by simp, rfl, ?_⟩
        exact List.forall_mem_append.2 ⟨latest, by simpa using other.symm⟩
    · rintro ⟨before, key, value, after, all, rfl, latest⟩
      rcases List.eq_nil_or_concat after with rfl | ⟨after, final, rfl⟩
      · obtain ⟨-, same⟩ := List.append_inj' all rfl
        obtain rfl := List.singleton_inj.1 same
        exact .inl rfl
      · rw [List.concat_eq_append] at all latest
        have all : values ++ [last] = (before ++ (key, value) :: after) ++ [final] := by
          simpa using all
        obtain ⟨rfl, same⟩ := List.append_inj' all rfl
        obtain rfl := List.singleton_inj.1 same
        obtain ⟨latest, other⟩ := List.forall_mem_append.1 latest
        exact .inr ⟨⟨before, key, value, after, rfl, rfl, latest⟩, (other last (by simp)).symm⟩

/-- Values whose keys have different texts are all collected. -/
theorem collected_eq_map (distinct : (values.map fun e => text e.1).Nodup) :
    collected values text = values.map fun e => (text e.1, e.2) := by
  induction values using List.reverseRecOn with
  | nil => rfl
  | append_singleton values e ih =>
    rw [List.map_append, List.nodup_append] at distinct
    obtain ⟨distinct, -, new⟩ := distinct
    have free : text e.1 ∉ (collected values text).map (·.1) := by
      rw [ih distinct, List.map_map]
      exact fun there => new _ there _ (by simp) rfl
    rw [collected_snoc, put_of_new free, ih distinct, List.map_append, List.map_singleton]

variable {r : Report} {name : String}

/-- The values of a written report. -/
theorem member?_toJson (r : Report) (text : Value → String) :
    (r.toJson text).member? "values" =
      some (.object ((collected r.values text).map fun e => (e.1, .ofValue e.2))) := rfl

/-- Whether a report is written with a value under a name. -/
def Writes (r : Report) (text : Value → String) (name : String) (value : Value) : Prop :=
  ∃ members, (r.toJson text).member? "values" = some (.object members) ∧
    (name, .ofValue value) ∈ members

/-- Whether a report is written with all of its values: each of them is a member, under the text of
its key, and no two are one member. -/
def LosesNothing (r : Report) (text : Value → String) : Prop :=
  ∃ members, (r.toJson text).member? "values" = some (.object members) ∧
    (members.map (·.1)).Nodup ∧ members.length = r.values.length ∧
    ∀ e ∈ r.values, (text e.1, .ofValue e.2) ∈ members

/-- The last of the values under one text is written. -/
theorem writes_of_latest {before after : List (Value × Value)} {key value : Value}
    (all : r.values = before ++ (key, value) :: after)
    (latest : ∀ later ∈ after, text later.1 ≠ text key) : r.Writes text (text key) value := by
  refine ⟨_, r.member?_toJson text, List.mem_map.2 ⟨(text key, value), ?_, rfl⟩⟩
  exact mem_collected.2 ⟨before, key, value, after, all, rfl, latest⟩

/-- **A report is written without loss just if no two of its keys have the same text.** -/
theorem losesNothing_iff : r.LosesNothing text ↔ (r.values.map fun e => text e.1).Nodup := by
  constructor
  · rintro ⟨members, written, -, count, -⟩
    rw [member?_toJson] at written
    obtain rfl := Json.object.inj (Option.some.inj written)
    have distinct := nodup_collected r.values text
    have texts : (collected r.values text).map (·.1) ⊆ r.values.map fun e => text e.1 := by
      intro name named
      obtain ⟨e, listed, rfl⟩ := List.mem_map.1 named
      obtain ⟨before, key, value, after, all, rfl, -⟩ := mem_collected.1 listed
      simp [all]
    -- there are as many names as keys, so the texts are these names in some order
    have reordered := (List.subperm_of_subset distinct texts).perm_of_length_le
      (by simpa using Nat.le_of_eq count.symm)
    exact reordered.nodup_iff.1 distinct
  · intro distinct
    have all := collected_eq_map distinct
    refine ⟨_, r.member?_toJson text, ?_, ?_, fun e listed => ?_⟩
    · rw [all, List.map_map, List.map_map]
      exact distinct
    · simp [all]
    · rw [all, List.map_map]
      exact List.mem_map.2 ⟨e, listed, rfl⟩

end IntegerProgram.Report
