import IntegerProgram.Document.Reader

/-!
# Words for the sense of an objective

A document may give the sense of its objective by one of six words, in letters of either case. A
member of another type than a text is taken by its text, and no such text is one of these words,
since it does not begin with an "m".

## Main definitions

* `Sense.words`: the words for a sense.

## Main statements

* `Document.exists_string_of_senseOf?`: no value but a text gives one.
-/
namespace IntegerProgram

/-- The words for a sense, in lower case. -/
def Sense.words : Sense → List String
  | minimize => ["min", "minimise", "minimize"]
  | maximize => ["max", "maximise", "maximize"]

/-- Whether a character may occur in the text of a number. -/
def IsNumeral (c : Char) : Prop :=
  c.isDigit = true ∨ c ∈ ['-', '+', '.', 'e', 'i', 'n', 'f', 'a']

instance : DecidablePred IsNumeral := fun c =>
  inferInstanceAs (Decidable (c.isDigit = true ∨ c ∈ ['-', '+', '.', 'e', 'i', 'n', 'f', 'a']))

/-- No such character becomes an "m" in lower case. -/
theorem IsNumeral.toLower_ne {c : Char} (numeral : IsNumeral c) : c.toLower ≠ 'm' := by
  rcases numeral with digit | sign
  · have same : c.toLower = c := by
      simp only [Char.isDigit, Bool.and_eq_true, decide_eq_true_eq] at digit
      refine dif_neg fun upper => ?_
      exact absurd (UInt32.le_trans upper.1 digit.2) (by decide)
    rw [same]
    rintro rfl
    exact absurd digit (by decide)
  · have apart : 'm' ∉ ['-', '+', '.', 'e', 'i', 'n', 'f', 'a'].map Char.toLower := by decide
    intro same
    exact apart (List.mem_map.2 ⟨c, sign, same⟩)

/-- The characters of a given text can be checked. -/
theorem isNumeral_of_all {cs : List Char} (checked : cs.all (IsNumeral ·) = true) :
    ∀ c ∈ cs, IsNumeral c :=
  fun c listed => of_decide_eq_true (List.all_eq_true.1 checked c listed)

theorem isNumeral_toDigits (n : Nat) : ∀ c ∈ Nat.toDigits 10 n, IsNumeral c :=
  fun _ listed => .inl (Nat.isDigit_of_mem_toDigits (by decide) (by decide) listed)

theorem isNumeral_toString (n : Int) : ∀ c ∈ (toString n).toList, IsNumeral c := by
  cases n with
  | ofNat n =>
    have digits : toString (Int.ofNat n) = String.ofList (Nat.toDigits 10 n) :=
      Nat.toString_eq_ofList_toDigits
    rw [digits, String.toList_ofList]
    exact isNumeral_toDigits n
  | negSucc n =>
    have digits : toString (Int.negSucc n) = "-" ++ String.ofList (Nat.toDigits 10 (n + 1)) :=
      congrArg ("-" ++ ·) Nat.toString_eq_ofList_toDigits
    rw [digits, String.toList_append, List.forall_mem_append]
    refine ⟨isNumeral_of_all rfl, ?_⟩
    rw [String.toList_ofList]
    exact isNumeral_toDigits _

namespace Binary64

theorem isNumeral_significantDigits (n : Nat) : ∀ c ∈ significantDigits n, IsNumeral c := by
  intro c listed
  rw [significantDigits, List.mem_reverse] at listed
  have digits := (List.dropWhile_sublist _).mem listed
  exact isNumeral_toDigits n c (List.mem_reverse.1 digits)

theorem isNumeral_replicate_zero (n : Nat) : ∀ c ∈ List.replicate n '0', IsNumeral c := by
  intro c listed
  rw [List.eq_of_mem_replicate listed]
  decide

theorem isNumeral_ite {p : Prop} {decided : Decidable p} {cs ds : List Char}
    (first : ∀ c ∈ cs, IsNumeral c) (second : ∀ c ∈ ds, IsNumeral c) :
    ∀ c ∈ (if p then cs else ds), IsNumeral c := by
  split
  · exact first
  · exact second

theorem isNumeral_scientific {digits : List Char} (numeral : ∀ c ∈ digits, IsNumeral c)
    (exponent : Int) : ∀ c ∈ scientific digits exponent, IsNumeral c := by
  simp only [scientific, List.forall_mem_append]
  refine ⟨⟨⟨?_, ?_⟩, isNumeral_replicate_zero _⟩, isNumeral_toDigits _⟩
  · split
    · exact numeral
    · exact numeral
    · rw [List.forall_mem_cons] at numeral
      exact List.forall_mem_cons.2 ⟨numeral.1, List.forall_mem_cons.2 ⟨by decide, numeral.2⟩⟩
  · split <;> exact isNumeral_of_all rfl

theorem isNumeral_positional {digits : List Char} (numeral : ∀ c ∈ digits, IsNumeral c)
    (exponent : Int) : ∀ c ∈ positional digits exponent, IsNumeral c := by
  have padded (n : Nat) : ∀ c ∈ digits ++ List.replicate n '0', IsNumeral c :=
    List.forall_mem_append.2 ⟨numeral, isNumeral_replicate_zero n⟩
  unfold positional
  split
  · refine List.forall_mem_append.2 ⟨?_, numeral⟩
    refine List.forall_mem_cons.2 ⟨by decide, List.forall_mem_cons.2 ⟨by decide, ?_⟩⟩
    exact isNumeral_replicate_zero _
  · refine List.forall_mem_append.2 ⟨fun c listed => padded _ c (List.mem_of_mem_take listed), ?_⟩
    refine List.forall_mem_cons.2 ⟨by decide, isNumeral_ite (isNumeral_of_all rfl) ?_⟩
    exact fun c listed => numeral c (List.mem_of_mem_drop listed)

theorem isNumeral_text (x : Binary64) : ∀ c ∈ x.text.toList, IsNumeral c := by
  cases x with
  | notANumber object =>
    have written : (notANumber object).text = "nan" := rfl
    rw [written]
    exact isNumeral_of_all rfl
  | infinite negative => cases negative <;> exact isNumeral_of_all rfl
  | finite negative m e =>
    have digits := isNumeral_significantDigits (shortestDecimal m e).1
    rw [text, String.toList_ofList]
    have signed {cs : List Char} (numeral : ∀ c ∈ cs, IsNumeral c) :
        ∀ c ∈ (if negative then '-' :: cs else cs), IsNumeral c :=
      isNumeral_ite (List.forall_mem_cons.2 ⟨by decide, numeral⟩) numeral
    refine signed (isNumeral_ite (isNumeral_of_all rfl) ?_)
    exact isNumeral_ite (isNumeral_positional digits _) (isNumeral_scientific digits _)

end Binary64

namespace Document

variable {word text : String} {sense : Sense}

theorem senseOf?_eq_some : senseOf? word = some sense ↔ word ∈ sense.words := by
  have apart : ∀ word ∈ Sense.maximize.words, word ∉ Sense.minimize.words := by decide
  have most : ["max", "maximise", "maximize"].contains word = true ↔
      word ∈ Sense.maximize.words := by
    rw [List.contains_iff_mem]
    rfl
  have least : ["min", "minimise", "minimize"].contains word = true ↔
      word ∈ Sense.minimize.words := by
    rw [List.contains_iff_mem]
    rfl
  by_cases high : word ∈ Sense.maximize.words
  · rw [senseOf?, if_pos (most.2 high)]
    cases sense <;> simp [high, apart word high]
  · by_cases low : word ∈ Sense.minimize.words
    · rw [senseOf?, if_neg (mt most.1 high), if_pos (least.2 low)]
      cases sense <;> simp [high, low]
    · rw [senseOf?, if_neg (mt most.1 high), if_neg (mt least.1 low)]
      cases sense <;> simp [high, low]

/-- A text for a sense begins with an "m", in one case or the other. -/
theorem head?_of_senseOf? (known : senseOf? text.toLower = some sense) :
    ∃ c, text.toList.head? = some c ∧ c.toLower = 'm' := by
  have first : ∀ word ∈ sense.words, word.toList.head? = some 'm' := by
    cases sense <;> decide
  have mapped : text.toLower = text.map Char.toLower := rfl
  have lower := first _ (senseOf?_eq_some.1 known)
  rw [mapped, String.toList_map, List.head?_map, Option.map_eq_some_iff] at lower
  exact lower

theorem head?_append {s t : String} {c : Char} (first : s.toList.head? = some c) :
    (s ++ t).toList.head? = some c := by
  rw [String.toList_append, List.head?_append, first, Option.some_or]

/-- **No value but a text gives a sense by its text.** -/
theorem exists_string_of_senseOf? {j : Json}
    (known : senseOf? j.toValue.shown.toLower = some sense) :
    ∃ word, j = .string word := by
  obtain ⟨c, first, lower⟩ := head?_of_senseOf? known
  have number (digits : ∀ c ∈ j.toValue.shown.toList, IsNumeral c) : False :=
    (digits c (List.mem_of_head? first)).toLower_ne lower
  cases j with
  | string word => exact ⟨word, rfl⟩
  | int n => exact (number (isNumeral_toString n)).elim
  | real x => exact (number (Binary64.isNumeral_text x)).elim
  | null =>
    obtain rfl : 'N' = c := Option.some.inj first
    exact absurd lower (by decide)
  | bool b =>
    cases b with
    | true =>
      obtain rfl : 'T' = c := Option.some.inj first
      exact absurd lower (by decide)
    | false =>
      obtain rfl : 'F' = c := Option.some.inj first
      exact absurd lower (by decide)
  | array items =>
    have opened : (Json.array items).toValue.shown =
        "[" ++ ", ".intercalate (Value.literals (Json.toValues items)) ++ "]" := rfl
    rw [opened, String.append_assoc,
      head?_append (by decide : "[".toList.head? = some '[')] at first
    obtain rfl := Option.some.inj first
    exact absurd lower (by decide)
  | object members =>
    have opened : (Json.object members).toValue.shown =
        "\x7b" ++ ", ".intercalate (Value.entryLiterals (Json.toEntries members)) ++ "\x7d" := rfl
    rw [opened, String.append_assoc,
      head?_append (by decide : "\x7b".toList.head? = some '\x7b')] at first
    obtain rfl := Option.some.inj first
    exact absurd lower (by decide)

end Document

end IntegerProgram
