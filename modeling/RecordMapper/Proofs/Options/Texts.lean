import RecordMapper.Options
import RecordMapper.Proofs.Steps
import RecordMapper.Proofs.Text.Trim

/-!
# Texts of pairs

The text of a pair has its key before the first equals sign and its value behind it, with blanks
around both that do not count. Every text with an equals sign and a key that is not blank is the
text of a pair (`parseKeyValue_eq_ok_iff`), and every other text is refused
(`parseKeyValue_eq_error_iff`). Of a list of texts, the first one that is refused is blamed
(`mapM_parseKeyValue_eq_error_iff`).
-/

namespace RecordMapper

open RecordMapper.Text

/-- The text of a pair: the key before the first equals sign, which is not blank, and the value. -/
def Tells (text : String) (pair : String × String) : Prop :=
  ∃ key value, text = key ++ "=" ++ value ∧ '=' ∉ key.toList ∧ isBlankText key = false ∧
    pair = (trim key, trim value)

variable {text key value : String} {pair other : String × String} {fault : OptionFault}

/-- A text with an equals sign is split at the first one. -/
theorem parseKeyValue_append (noSign : '=' ∉ key.toList) :
    parseKeyValue (key ++ "=" ++ value) =
      if isBlankText key then .error (.malformed (key ++ "=" ++ value))
      else .ok (trim key, trim value) := by
  have before : ∀ c ∈ key.toList, decide (c ≠ '=') = true := by
    intro c member
    apply decide_eq_true
    rintro rfl
    exact noSign member
  have spelled : (key ++ "=" ++ value).toList = key.toList ++ '=' :: value.toList := by
    simp
  have front : (key ++ "=" ++ value).toList.takeWhile (· ≠ '=') = key.toList := by
    rw [spelled, List.takeWhile_append_of_pos before]
    simp
  have back : (key ++ "=" ++ value).toList.dropWhile (· ≠ '=') = '=' :: value.toList := by
    rw [spelled, List.dropWhile_append_of_pos before]
    simp
  simp only [parseKeyValue, front, back, String.ofList_toList]
  by_cases blank : isBlankText key = true
  · simp [blank, trim_eq_empty_iff.mpr blank]
  · simp [blank, mt trim_eq_empty_iff.mp blank]

theorem parseKeyValue_of_not_mem (noSign : '=' ∉ text.toList) :
    parseKeyValue text = .error (.malformed text) := by
  have noRest : text.toList.dropWhile (· ≠ '=') = [] := by
    apply List.dropWhile_eq_nil_iff.mpr
    intro c member
    apply decide_eq_true
    rintro rfl
    exact noSign member
  simp only [parseKeyValue, noRest]

/-- A text with an equals sign has a first one. -/
theorem exists_first_sign (sign : '=' ∈ text.toList) :
    ∃ key value, text = key ++ "=" ++ value ∧ '=' ∉ key.toList := by
  obtain ⟨key, value, spelled, noSign⟩ := List.eq_append_cons_of_mem sign
  refine ⟨String.ofList key, String.ofList value, ?_, by simpa using noSign⟩
  apply String.toList_inj.mp
  simp [spelled]

theorem parseKeyValue_eq_ok_iff : parseKeyValue text = .ok pair ↔ Tells text pair := by
  constructor
  · intro read
    by_cases sign : '=' ∈ text.toList
    · obtain ⟨key, value, rfl, noSign⟩ := exists_first_sign sign
      rw [parseKeyValue_append noSign] at read
      cases blank : isBlankText key with
      | true => simp [blank] at read
      | false =>
          rw [blank, if_neg Bool.false_ne_true, Except.ok.injEq] at read
          exact ⟨key, value, rfl, noSign, blank, read.symm⟩
    · rw [parseKeyValue_of_not_mem sign] at read
      cases read
  · rintro ⟨key, value, rfl, noSign, visible, rfl⟩
    rw [parseKeyValue_append noSign, visible, if_neg Bool.false_ne_true]

theorem parseKeyValue_eq_error_iff :
    parseKeyValue text = .error fault ↔ (¬∃ pair, Tells text pair) ∧ .malformed text = fault := by
  simp only [← parseKeyValue_eq_ok_iff]
  by_cases sign : '=' ∈ text.toList
  · obtain ⟨key, value, rfl, noSign⟩ := exists_first_sign sign
    rw [parseKeyValue_append noSign]
    cases isBlankText key <;> simp
  · simp [parseKeyValue_of_not_mem sign]

/-- A text is that of one pair at most. -/
theorem Tells.unique (tells : Tells text pair) (otherTells : Tells text other) : pair = other := by
  rw [← parseKeyValue_eq_ok_iff] at tells otherTells
  exact Except.ok.inj (tells.symm.trans otherTells)

/-- Trimming takes nothing away from the value of a pair. -/
theorem Tells.trim_value (tells : Tells text pair) : trim pair.2 = pair.2 := by
  obtain ⟨key, value, -, -, -, rfl⟩ := tells
  exact trim_trim value

/-! ## Lists of texts -/

variable {texts : List String} {pairs : List (String × String)}

/-- The fault of the first text that is not the text of a pair. -/
def FirstMalformed (texts : List String) (fault : OptionFault) : Prop :=
  ∃ before text rest, texts = before ++ text :: rest ∧
    (∀ earlier ∈ before, ∃ pair, Tells earlier pair) ∧ (¬∃ pair, Tells text pair) ∧
    .malformed text = fault

theorem mapM_parseKeyValue_eq_ok_iff :
    texts.mapM parseKeyValue = .ok pairs ↔ List.Forall₂ Tells texts pairs := by
  simp only [mapM_eq_ok_iff, parseKeyValue_eq_ok_iff]

theorem mapM_parseKeyValue_eq_error_iff :
    texts.mapM parseKeyValue = .error fault ↔ FirstMalformed texts fault := by
  simp only [mapM_eq_error_iff, parseKeyValue_eq_ok_iff, parseKeyValue_eq_error_iff,
    FirstMalformed]

theorem exists_tells_iff :
    (∃ pairs, List.Forall₂ Tells texts pairs) ↔ ∀ text ∈ texts, ∃ pair, Tells text pair := by
  induction texts with
  | nil => simp
  | cons text rest ih =>
      simp only [List.forall_mem_cons, ← ih, List.forall₂_cons_left_iff]
      constructor
      · rintro ⟨_, pair, pairs, tells, others, rfl⟩
        exact ⟨⟨pair, tells⟩, pairs, others⟩
      · rintro ⟨⟨pair, tells⟩, pairs, others⟩
        exact ⟨_, pair, pairs, tells, others, rfl⟩

/-- What holds of the pairs of some texts holds of all that they tell. -/
theorem forall_mem_iff_of_tells {holds : String × String → Prop}
    (told : List.Forall₂ Tells texts pairs) :
    (∀ pair ∈ pairs, holds pair) ↔ ∀ text ∈ texts, ∀ pair, Tells text pair → holds pair := by
  induction told with
  | nil => simp
  | @cons text pair _ _ tells _ ih =>
      have only : (∀ found, Tells text found → holds found) ↔ holds pair := by
        constructor
        · intro all
          exact all pair tells
        · intro held found otherTells
          rwa [← tells.unique otherTells]
      rw [List.forall_mem_cons, List.forall_mem_cons, ih, only]

/-- Trimming takes nothing away from the values of pairs. -/
theorem trim_of_mem_values (told : List.Forall₂ Tells texts pairs) :
    ∀ pair ∈ pairs, trim pair.2 = pair.2 :=
  (forall_mem_iff_of_tells told).mpr fun _ _ _ => Tells.trim_value

end RecordMapper
