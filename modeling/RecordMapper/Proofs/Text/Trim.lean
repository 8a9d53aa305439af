import Mathlib.Data.List.TakeWhile
import RecordMapper.Text.Blank

/-!
# Trimmed texts

A text that neither begins nor ends with a blank character is left alone by trimming
(`Trimmed.trimChars_eq`), and trimming leads to such a text (`trimmed_trimChars`). So it makes no
difference how often a text is trimmed (`trim_trim`). Nothing is left of a text exactly if it is
blank (`trim_eq_empty_iff`).
-/

namespace RecordMapper.Text

/-- Characters of which neither the first nor the last is blank. -/
structure Trimmed (cs : List Char) : Prop where
  front : ∀ c ∈ cs.head?, isBlank c = false
  back : ∀ c ∈ cs.getLast?, isBlank c = false

variable {cs : List Char}

theorem dropWhile_eq_self (front : ∀ c ∈ cs.head?, isBlank c = false) :
    cs.dropWhile isBlank = cs := by
  cases cs with
  | nil => rfl
  | cons first rest =>
      apply List.dropWhile_cons_of_neg
      simp [front first rfl]

theorem isBlank_of_head?_dropWhile (cs : List Char) :
    ∀ c ∈ (cs.dropWhile isBlank).head?, isBlank c = false := by
  intro c first
  have stops := List.head?_dropWhile_not isBlank cs
  rw [first] at stops
  exact stops

theorem Trimmed.trimChars_eq (trimmed : Trimmed cs) : trimChars cs = cs := by
  have back : ∀ c ∈ cs.reverse.head?, isBlank c = false := by
    rw [List.head?_reverse]
    exact trimmed.back
  rw [trimChars, dropWhile_eq_self trimmed.front, dropWhile_eq_self back, List.reverse_reverse]

theorem trimmed_trimChars (cs : List Char) : Trimmed (trimChars cs) where
  front := by
    intro c first
    -- What is left begins the text without its leading blanks.
    have leads : trimChars cs <+: cs.dropWhile isBlank :=
      List.reverse_suffix.mp (by
        rw [trimChars, List.reverse_reverse]
        exact List.dropWhile_suffix isBlank)
    obtain ⟨rest, whole⟩ := leads
    apply isBlank_of_head?_dropWhile cs
    rw [← whole, List.head?_append, first]
    rfl
  back := by
    rw [trimChars, List.getLast?_reverse]
    exact isBlank_of_head?_dropWhile _

/-- Trimming twice is trimming once. -/
theorem trim_trim (text : String) : trim (trim text) = trim text := by
  rw [trim, trim, String.toList_ofList, (trimmed_trimChars text.toList).trimChars_eq]

/-- Nothing is left exactly of characters that are all blank. -/
theorem trimChars_eq_nil_iff : trimChars cs = [] ↔ ∀ c ∈ cs, isBlank c = true := by
  rw [trimChars, List.reverse_eq_nil_iff, List.dropWhile_eq_nil_iff]
  constructor
  · intro blank
    apply List.dropWhile_eq_nil_iff.mp
    -- What follows the leading blanks does not begin with a blank character.
    cases left : cs.dropWhile isBlank with
    | nil => rfl
    | cons first rest =>
        have visible : isBlank first = false :=
          isBlank_of_head?_dropWhile cs first (by simp [left])
        rw [blank first (by simp [left])] at visible
        cases visible
  · intro blank c member
    rw [List.dropWhile_eq_nil_iff.mpr blank] at member
    cases member

theorem trim_eq_empty_iff {text : String} : trim text = "" ↔ isBlankText text = true := by
  rw [isBlankText, List.all_eq_true, ← trimChars_eq_nil_iff, trim, ← String.toList_inj,
    String.toList_ofList, String.toList_empty]

end RecordMapper.Text
