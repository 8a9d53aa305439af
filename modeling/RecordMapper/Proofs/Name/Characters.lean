import RecordMapper.Name.FileName
import RecordMapper.Name.Qualified
import RecordMapper.Proofs.Text.Split
import RecordMapper.Proofs.Text.Trim

/-!
# The characters of names

Identifiers and qualified names hold none of the characters that generated code puts between them
(`Identifier.isPart_delimiter`) and no white space (`Identifier.isPart_of_isBlank`). So a name can
be cut out of the text around it, and trimming takes nothing away from it
(`QualifiedName.trim_eq_self`).
-/

namespace RecordMapper

open RecordMapper.Text

/-! ## The tables -/

/-- A letter or digit lies in one of the ranges of the two tables. -/
private theorem exists_range {c : Char} (listed : isLetterOrDigit c = true) :
    ∃ range ∈ letters.ranges ++ numerals.ranges, range.1 ≤ c.toNat ∧ c.toNat ≤ range.2 := by
  simp only [isLetterOrDigit, Bool.or_eq_true, CharClass.contains_iff] at listed
  rcases listed with ⟨range, member, inside⟩ | ⟨range, member, inside⟩
  · exact ⟨range, List.mem_append_left _ member, inside⟩
  · exact ⟨range, List.mem_append_right _ member, inside⟩

/-- Below 128 there are only the Latin letters and the decimal digits. -/
theorem Text.ascii_of_isLetterOrDigit {c : Char} (listed : isLetterOrDigit c = true)
    (ascii : c.toNat < 0x80) :
    0x30 ≤ c.toNat ∧ c.toNat ≤ 0x39 ∨ 0x41 ≤ c.toNat ∧ c.toNat ≤ 0x5A ∨
      0x61 ≤ c.toNat ∧ c.toNat ≤ 0x7A := by
  have table : ∀ range ∈ letters.ranges ++ numerals.ranges, 0x80 ≤ range.1 ∨
      range ∈ [(0x30, 0x39), (0x41, 0x5A), (0x61, 0x7A)] := by
    decide +kernel
  obtain ⟨range, member, above, below⟩ := exists_range listed
  rcases table range member with high | low
  · omega
  · simp only [List.mem_cons, List.not_mem_nil, or_false] at low
    rcases low with rfl | rfl | rfl <;> simp only at above below <;> omega

/-- No blank character is a letter or a digit. -/
theorem Text.isLetterOrDigit_of_isBlank {c : Char} (blank : isBlank c = true) :
    isLetterOrDigit c = false := by
  have table : (blanks.ranges.all fun gap => (letters.ranges ++ numerals.ranges).all fun range =>
      Nat.blt range.2 gap.1 || Nat.blt gap.2 range.1) = true := by
    decide +kernel
  rw [Bool.eq_false_iff]
  intro listed
  obtain ⟨range, member, above, below⟩ := exists_range listed
  obtain ⟨gap, gapMember, gapAbove, gapBelow⟩ := (blanks.contains_iff c).mp blank
  have apart := List.all_eq_true.mp (List.all_eq_true.mp table gap gapMember) range member
  simp only [Bool.or_eq_true, Nat.blt_eq] at apart
  omega

/-! ## Identifiers -/

namespace Identifier

/-- The characters that generated code puts between names, but for the dot. -/
def delimiters : List Char :=
  [' ', '\n', ',', ':', '=', '(', ')', '<', '>', '?', '*', '\x7b', '\x7d', '/']

theorem isPart_delimiter {c : Char} (listed : c ∈ '.' :: delimiters) : isPart c = false := by
  have places : (('.' :: delimiters).all fun c => c ≠ '_' ∧ c.toNat < 0x80 ∧
      ¬(0x30 ≤ c.toNat ∧ c.toNat ≤ 0x39 ∨ 0x41 ≤ c.toNat ∧ c.toNat ≤ 0x5A ∨
        0x61 ≤ c.toNat ∧ c.toNat ≤ 0x7A)) = true := by
    decide
  obtain ⟨noMark, ascii, outside⟩ := of_decide_eq_true (List.all_eq_true.mp places c listed)
  rw [Bool.eq_false_iff]
  intro part
  simp only [isPart, Bool.or_eq_true, decide_eq_true_eq] at part
  rcases part with listed | mark
  · exact outside (ascii_of_isLetterOrDigit listed ascii)
  · exact noMark mark

theorem isPart_of_isBlank {c : Char} (blank : isBlank c = true) : isPart c = false := by
  have noMark : c ≠ '_' := by
    intro same
    subst same
    exact absurd blank (by decide)
  simp [isPart, isLetterOrDigit_of_isBlank blank, noMark]

/-- Every character of an identifier is one that can stand in it. -/
theorem isPart_of_mem {name : String} (valid : fault? name = none) {c : Char}
    (member : c ∈ name.toList) : isPart c = true := by
  obtain ⟨first, rest, spelled, start, parts⟩ := fault?_eq_none_iff.mp valid
  rw [spelled] at member
  rcases List.mem_cons.mp member with rfl | later
  · exact isPart_of_isStart start
  · exact List.all_eq_true.mp parts c later

theorem not_mem {name : String} (valid : fault? name = none) {c : Char}
    (listed : c ∈ '.' :: delimiters) : c ∉ name.toList := by
  intro member
  exact absurd (isPart_of_mem valid member) (by rw [isPart_delimiter listed]; simp)

theorem ne_empty {name : String} (valid : fault? name = none) : name ≠ "" := by
  intro same
  subst same
  simp [fault?] at valid

/-- A letter or an underscore, and then letters, digits and underscores. -/
def Spelled (name : String) : Prop :=
  ∃ first rest, name.toList = first :: rest ∧ isStart first = true ∧ rest.all isPart = true

theorem fault?_eq_none_iff_spelled {name : String} : fault? name = none ↔ Spelled name :=
  fault?_eq_none_iff

end Identifier

/-! ## Qualified names -/

namespace QualifiedName

/-- A text is a qualified name exactly if each of its segments is an identifier. -/
theorem fault?_eq_none_iff {name : String} :
    fault? name = none ↔ ∀ segment ∈ segments name, Identifier.fault? segment = none := by
  have segmentFault (segment : String) :
      segmentFault? segment = none ↔ Identifier.fault? segment = none := by
    by_cases blank : segment = ""
    · subst blank
      simp [segmentFault?, Identifier.fault?]
    · simp [segmentFault?, blank]
  by_cases blank : name = ""
  · subst blank
    simp [fault?, segments, Identifier.fault?]
  · simp only [fault?, String.isEmpty_iff, blank, ↓reduceIte, List.findSome?_eq_none_iff,
      segmentFault]

/-- Every piece between dots begins with a letter or an underscore and goes on with letters, digits
and underscores. -/
def Dotted (name : String) : Prop :=
  ∀ segment ∈ segments name, ∃ first rest, segment.toList = first :: rest ∧
    Identifier.isStart first = true ∧ rest.all Identifier.isPart = true

theorem fault?_eq_none_iff_dotted {name : String} : fault? name = none ↔ Dotted name := by
  simp only [fault?_eq_none_iff, Identifier.fault?_eq_none_iff, Dotted]

theorem segments_ne_nil (name : String) : segments name ≠ [] := by
  simp [segments]

/-- The segments of a text, with dots between them, are the text. -/
theorem join_segments (name : String) : ".".intercalate (segments name) = name :=
  join_split rfl name

/-- The last segment of a dotted path is one of its identifiers. -/
theorem Dotted.spelled_lastSegment {name : String} (dotted : Dotted name) :
    Identifier.Spelled (lastSegment name) := by
  apply dotted
  rw [lastSegment, List.getLastD_eq_getLast?, List.getLast?_eq_some_getLast (segments_ne_nil name)]
  exact List.getLast_mem (segments_ne_nil name)

/-- A character that can stand in a qualified name. -/
def isPart (c : Char) : Bool :=
  Identifier.isPart c || c = '.'

/-- Every character of a qualified name is one that can stand in it. -/
theorem isPart_of_mem {name : String} (valid : fault? name = none) {c : Char}
    (member : c ∈ name.toList) : isPart c = true := by
  by_cases dot : c = '.'
  · simp [isPart, dot]
  · obtain ⟨piece, listed, inside⟩ := (mem_iff_of_ne_stop dot).mp member
    have segment := fault?_eq_none_iff.mp valid (String.ofList piece)
      (List.mem_map.mpr ⟨piece, listed, rfl⟩)
    simp [isPart, Identifier.isPart_of_mem segment (by simpa using inside)]

theorem isPart_delimiter {c : Char} (listed : c ∈ Identifier.delimiters) : isPart c = false := by
  have noDot : c ≠ '.' := by
    intro same
    subst same
    exact absurd listed (by decide)
  simp [isPart, Identifier.isPart_delimiter (List.mem_cons_of_mem _ listed), noDot]

theorem not_mem {name : String} (valid : fault? name = none) {c : Char}
    (listed : c ∈ Identifier.delimiters) : c ∉ name.toList := by
  intro member
  exact absurd (isPart_of_mem valid member) (by rw [isPart_delimiter listed]; simp)

theorem isBlank_of_mem {name : String} (valid : fault? name = none) {c : Char}
    (member : c ∈ name.toList) : isBlank c = false := by
  rw [Bool.eq_false_iff]
  intro blank
  have part := isPart_of_mem valid member
  rw [isPart, Identifier.isPart_of_isBlank blank, Bool.false_or, decide_eq_true_eq] at part
  subst part
  exact absurd blank (by decide)

/-- Trimming takes nothing away from a qualified name. -/
theorem trim_eq_self {name : String} (valid : fault? name = none) : trim name = name := by
  have trimmed : Trimmed name.toList :=
    ⟨fun _ first => isBlank_of_mem valid (List.mem_of_mem_head? first),
      fun _ last => isBlank_of_mem valid (List.mem_of_mem_getLast? last)⟩
  rw [trim, trimmed.trimChars_eq, String.ofList_toList]

end QualifiedName

/-! ## File names -/

namespace FileName

variable {name : String}

theorem ne_empty (valid : fault? name = none) : name ≠ "" := by
  intro same
  subst same
  simp [fault?] at valid

/-- Every character of a file name is one that can stand in it. -/
theorem isPart_of_mem (valid : fault? name = none) {c : Char} (member : c ∈ name.toList) :
    isPart c = true := by
  rw [fault?] at valid
  split at valid
  · cases valid
  · split at valid
    · cases valid
    · rw [Option.map_eq_none_iff, List.find?_eq_none] at valid
      simpa using valid c member

theorem head?_ne_dot (valid : fault? name = none) : name.toList.head? ≠ some '.' := by
  rw [fault?] at valid
  split at valid
  · cases valid
  · split at valid
    · cases valid
    · next noDots =>
        intro dot
        simp [dot] at noDots

theorem noSlash (valid : fault? name = none) : '/' ∉ name.toList := by
  intro member
  have part := isPart_of_mem valid member
  have noLetter : isLetterOrDigit '/' = false := by
    rw [Bool.eq_false_iff]
    intro listed
    have range := ascii_of_isLetterOrDigit listed (by decide)
    exact absurd range (by decide)
  simp [isPart, noLetter] at part

end FileName

end RecordMapper
