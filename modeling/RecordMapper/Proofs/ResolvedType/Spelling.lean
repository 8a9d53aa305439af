import RecordMapper.Proofs.ResolvedType.WellFormed
import RecordMapper.ResolvedType.Spelling

/-!
# The characters of spelled types

The text of a well-formed type consists of the characters of qualified names and of the brackets,
commas, spaces, stars and question marks between them (`ResolvedType.consists_render`), at any
depth and in both modes. So it holds no line break, colon, equals sign or parenthesis.
-/

namespace RecordMapper

/-- A character that can stand in a spelled type. -/
def SpelledType.isPart (c : Char) : Bool :=
  QualifiedName.isPart c || ['<', '>', ',', ' ', '*', '?'].contains c

namespace SpelledType

theorem isPart_delimiter {c : Char} (listed : c ∈ ['\n', ':', '=', '(', ')']) :
    isPart c = false := by
  have others : (['\n', ':', '=', '(', ')'].all fun c => c ∈ Identifier.delimiters ∧
      ['<', '>', ',', ' ', '*', '?'].contains c = false) = true := by
    decide
  obtain ⟨delimiter, noMark⟩ := of_decide_eq_true (List.all_eq_true.mp others c listed)
  rw [isPart, QualifiedName.isPart_delimiter delimiter, noMark, Bool.or_false]

/-- A text all of whose characters can stand in a spelled type. -/
def Consists (text : String) : Prop :=
  ∀ c ∈ text.toList, isPart c = true

theorem Consists.not_mem {text : String} (consists : Consists text) {c : Char}
    (listed : c ∈ ['\n', ':', '=', '(', ')']) : c ∉ text.toList := by
  intro member
  exact absurd (consists c member) (by rw [isPart_delimiter listed]; simp)

theorem Consists.append {first second : String} (one : Consists first) (two : Consists second) :
    Consists (first ++ second) := by
  intro c member
  rw [String.toList_append, List.mem_append] at member
  exact member.elim (one c) (two c)

theorem Consists.name {name : String} (valid : QualifiedName.fault? name = none) :
    Consists name := by
  intro c member
  rw [isPart, QualifiedName.isPart_of_mem valid member, Bool.true_or]

/-- Brackets, commas, spaces, stars and question marks can stand in a spelled type. -/
theorem Consists.marks {text : String}
    (listed : text.toList.all (['<', '>', ',', ' ', '*', '?'].contains ·) = true) :
    Consists text := by
  intro c member
  rw [isPart, List.all_eq_true.mp listed c member, Bool.or_true]

theorem Consists.intercalate {separator : String} (between : Consists separator) :
    ∀ {texts : List String}, (∀ text ∈ texts, Consists text) →
      Consists (separator.intercalate texts)
  | [], _ => by simp [Consists]
  | [text], each => by simpa using each text List.mem_cons_self
  | text :: next :: rest, each => by
      rw [String.intercalate_cons_cons]
      exact ((each text List.mem_cons_self).append between).append
        (between.intercalate fun other member => each other (List.mem_cons_of_mem _ member))

theorem Consists.bracketed {texts : List String} (each : ∀ text ∈ texts, Consists text) :
    Consists (bracketed texts) := by
  cases texts with
  | nil => simp [Consists, RecordMapper.bracketed]
  | cons text rest =>
      have comma : Consists ", " := .marks (by decide)
      have left : Consists "<" := .marks (by decide)
      have right : Consists ">" := .marks (by decide)
      exact (left.append (comma.intercalate each)).append right

/-- The parts of a type make up a spelled type. -/
theorem Consists.spellParts {name : String} {args : List String} {nullable : Bool}
    (valid : QualifiedName.fault? name = none) (each : ∀ text ∈ args, Consists text) :
    Consists (spellParts name args nullable) := by
  apply ((Consists.name valid).append (Consists.bracketed each)).append
  cases nullable with
  | false => exact .marks (by decide)
  | true => exact .marks (by decide)

theorem Consists.lead (variance : Variance) : Consists variance.lead := by
  have parts : variance.lead.toList.all isPart = true := by
    cases variance <;> decide +kernel
  exact List.all_eq_true.mp parts

end SpelledType

/-- An argument that is no star is spelled with the keyword of its variance before its type. -/
theorem TypeArg.spell_some {variance : Variance} (noStar : variance ≠ .star)
    (type : ResolvedType) :
    TypeArg.spell ⟨variance, some type⟩ = variance.lead ++ type.spell := by
  rw [TypeArg.spell]
  exact noStar

open SpelledType

mutual

theorem ResolvedType.consists_spell : ∀ {type : ResolvedType}, type.WellFormed →
    Consists type.spell
  | ⟨name, args, nullable⟩, wellFormed => by
      unfold ResolvedType.WellFormed at wellFormed
      unfold ResolvedType.spell
      exact Consists.spellParts wellFormed.1 (consists_spellArgs wellFormed.2)

theorem consists_spellArgs : ∀ {args : List TypeArg}, WellFormedArgs args →
    ∀ text ∈ spellArgs args, Consists text
  | [], _, text, member => by simp [spellArgs] at member
  | arg :: rest, wellFormed, text, member => by
      unfold WellFormedArgs at wellFormed
      rw [spellArgs, List.mem_cons] at member
      rcases member with rfl | later
      · exact TypeArg.consists_spell wellFormed.1
      · exact consists_spellArgs wellFormed.2 text later

theorem TypeArg.consists_spell : ∀ {arg : TypeArg}, arg.WellFormed → Consists arg.spell
  | ⟨variance, none⟩, wellFormed => by
      have star : Consists "*" := .marks (by decide)
      cases variance <;> simpa only [TypeArg.spell] using star
  | ⟨variance, some type⟩, wellFormed => by
      have noStar := wellFormed.ne_star
      rw [TypeArg.spell_some noStar]
      exact (Consists.lead variance).append
        (ResolvedType.consists_spell ((TypeArg.wellFormed_some_iff noStar).mp wellFormed))

end

/-- **No declared type breaks out of its text.** In both modes the text of a well-formed type
consists of characters that can stand in a spelled type. -/
theorem ResolvedType.consists_render {type : ResolvedType} (wellFormed : type.WellFormed)
    (erase : Bool) : Consists (type.render erase) := by
  cases erase with
  | false => exact consists_spell wellFormed
  | true =>
      have star : Consists "*" := .marks (by decide)
      apply Consists.spellParts wellFormed.name
      intro text member
      obtain ⟨arg, -, rfl⟩ := List.mem_map.mp member
      exact star

end RecordMapper
