import RecordMapper.Proofs.ResolvedType.Readable
import RecordMapper.Proofs.Schema.Starred

/-!
# Erased spellings

The erased text of a type is the full text of the type with a star for each argument
(`ResolvedType.spell_starred`). Such a type is as readable as any other, so the erased text tells
the head of a type and the number of its arguments, and nothing else
(`ResolvedType.erased_spelling`).
-/

namespace RecordMapper

open SpelledType

/-! ## Types with stars for arguments -/

theorem spellArgs_stars {α : Type} (args : List α) :
    spellArgs (args.map fun _ => .star) = args.map fun _ => "*" := by
  induction args with
  | nil => simp only [List.map_nil, spellArgs]
  | cons arg rest ih =>
      have star : TypeArg.star.spell = "*" := by rw [TypeArg.star, TypeArg.spell]
      rw [List.map_cons, spellArgs, ih, star, List.map_cons]

theorem wellFormedArgs_stars {α : Type} (args : List α) :
    WellFormedArgs (args.map fun _ => .star) := by
  induction args with
  | nil => simp only [List.map_nil, WellFormedArgs]
  | cons arg rest ih =>
      rw [List.map_cons, WellFormedArgs]
      exact ⟨TypeArg.wellFormed_star, ih⟩

namespace ResolvedType

variable {type first second : ResolvedType}

/-- Whatever the arguments of a type are, its erased text is the full text with stars for them. -/
theorem spell_starred (type : ResolvedType) : type.starred.spell = type.spellErased := by
  rw [starred, spell, spellArgs_stars, spellErased]

/-- With stars for arguments, a type is well-formed if its own name is a qualified name. -/
theorem wellFormed_starred (valid : QualifiedName.fault? type.qualifiedName = none) :
    type.starred.WellFormed := by
  rw [starred, WellFormed]
  exact ⟨valid, wellFormedArgs_stars type.args⟩

theorem starred_eq_iff :
    first.starred = second.starred ↔
      first.sameHead second = true ∧ first.args.length = second.args.length := by
  rw [starred, starred, mk.injEq, List.map_const', List.map_const', List.replicate_inj, sameHead,
    Bool.and_eq_true, decide_eq_true_eq, decide_eq_true_eq]
  simp only [or_true, and_true]
  rw [and_right_comm, and_assoc]

/-! ## What erased texts tell -/

/-- An erased text tells the head of the type and the number of its arguments. -/
theorem spellErased_eq_iff (valid : QualifiedName.fault? first.qualifiedName = none)
    (otherValid : QualifiedName.fault? second.qualifiedName = none) :
    first.spellErased = second.spellErased ↔
      first.sameHead second = true ∧ first.args.length = second.args.length := by
  rw [← starred_eq_iff, ← spell_starred, ← spell_starred]
  constructor
  · intro same
    have texts : first.starred.spell.toList ++ [] = second.starred.spell.toList ++ [] :=
      congrArg (·.toList ++ []) same
    exact (readable_spell (wellFormed_starred valid) (wellFormed_starred otherValid) ends_nil
      ends_nil texts).1
  · intro same
    rw [same]

/-- Two types of one head with the same full text have the same arguments, if these are
well-formed. -/
theorem args_of_spell {name : String} {args others : List TypeArg} {nullable : Bool}
    (wellFormed : WellFormedArgs args) (otherWellFormed : WellFormedArgs others)
    (same : spell ⟨name, args, nullable⟩ = spell ⟨name, others, nullable⟩) : args = others := by
  have tails : tailChars ⟨name, args, nullable⟩ = tailChars ⟨name, others, nullable⟩ := by
    have texts := congrArg String.toList same
    rw [toList_spell, toList_spell] at texts
    exact List.append_cancel_left texts
  have mark : (markChars nullable).head? ≠ some '<' := by
    simpa using head?_mark_ne ends_nil nullable
  exact (readable_bracketed wellFormed otherWellFormed mark mark tails).1

/-- The two texts of a type agree if each argument is shown as a star anyway. -/
theorem spellErased_eq_spell_iff (wellFormed : WellFormedArgs type.args) :
    type.spellErased = type.spell ↔ ∀ arg ∈ type.args, arg = .star := by
  obtain ⟨name, args, nullable⟩ := type
  have stars : (args.map fun _ => TypeArg.star) = args ↔ ∀ arg ∈ args, arg = .star := by
    rw [List.map_const', eq_comm, List.eq_replicate_iff]
    exact and_iff_right rfl
  rw [← spell_starred, ← stars]
  constructor
  · intro same
    exact args_of_spell (wellFormedArgs_stars args) wellFormed same
  · intro same
    rw [starred, same]

/-- **Erased spellings.** For every type, with whatever arguments,
* the erased text is the full text of the type with a star for each argument;
* the erased texts of two types whose own names are dotted paths are the same exactly if the types
  have the same head and equally many arguments;
* if the arguments are well-formed, the erased and the full text are the same exactly if all
  arguments are stars. -/
theorem erased_spelling (type other : ResolvedType) :
    type.render true = type.starred.render false ∧
    (QualifiedName.Dotted type.qualifiedName → QualifiedName.Dotted other.qualifiedName →
      (type.render true = other.render true ↔
        type.sameHead other = true ∧ type.args.length = other.args.length)) ∧
    (WellFormedArgs type.args →
      (type.render true = type.render false ↔ ∀ arg ∈ type.args, arg = .star)) := by
  refine ⟨type.spell_starred.symm, ?_, spellErased_eq_spell_iff⟩
  intro dotted otherDotted
  exact spellErased_eq_iff (QualifiedName.fault?_eq_none_iff_dotted.mpr dotted)
    (QualifiedName.fault?_eq_none_iff_dotted.mpr otherDotted)

/-- A map from texts to lists of anything, which may be null. -/
def sampleMap : ResolvedType :=
  ⟨"kotlin.Map", [⟨.contravariant, some ⟨"kotlin.String", [], false⟩⟩,
    ⟨.invariant, some ⟨"kotlin.List", [.star], false⟩⟩], true⟩

/-- The map has the erased text of the map from anything to anything, and another full text. -/
theorem erased_spelling_map :
    sampleMap.render true = render true ⟨"kotlin.Map", [.star, .star], true⟩ ∧
      sampleMap.render true = sampleMap.starred.render false ∧
      QualifiedName.Dotted "kotlin.Map" ∧ WellFormedArgs sampleMap.args ∧
      sampleMap.render true ≠ sampleMap.render false := by
  have dotted : QualifiedName.Dotted "kotlin.Map" :=
    QualifiedName.fault?_eq_none_iff_dotted.mp (by decide +kernel)
  have text : QualifiedName.fault? "kotlin.String" = none := by decide +kernel
  have list : QualifiedName.fault? "kotlin.List" = none := by decide +kernel
  have wellFormed : WellFormedArgs sampleMap.args := by
    simp only [sampleMap, WellFormedArgs, TypeArg.WellFormed, WellFormed, TypeArg.star, text, list,
      and_self]
  obtain ⟨starred, others, full⟩ := erased_spelling sampleMap ⟨"kotlin.Map", [.star, .star], true⟩
  refine ⟨(others dotted dotted).mpr ⟨by decide, rfl⟩, starred, dotted, wellFormed, ?_⟩
  intro same
  cases (full wellFormed).mp same _ List.mem_cons_self

end ResolvedType

end RecordMapper
