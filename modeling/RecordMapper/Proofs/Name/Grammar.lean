import RecordMapper.Declaration
import RecordMapper.Proofs.Name.Characters

/-!
# The grammar of qualified names

The qualified names are the lists of identifiers with dots between them, and the list can be read
back from the name (`QualifiedName.grammar`). So a text with a dot in it is one exactly if the texts
on both sides of the dot are, and the simple name of a declaration that declares none is an
identifier. None of the characters that generated code puts between names stands in a qualified
name.
-/

namespace RecordMapper.QualifiedName

open RecordMapper.Text

/-- The name is made of the identifiers, with dots between them. -/
structure MadeOf (name : String) (identifiers : List String) : Prop where
  nonempty : identifiers ≠ []
  valid : ∀ identifier ∈ identifiers, Identifier.fault? identifier = none
  joined : ".".intercalate identifiers = name

variable {name : String} {identifiers others : List String}

/-- The identifiers that a name is made of are its segments. -/
theorem MadeOf.segments_eq (made : MadeOf name identifiers) : segments name = identifiers := by
  have noDot : ∀ identifier ∈ identifiers, '.' ∉ identifier.toList := by
    intro identifier listed
    exact Identifier.not_mem (made.valid identifier listed) List.mem_cons_self
  rw [← made.joined]
  exact split_join rfl noDot made.nonempty

theorem MadeOf.unique (made : MadeOf name identifiers) (other : MadeOf name others) :
    identifiers = others :=
  made.segments_eq.symm.trans other.segments_eq

theorem madeOf_segments (valid : fault? name = none) : MadeOf name (segments name) where
  nonempty := segments_ne_nil name
  valid := fault?_eq_none_iff.mp valid
  joined := join_segments name

/-- A text is a qualified name exactly if it is made of identifiers. -/
theorem fault?_eq_none_iff_madeOf :
    fault? name = none ↔ ∃ identifiers, MadeOf name identifiers := by
  constructor
  · intro valid
    exact ⟨segments name, madeOf_segments valid⟩
  · rintro ⟨identifiers, made⟩
    rw [fault?_eq_none_iff, made.segments_eq]
    exact made.valid

/-- Two texts with a dot between them are a qualified name exactly if both are. -/
theorem fault?_append_eq_none_iff (first second : String) :
    fault? (first ++ "." ++ second) = none ↔ fault? first = none ∧ fault? second = none := by
  have split : segments (first ++ "." ++ second) = segments first ++ segments second :=
    split_append rfl first second
  simp only [fault?_eq_none_iff, split, List.forall_mem_append]

theorem MadeOf.getLast?_eq (made : MadeOf name identifiers) :
    identifiers.getLast? = some (lastSegment name) := by
  rw [lastSegment, made.segments_eq, List.getLastD_eq_getLast?,
    List.getLast?_eq_some_getLast made.nonempty, Option.getD_some]

/-- **The grammar of qualified names.**
* A text is a qualified name exactly if it is made of identifiers, which are then the only ones that
  it is made of.
* Two texts with a dot between them are a qualified name exactly if both are.
* The last segment of a qualified name, which is the simple name of a declaration that declares
  none, is the last of its identifiers. Trimming takes nothing away from the name, and it holds
  neither white space nor a character that generated code puts between names. -/
theorem grammar (name : String) :
    (fault? name = none ↔ ∃ identifiers, MadeOf name identifiers) ∧
    (∀ identifiers others, MadeOf name identifiers → MadeOf name others → identifiers = others) ∧
    (∀ first second,
      fault? (first ++ "." ++ second) = none ↔ fault? first = none ∧ fault? second = none) ∧
    (fault? name = none →
      (∀ identifiers, MadeOf name identifiers →
        identifiers.getLast? = some (lastSegment name)) ∧
      Identifier.fault? (lastSegment name) = none ∧
      (∀ declaration : Declaration, declaration.qualifiedName = name →
        declaration.simpleName? = none → declaration.simpleName = lastSegment name) ∧
      trim name = name ∧
      ∀ c ∈ name.toList, isBlank c = false ∧ c ∉ Identifier.delimiters) := by
  refine ⟨fault?_eq_none_iff_madeOf, fun _ _ => MadeOf.unique, fault?_append_eq_none_iff, ?_⟩
  intro valid
  refine ⟨fun _ => MadeOf.getLast?_eq, ?last, ?simple, trim_eq_self valid, ?characters⟩
  case last =>
    apply Identifier.fault?_eq_none_iff_spelled.mpr
    exact (fault?_eq_none_iff_dotted.mp valid).spelled_lastSegment
  case simple =>
    rintro declaration rfl undeclared
    rw [Declaration.simpleName, undeclared, Option.getD_none]
  case characters =>
    intro c member
    refine ⟨isBlank_of_mem valid member, ?_⟩
    intro listed
    exact not_mem valid listed member

/-- A name with letters of two scripts, underscores and digits. -/
theorem grammar_scripts :
    fault? "größe.Ряд_2" = none ∧ MadeOf "größe.Ряд_2" ["größe", "Ряд_2"] ∧
      (∀ others, MadeOf "größe.Ряд_2" others → ["größe", "Ряд_2"] = others) ∧
      Identifier.fault? "Ряд_2" = none ∧ trim "größe.Ряд_2" = "größe.Ряд_2" ∧
      isBlank 'Р' = false ∧ 'Р' ∉ Identifier.delimiters := by
  have valid : fault? "größe.Ряд_2" = none := by decide +kernel
  have made : MadeOf "größe.Ряд_2" ["größe", "Ряд_2"] := madeOf_segments valid
  obtain ⟨-, unique, -, told⟩ := grammar "größe.Ряд_2"
  obtain ⟨-, last, -, trimmed, characters⟩ := told valid
  exact ⟨valid, made, fun others => unique _ others made, last, trimmed,
    characters 'Р' (by decide)⟩

end RecordMapper.QualifiedName
