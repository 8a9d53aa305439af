import RecordMapper.MappingFunction
import RecordMapper.Proofs.Outcome.Emitted
import RecordMapper.Proofs.ResolvedType.Spelling

/-!
# Well-formed mapping functions

A mapping function is well-formed if the names in it are names and the types in it are spelled
types. The texts of declarations are arbitrary, but every function that a manifest leads to is
well-formed (`Manifest.wellFormed_of_mem_functions`), because its fields come from declarations that
were found valid.
-/

namespace RecordMapper

/-- The types that the parameter shows are spelled types. -/
def ParameterKind.WellFormed : ParameterKind → Prop
  | .value type => SpelledType.Consists type
  | .transform source result _ => SpelledType.Consists source ∧ SpelledType.Consists result

/-- The name of the parameter is an identifier and its types are spelled types. -/
def Parameter.WellFormed (parameter : Parameter) : Prop :=
  Identifier.fault? parameter.name = none ∧ parameter.kind.WellFormed

/-- The field of the argument is an identifier and its value stays on one line. -/
def ConstructorArg.WellFormed (arg : ConstructorArg) : Prop :=
  Identifier.fault? arg.field = none ∧ '\n' ∉ arg.value.toList

/-- The names of the function are names, and its parameters and arguments are well-formed. -/
structure MappingFunction.WellFormed (function : MappingFunction) : Prop where
  name : ∀ c ∈ function.name.toList, Identifier.isPart c = true
  receiver : QualifiedName.fault? function.receiver = none
  parameters : ∀ parameter ∈ function.parameters, parameter.WellFormed
  returnType : QualifiedName.fault? function.returnType = none
  constructorArgs : ∀ arg ∈ function.constructorArgs, arg.WellFormed

/-- The fields that a source is about are well-formed. -/
def FieldSource.WellFormed : FieldSource → Prop
  | direct target => target.WellFormed
  | transform origin target _ => origin.WellFormed ∧ target.WellFormed

namespace FieldSource

variable {source : FieldSource}

theorem WellFormed.parameter (wellFormed : source.WellFormed) (erase : Bool) :
    (source.parameter erase).WellFormed := by
  cases source with
  | direct target => exact ⟨wellFormed.name, ResolvedType.consists_render wellFormed.type erase⟩
  | transform origin target identityDefault =>
      obtain ⟨one, two⟩ := wellFormed
      exact ⟨two.name, ResolvedType.consists_render one.type erase,
        ResolvedType.consists_render two.type erase⟩

theorem WellFormed.constructorArg (wellFormed : source.WellFormed) :
    source.constructorArg.WellFormed := by
  cases source with
  | direct target => exact ⟨wellFormed.name, Identifier.not_mem wellFormed.name (by decide)⟩
  | transform origin target identityDefault =>
      obtain ⟨one, two⟩ := wellFormed
      have own : '\n' ∉ target.name.toList := Identifier.not_mem two.name (by decide)
      have other : '\n' ∉ origin.name.toList := Identifier.not_mem one.name (by decide)
      have opening : '\n' ∉ "(this.".toList := by decide
      have closing : '\n' ∉ ")".toList := by decide
      refine ⟨two.name, ?_⟩
      simp only [FieldSource.constructorArg, String.toList_append, List.mem_append, own, opening,
        other, closing, or_self, not_false_eq_true]

end FieldSource

/-- Between schemas with well-formed fields all sources are well-formed. -/
theorem Schema.wellFormed_of_mem_sources {origin target : Schema}
    (fields : ∀ field ∈ origin.fields, field.WellFormed)
    (targetFields : ∀ field ∈ target.fields, field.WellFormed) {source : FieldSource}
    (member : source ∈ origin.sources target) : source.WellFormed := by
  obtain ⟨field, listed, rfl⟩ := List.mem_map.mp member
  unfold sourceOf
  cases found : origin.field? field.name with
  | none => exact targetFields field listed
  | some first => exact ⟨fields first (List.mem_of_find?_eq_some found), targetFields field listed⟩

/-- The function between described schemas is well-formed. -/
theorem MappingFunction.wellFormed_between {first second : Declaration} {origin target : Schema}
    (describes : first.Describes origin) (describesTarget : second.Describes target)
    (erase : Bool) : (between erase origin target).WellFormed := by
  have sources (source : FieldSource) (member : source ∈ origin.sources target) :
      source.WellFormed :=
    Schema.wellFormed_of_mem_sources (fun _ => describes.wellFormed_field)
      (fun _ => describesTarget.wellFormed_field) member
  refine ⟨?name, ?receiver, ?parameters, ?returnType, ?args⟩
  case name =>
    intro c member
    have spelled : (between erase origin target).name.toList =
        "mapTo".toList ++ target.simpleName.toList := by
      simp [between, ofSources, Schema.mappingName]
    rw [spelled, List.mem_append] at member
    rcases member with lead | name
    · have leadParts : "mapTo".toList.all Identifier.isPart = true := by decide +kernel
      exact List.all_eq_true.mp leadParts c lead
    · rw [describesTarget.simpleName] at name
      exact Identifier.isPart_of_mem describesTarget.identifier name
  case receiver =>
    change QualifiedName.fault? origin.qualifiedName = none
    rw [describes.qualifiedName]
    exact describes.qualified
  case returnType =>
    change QualifiedName.fault? target.qualifiedName = none
    rw [describesTarget.qualifiedName]
    exact describesTarget.qualified
  case parameters =>
    intro parameter member
    obtain ⟨source, listed, rfl⟩ := List.mem_map.mp member
    exact (sources source listed).parameter erase
  case args =>
    intro arg member
    obtain ⟨source, listed, rfl⟩ := List.mem_map.mp member
    exact (sources source listed).constructorArg

/-- **Every function of a manifest is well-formed**, whatever its declarations are. -/
theorem Manifest.wellFormed_of_mem_functions {manifest : Manifest} {erase : Bool}
    {function : MappingFunction} (member : function ∈ manifest.functions erase) :
    function.WellFormed := by
  obtain ⟨candidate, -, emitted⟩ := Manifest.mem_functions_iff.mp member
  obtain ⟨origin, declaration, target, describes, -, describesTarget, rfl⟩ :=
    Manifest.outcome_eq_emitted_iff.mp emitted
  exact MappingFunction.wellFormed_between describes describesTarget erase

end RecordMapper
