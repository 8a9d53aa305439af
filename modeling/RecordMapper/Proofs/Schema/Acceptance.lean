import RecordMapper.Proofs.Declaration.Accessors
import RecordMapper.Proofs.MappingFunction.OfCandidate
import RecordMapper.Proofs.Schema.Faults

/-!
# Declarations that are accepted

Validation accepts a declaration exactly if it is a plain record whose names can be written and
whose primary properties have types that resolve (`Declaration.valid_iff_isMappable`). The schema
tells the declaration's names and its primary properties, and nothing else of the declaration has
an influence on it (`Schema.ofDeclaration_accepts_records`).
-/

namespace RecordMapper

/-- A property with a type that resolves. -/
def Property.IsTyped (property : Property) : Prop :=
  ∃ declared resolved, property.type? = some declared ∧ declared.resolve = .ok resolved

/-- What a declaration has to be in order to take part in a mapping. -/
structure Declaration.IsMappable (declaration : Declaration) : Prop where
  record : declaration.PlainRecord
  qualifiedName : QualifiedName.Dotted declaration.qualifiedName
  simpleName : Identifier.Spelled declaration.simpleName
  fieldNames : ∀ property ∈ declaration.primaryProperties, Identifier.Spelled property.name
  distinct : (declaration.primaryProperties.map (·.name)).Nodup
  typed : ∀ property ∈ declaration.primaryProperties, property.IsTyped

/-- Properties that give fields have identifiers for names. -/
theorem Property.spelled_of_gives {properties : List Property} {fields : List Field}
    (gives : List.Forall₂ Property.Gives properties fields) :
    ∀ property ∈ properties, Identifier.Spelled property.name := by
  intro property listed
  obtain ⟨field, -, given⟩ := exists_field_of_mem gives listed
  exact Identifier.fault?_eq_none_iff_spelled.mp given.identifier

/-- Properties that give fields have types that resolve. -/
theorem Property.isTyped_of_gives {properties : List Property} {fields : List Field}
    (gives : List.Forall₂ Property.Gives properties fields) :
    ∀ property ∈ properties, property.IsTyped := by
  intro property listed
  obtain ⟨field, -, given⟩ := exists_field_of_mem gives listed
  obtain ⟨declared, found, resolves⟩ := given.type
  exact ⟨declared, field.type, found, resolves⟩

/-- Each property gives a field if its name is an identifier and its type resolves. -/
theorem Property.exists_forall₂_gives {properties : List Property}
    (names : ∀ property ∈ properties, Identifier.Spelled property.name)
    (typed : ∀ property ∈ properties, property.IsTyped) :
    ∃ fields, List.Forall₂ Property.Gives properties fields := by
  induction properties with
  | nil => exact ⟨[], .nil⟩
  | cons property rest ih =>
      rw [List.forall_mem_cons] at names typed
      obtain ⟨declared, resolved, given, resolves⟩ := typed.1
      obtain ⟨fields, gives⟩ := ih names.2 typed.2
      have identifier := Identifier.fault?_eq_none_iff_spelled.mpr names.1
      exact ⟨⟨property.name, resolved⟩ :: fields,
        .cons ⟨rfl, identifier, declared, given, resolves⟩ gives⟩

namespace Declaration

variable {declaration : Declaration} {schema : Schema}

theorem Describes.isMappable (describes : declaration.Describes schema) :
    declaration.IsMappable where
  record := recordFault?_eq_none_iff.mp describes.plain
  qualifiedName := QualifiedName.fault?_eq_none_iff_dotted.mp describes.qualified
  simpleName := Identifier.fault?_eq_none_iff_spelled.mp describes.identifier
  fieldNames := Property.spelled_of_gives describes.fields
  distinct := describes.distinct
  typed := Property.isTyped_of_gives describes.fields

/-- **A declaration is accepted exactly if it is mappable.** -/
theorem valid_iff_isMappable : declaration.Valid ↔ declaration.IsMappable := by
  constructor
  · rintro ⟨schema, describes⟩
    exact describes.isMappable
  · intro mappable
    obtain ⟨fields, gives⟩ := Property.exists_forall₂_gives mappable.fieldNames mappable.typed
    exact ⟨⟨declaration.qualifiedName, declaration.simpleName, fields⟩,
      { plain := recordFault?_eq_none_iff.mpr mappable.record
        qualifiedName := rfl
        qualified := QualifiedName.fault?_eq_none_iff_dotted.mpr mappable.qualifiedName
        simpleName := rfl
        identifier := Identifier.fault?_eq_none_iff_spelled.mpr mappable.simpleName
        fields := gives
        distinct := mappable.distinct }⟩

/-- The fields have unique names, which are identifiers. -/
theorem Describes.fieldNames (describes : declaration.Describes schema) :
    (∀ field ∈ schema.fields, Identifier.Spelled field.name) ∧
      (schema.fields.map (·.name)).Nodup := by
  refine ⟨?_, describes.nodup_fields⟩
  intro field listed
  exact Identifier.fault?_eq_none_iff_spelled.mp (describes.wellFormed_field listed).name

/-! ## Simple names that are not declared -/

/-- The last segment of the qualified name is an identifier if the qualified name is one. -/
theorem spelled_simpleName (undeclared : declaration.simpleName? = none)
    (dotted : QualifiedName.Dotted declaration.qualifiedName) :
    Identifier.Spelled declaration.simpleName := by
  rw [simpleName, undeclared, Option.getD_none]
  exact dotted.spelled_lastSegment

/-- No declaration fails for a simple name that it does not declare. -/
theorem not_fails_simpleName (undeclared : declaration.simpleName? = none)
    (fault : Identifier.Fault) :
    ¬declaration.Fails (.invalidName declaration.simpleName (.identifier fault)) := by
  -- Once the qualified name has passed, the simple name is an identifier, so no check of a name
  -- after that can be about it.
  have spelled (qualified : QualifiedName.fault? declaration.qualifiedName = none) :
      Identifier.fault? declaration.simpleName = none :=
    Identifier.fault?_eq_none_iff_spelled.mpr
      (spelled_simpleName undeclared (QualifiedName.fault?_eq_none_iff_dotted.mp qualified))
  intro fails
  generalize same : SchemaFault.invalidName declaration.simpleName (.identifier fault) = found
    at fails
  cases fails with
  | record _ => cases same
  | qualifiedName _ _ => simp at same
  | simpleName _ qualified simple => simp [spelled qualified] at simple
  | property _ qualified _ _ _ _ fails =>
      cases fails with
      | name identifier =>
          obtain ⟨name, -⟩ := SchemaFault.invalidName.inj same
          simp [← name, spelled qualified] at identifier
      | repeated _ _ => cases same
      | type _ _ _ => cases same

end Declaration

/-- **Validation accepts exactly plain records.** For any declaration,
* there is a schema exactly if the declaration is mappable;
* the schema has the names of the declaration, and its fields are the primary properties in order,
  each with its resolved type; their names are identifiers and pairwise distinct;
* declarations that differ from it in markers and accessors only have the same schema, or are
  rejected for the same reason;
* if it declares no simple name, its simple name is an identifier if its qualified name can be
  written, and it is never rejected for its simple name. -/
theorem Schema.ofDeclaration_accepts_records (declaration : Declaration) :
    ((∃ schema, ofDeclaration declaration = .ok schema) ↔ declaration.IsMappable) ∧
    (∀ schema, ofDeclaration declaration = .ok schema →
      schema.qualifiedName = declaration.qualifiedName ∧
      schema.simpleName = declaration.simpleName ∧
      List.Forall₂ Property.Gives declaration.primaryProperties schema.fields ∧
      (∀ field ∈ schema.fields, Identifier.Spelled field.name) ∧
      (schema.fields.map (·.name)).Nodup) ∧
    (∀ other, declaration.SameRecord other → ofDeclaration other = ofDeclaration declaration) ∧
    (declaration.simpleName? = none →
      (QualifiedName.Dotted declaration.qualifiedName →
        Identifier.Spelled declaration.simpleName) ∧
      ∀ name fault, ofDeclaration declaration ≠
        .error ⟨name, .invalidName declaration.simpleName (.identifier fault)⟩) := by
  refine ⟨?accepted, ?sound, ?frame, ?undeclared⟩
  case accepted =>
    rw [← Declaration.valid_iff_isMappable]
    simp only [Declaration.Valid, ofDeclaration_eq_ok_iff]
  case sound =>
    intro schema success
    have describes := ofDeclaration_eq_ok_iff.mp success
    exact ⟨describes.qualifiedName, describes.simpleName, describes.fields, describes.fieldNames⟩
  case frame =>
    intro other same
    exact (ofDeclaration_of_sameRecord same).symm
  case undeclared =>
    intro undeclared
    refine ⟨Declaration.spelled_simpleName undeclared, ?_⟩
    intro name fault rejected
    exact Declaration.not_fails_simpleName undeclared fault
      (ofDeclaration_eq_error_iff.mp rejected).2

/-- The accessors and the marker do not change the schema. -/
theorem Schema.ofDeclaration_accepts_records_guarded :
    Manifest.sampleTarget.IsMappable ∧
    ∃ schema, ofDeclaration Manifest.sampleGuarded = .ok schema ∧ schema.simpleName = "View" ∧
      schema.fields.map (·.name) = ["id", "label"] ∧ (schema.fields.map (·.name)).Nodup ∧
      Identifier.Spelled Manifest.sampleTarget.simpleName := by
  obtain ⟨accepted, sound, frame, undeclared⟩ :=
    Schema.ofDeclaration_accepts_records Manifest.sampleTarget
  obtain ⟨schema, success⟩ : ∃ schema, ofDeclaration Manifest.sampleTarget = .ok schema := ⟨_, rfl⟩
  have mappable := accepted.mp ⟨schema, success⟩
  have alike : Manifest.sampleTarget.SameRecord Manifest.sampleGuarded :=
    { qualifiedName := rfl
      simpleName? := rfl
      kind := rfl
      modifiers := rfl
      typeParams := rfl
      properties :=
        .into (.inr rfl) (.keep _ (.into (.inl (Option.some_ne_none _)) (.keep _ .nil))) }
  obtain ⟨-, simpleName, fields, -, distinct⟩ := sound schema success
  refine ⟨mappable, schema, (frame _ alike).trans success, simpleName, ?_, distinct, ?_⟩
  · exact Property.map_name_eq fields
  · exact (undeclared rfl).1 mappable.qualifiedName

end RecordMapper
