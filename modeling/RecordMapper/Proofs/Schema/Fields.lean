import Mathlib.Data.List.Forall2
import RecordMapper.Proofs.ResolvedType.WellFormed
import RecordMapper.Schema.OfDeclaration

/-!
# What a schema says of its declaration

Validation succeeds exactly if the declaration describes the schema
(`Schema.ofDeclaration_eq_ok_iff`): it is a plain record with valid names, and its primary
properties give the fields one by one, under pairwise distinct names.
-/

namespace RecordMapper

/-- The field of a property has its name, which is an identifier, and its declared type,
resolved. -/
structure Property.Gives (property : Property) (field : Field) : Prop where
  name : field.name = property.name
  identifier : Identifier.fault? property.name = none
  type : ∃ declared, property.type? = some declared ∧ declared.resolve = .ok field.type

/-- The name of the field is an identifier and its type is well-formed. -/
structure Field.WellFormed (field : Field) : Prop where
  name : Identifier.fault? field.name = none
  type : field.type.WellFormed

/-- What a declaration that is a plain record says of its schema. -/
structure Declaration.Describes (declaration : Declaration) (schema : Schema) : Prop where
  plain : declaration.recordFault? = none
  qualifiedName : schema.qualifiedName = declaration.qualifiedName
  qualified : QualifiedName.fault? declaration.qualifiedName = none
  simpleName : schema.simpleName = declaration.simpleName
  identifier : Identifier.fault? declaration.simpleName = none
  fields : List.Forall₂ Property.Gives declaration.primaryProperties schema.fields
  distinct : (declaration.primaryProperties.map (·.name)).Nodup

theorem Property.resolveType_eq_ok_iff {property : Property} {type : ResolvedType} :
    property.resolveType = .ok type ↔
      ∃ declared, property.type? = some declared ∧ declared.resolve = .ok type := by
  unfold resolveType
  cases property.type? with
  | none => simp
  | some declared =>
      cases resolved : declared.resolve with
      | error error => simp [resolved]
      | ok found => simp [resolved]

/-- A property gives a field unless its name is one of an earlier property. -/
theorem Property.field_eq_ok_iff {earlier : List String} {property : Property} {field : Field} :
    property.field earlier = .ok field ↔ property.Gives field ∧ property.name ∉ earlier := by
  unfold Property.field
  cases identifier : Identifier.fault? property.name with
  | some fault =>
      apply iff_of_false (by simp)
      intro gives
      exact absurd (identifier.symm.trans gives.1.identifier) (by simp)
  | none =>
      by_cases repeated : property.name ∈ earlier
      · simp [repeated]
      · simp only [List.contains_eq_mem, repeated, decide_false, Bool.false_eq_true, ↓reduceIte,
          not_false_eq_true, and_true]
        constructor
        · intro success
          cases resolved : property.resolveType with
          | error fault => simp [resolved] at success
          | ok type =>
              simp only [resolved, Except.ok.injEq] at success
              subst success
              exact ⟨rfl, identifier, resolveType_eq_ok_iff.mp resolved⟩
        · intro gives
          obtain ⟨name, type⟩ := field
          obtain rfl : name = property.name := gives.name
          rw [resolveType_eq_ok_iff.mpr gives.type]

/-- **The fields of properties.** They are found exactly if each property gives its field and no
name occurs twice or among the earlier ones. -/
theorem fieldsAfter_eq_ok_iff {earlier : List String} {properties : List Property}
    {fields : List Field} :
    fieldsAfter earlier properties = .ok fields ↔
      List.Forall₂ Property.Gives properties fields ∧ (properties.map (·.name)).Nodup ∧
        ∀ property ∈ properties, property.name ∉ earlier := by
  -- Behind each property its name is one more earlier name.
  induction properties generalizing earlier fields with
  | nil => simp [fieldsAfter, eq_comm]
  | cons property rest ih =>
      unfold fieldsAfter
      constructor
      · intro success
        cases first : property.field earlier with
        | error fault => simp [first] at success
        | ok field =>
            simp only [first] at success
            cases others : fieldsAfter (property.name :: earlier) rest with
            | error fault => simp [others] at success
            | ok found =>
                simp only [others, Except.ok.injEq] at success
                subst success
                obtain ⟨gives, fresh⟩ := Property.field_eq_ok_iff.mp first
                obtain ⟨givesRest, distinct, apart⟩ := ih.mp others
                refine ⟨.cons gives givesRest, ?_, ?_⟩
                · rw [List.map_cons, List.nodup_cons]
                  refine ⟨?_, distinct⟩
                  intro member
                  obtain ⟨other, listed, same⟩ := List.mem_map.mp member
                  exact apart other listed (same ▸ List.mem_cons_self)
                · intro other listed
                  rcases List.mem_cons.mp listed with rfl | later
                  · exact fresh
                  · exact fun member => apart other later (List.mem_cons_of_mem _ member)
      · intro parts
        obtain ⟨gives, distinct, apart⟩ := parts
        cases gives with
        | cons givesFirst givesRest =>
            rw [List.map_cons, List.nodup_cons] at distinct
            have first := Property.field_eq_ok_iff.mpr
              ⟨givesFirst, apart property List.mem_cons_self⟩
            have others := ih.mpr ⟨givesRest, distinct.2, fun other listed member => by
              rcases List.mem_cons.mp member with same | later
              · exact distinct.1 (List.mem_map.mpr ⟨other, listed, same⟩)
              · exact apart other (List.mem_cons_of_mem _ listed) later⟩
            rw [first]
            dsimp only
            rw [others]

theorem Declaration.nameFault?_eq_none_iff {declaration : Declaration} :
    declaration.nameFault? = none ↔
      QualifiedName.fault? declaration.qualifiedName = none ∧
        Identifier.fault? declaration.simpleName = none := by
  unfold nameFault?
  cases QualifiedName.fault? declaration.qualifiedName <;> simp

/-- **Validation succeeds exactly on declarations that describe a schema.** -/
theorem Schema.ofDeclaration_eq_ok_iff {declaration : Declaration} {schema : Schema} :
    Schema.ofDeclaration declaration = .ok schema ↔ declaration.Describes schema := by
  have step : Schema.ofDeclaration declaration = .ok schema ↔
      declaration.schemaOrFault = .ok schema := by
    unfold Schema.ofDeclaration
    cases declaration.schemaOrFault <;> simp
  rw [step, Declaration.schemaOrFault]
  constructor
  · intro success
    cases plain : declaration.recordFault? with
    | some fault => simp [plain] at success
    | none =>
        cases names : declaration.nameFault? with
        | some fault => simp [plain, names] at success
        | none =>
            cases found : fieldsAfter [] declaration.primaryProperties with
            | error fault => simp [plain, names, found] at success
            | ok fields =>
                simp only [plain, names, found, Except.ok.injEq] at success
                subst success
                obtain ⟨qualified, identifier⟩ := Declaration.nameFault?_eq_none_iff.mp names
                obtain ⟨gives, distinct, -⟩ := fieldsAfter_eq_ok_iff.mp found
                exact ⟨plain, rfl, qualified, rfl, identifier, gives, distinct⟩
  · intro describes
    obtain ⟨qualifiedName, simpleName, fields⟩ := schema
    obtain rfl : qualifiedName = declaration.qualifiedName := describes.qualifiedName
    obtain rfl : simpleName = declaration.simpleName := describes.simpleName
    have names := Declaration.nameFault?_eq_none_iff.mpr
      ⟨describes.qualified, describes.identifier⟩
    have found : fieldsAfter [] declaration.primaryProperties = .ok fields :=
      fieldsAfter_eq_ok_iff.mpr
        ⟨describes.fields, describes.distinct, fun _ _ => List.not_mem_nil⟩
    simp only [describes.plain, names, found]

theorem Property.exists_gives {properties : List Property} {fields : List Field}
    (gives : List.Forall₂ Property.Gives properties fields) {field : Field}
    (listed : field ∈ fields) : ∃ property ∈ properties, property.Gives field := by
  induction gives with
  | nil => simp at listed
  | @cons first head rest others givesFirst _ ih =>
      rcases List.mem_cons.mp listed with rfl | later
      · exact ⟨first, List.mem_cons_self, givesFirst⟩
      · obtain ⟨property, member, givesField⟩ := ih later
        exact ⟨property, List.mem_cons_of_mem _ member, givesField⟩

/-- The fields of a described schema are well-formed. -/
theorem Declaration.Describes.wellFormed_field {declaration : Declaration} {schema : Schema}
    (describes : declaration.Describes schema) {field : Field} (listed : field ∈ schema.fields) :
    field.WellFormed := by
  obtain ⟨property, -, gives⟩ := Property.exists_gives describes.fields listed
  obtain ⟨declared, -, resolves⟩ := gives.type
  refine ⟨?_, declared.wellFormed_of_resolve resolves⟩
  rw [gives.name]
  exact gives.identifier

end RecordMapper
