import Mathlib.Data.List.Perm.Basic
import RecordMapper.Proofs.Declaration.Accessors
import RecordMapper.Proofs.MappingFunction.OfCandidate
import RecordMapper.Proofs.Rearranged

/-!
# The order of fields

A mapping function follows the field order of its target and of nothing else
(`MappingFunction.between_follows_order`). The fields of the origin are looked up by name, which
finds the same field in any order since no name occurs twice among them
(`Schema.sourceOf_of_perm`). Each field of the target has its own parameter and argument, so these
are rearranged as the fields are (`MappingFunction.between_rearranged`).
-/

namespace RecordMapper

/-! ## Other properties for a declaration -/

namespace Declaration.Describes

variable {declaration : Declaration} {schema : Schema} {properties : List Property}

/-- A declaration stays a valid record with any properties that give fields under distinct
names. -/
theorem withProperties (describes : declaration.Describes schema) {fields : List Field}
    (gives : List.Forall₂ Property.Gives (properties.filter (·.isPrimary)) fields)
    (distinct : ((properties.filter (·.isPrimary)).map (·.name)).Nodup) :
    { declaration with properties }.Describes { schema with fields } where
  plain := describes.plain
  qualifiedName := describes.qualifiedName
  qualified := describes.qualified
  simpleName := describes.simpleName
  identifier := describes.identifier
  fields := gives
  distinct := distinct

/-- Permuting the primary properties permutes the fields. -/
theorem exists_perm (describes : declaration.Describes schema)
    (permuted : (properties.filter (·.isPrimary)).Perm declaration.primaryProperties) :
    ∃ fields, fields.Perm schema.fields ∧
      { declaration with properties }.Describes { schema with fields } := by
  obtain ⟨fields, gives, same⟩ := List.perm_comp_forall₂ permuted describes.fields
  exact ⟨fields, same,
    describes.withProperties gives ((permuted.map (·.name)).nodup_iff.mpr describes.distinct)⟩

/-- The fields are rearranged as the primary properties are. -/
theorem rearrange (describes : declaration.Describes schema) {order : List Nat}
    (positions : order.Perm (List.range declaration.primaryProperties.length))
    (moved : properties.filter (·.isPrimary) = rearranged order declaration.primaryProperties) :
    { declaration with properties }.Describes
      { schema with fields := rearranged order schema.fields } := by
  apply describes.withProperties
  · rw [moved]
    exact forall₂_rearranged describes.fields order
  · rw [moved]
    exact ((perm_rearranged positions).map (·.name)).nodup_iff.mpr describes.distinct

end Declaration.Describes

/-! ## Other fields for a schema -/

/-- The order of the origin's fields does not matter, as long as no name occurs twice: otherwise the
first field of a name would be taken. -/
theorem Schema.sourceOf_of_perm {schema : Schema} {fields : List Field}
    (distinct : (schema.fields.map (·.name)).Nodup) (same : fields.Perm schema.fields)
    (target : Field) : sourceOf { schema with fields } target = schema.sourceOf target := by
  have found : field? { schema with fields } target.name = schema.field? target.name :=
    find?_key_of_perm distinct same target.name
  rw [sourceOf, found, sourceOf]

theorem MappingFunction.between_of_perm {origin target : Schema} {fields : List Field}
    (erase : Bool) (distinct : (origin.fields.map (·.name)).Nodup)
    (same : fields.Perm origin.fields) :
    between erase { origin with fields } target = between erase origin target := by
  have sources : Schema.sources { origin with fields } target = origin.sources target :=
    List.map_congr_left fun field _ => Schema.sourceOf_of_perm distinct same field
  rw [between, sources]
  rfl

/-- Rearranging the target's fields rearranges the parameters and the arguments. -/
theorem MappingFunction.between_rearranged (erase : Bool) (origin target : Schema)
    (order : List Nat) :
    between erase origin { target with fields := rearranged order target.fields } =
      { between erase origin target with
        parameters := rearranged order (between erase origin target).parameters
        constructorArgs := rearranged order (between erase origin target).constructorArgs } := by
  simp only [between, ofSources, Schema.sources, rearranged_map]
  rfl

/-- **A mapping function follows the field order of its target and of nothing else.** For a valid
origin and a valid target,
* the origin stays valid when its properties are permuted and accessors are put in and taken out,
  and the function is the same, and so is its text;
* the target stays valid when its primary properties are rearranged, among whatever accessors, and
  the parameters and the constructor arguments of the function are rearranged in the same way.
  Everything else in it is the same. -/
theorem MappingFunction.between_follows_order {origin target : Declaration}
    {schema targetSchema : Schema} (valid : Schema.ofDeclaration origin = .ok schema)
    (validTarget : Schema.ofDeclaration target = .ok targetSchema) (erase : Bool) :
    (∀ permuted properties, permuted.Perm origin.properties →
      SameButAccessors permuted properties →
      ∃ other, Schema.ofDeclaration { origin with properties } = .ok other ∧
        between erase other targetSchema = between erase schema targetSchema) ∧
    (∀ order properties, order.Perm (List.range target.primaryProperties.length) →
      properties.filter (·.isPrimary) = rearranged order target.primaryProperties →
      ∃ other, Schema.ofDeclaration { target with properties } = .ok other ∧
        between erase schema other =
          { between erase schema targetSchema with
            parameters := rearranged order (between erase schema targetSchema).parameters
            constructorArgs :=
              rearranged order (between erase schema targetSchema).constructorArgs }) := by
  have describes := Schema.ofDeclaration_eq_ok_iff.mp valid
  have describesTarget := Schema.ofDeclaration_eq_ok_iff.mp validTarget
  constructor
  · intro permuted properties same alike
    have primary : (properties.filter (·.isPrimary)).Perm origin.primaryProperties := by
      rw [← alike.primary_eq]
      exact same.filter (·.isPrimary)
    obtain ⟨fields, sameFields, describesOther⟩ := describes.exists_perm primary
    exact ⟨_, Schema.ofDeclaration_eq_ok_iff.mpr describesOther,
      between_of_perm erase describes.nodup_fields sameFields⟩
  · intro order properties positions moved
    exact ⟨_, Schema.ofDeclaration_eq_ok_iff.mpr (describesTarget.rearrange positions moved),
      between_rearranged erase schema targetSchema order⟩

/-- The sample's target as an origin, with its properties in the other order and a computed property
before them, and as a target, with its fields in the other order. -/
theorem MappingFunction.between_follows_order_reversed :
    ∃ schema other reversed,
      Schema.ofDeclaration Manifest.sampleTarget = .ok schema ∧
      Schema.ofDeclaration { Manifest.sampleTarget with
        properties :=
          ⟨"total", none, none, true⟩ :: Manifest.sampleTarget.properties.reverse } = .ok other ∧
      (between false other schema).text = (between false schema schema).text ∧
      Schema.ofDeclaration { Manifest.sampleTarget with
        properties := Manifest.sampleTarget.properties.reverse } = .ok reversed ∧
      (between false schema reversed).parameters.map (·.name) = ["label", "id"] ∧
      (between false schema reversed).constructorArgs.map (·.value) =
        ["label(this.label)", "id(this.id)"] := by
  obtain ⟨schema, valid⟩ : ∃ schema, Schema.ofDeclaration Manifest.sampleTarget = .ok schema :=
    ⟨_, rfl⟩
  obtain ⟨ofOrigin, ofTarget⟩ := between_follows_order valid valid false
  obtain ⟨other, validOther, same⟩ := ofOrigin Manifest.sampleTarget.properties.reverse
    (⟨"total", none, none, true⟩ :: Manifest.sampleTarget.properties.reverse)
    (List.reverse_perm _) (.into (.inr rfl) (.refl _))
  obtain ⟨reversed, validReversed, moved⟩ := ofTarget [1, 0]
    Manifest.sampleTarget.properties.reverse (.swap 0 1 []) rfl
  refine ⟨schema, other, reversed, valid, validOther, by rw [same], validReversed, ?_, ?_⟩
  · rw [moved]
    cases valid
    rfl
  · rw [moved]
    cases valid
    rfl

end RecordMapper
