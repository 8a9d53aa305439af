import RecordMapper.Schema.OfDeclaration

/-!
# Accessors

A property that has a receiver or is computed is an accessor and no part of the record. Validation
never looks at accessors or at markers: declarations that differ in nothing else give the same
schema, or are rejected for the same reason (`Schema.ofDeclaration_of_sameRecord`).
-/

namespace RecordMapper

/-- A property that extends another type or stores nothing. -/
def Property.IsAccessor (property : Property) : Prop :=
  property.receiver? ≠ none ∨ property.computed = true

theorem Property.isPrimary_eq_false_iff {property : Property} :
    property.isPrimary = false ↔ property.IsAccessor := by
  rw [isPrimary, IsAccessor, Bool.and_eq_false_iff, Bool.not_eq_false', Option.isNone_eq_false_iff,
    Option.isSome_iff_ne_none]

/-- Lists of properties of which the second comes from the first by putting accessors in and taking
accessors out, anywhere and in any number. An accessor is altered by taking it out and putting
another one in. -/
inductive SameButAccessors : List Property → List Property → Prop
  | nil : SameButAccessors [] []
  | keep {first second : List Property} (property : Property) :
      SameButAccessors first second → SameButAccessors (property :: first) (property :: second)
  | out {first second : List Property} {accessor : Property} : accessor.IsAccessor →
      SameButAccessors first second → SameButAccessors (accessor :: first) second
  | into {first second : List Property} {accessor : Property} : accessor.IsAccessor →
      SameButAccessors first second → SameButAccessors first (accessor :: second)

theorem SameButAccessors.refl (properties : List Property) :
    SameButAccessors properties properties := by
  induction properties with
  | nil => exact .nil
  | cons property rest ih => exact .keep property ih

/-- Without accessors the two lists are the same. -/
theorem SameButAccessors.primary_eq {first second : List Property}
    (same : SameButAccessors first second) :
    first.filter (·.isPrimary) = second.filter (·.isPrimary) := by
  induction same with
  | nil => rfl
  | keep property _ ih => rw [List.filter_cons, List.filter_cons, ih]
  | out accessor _ ih =>
      rw [List.filter_cons_of_neg (by simp [Property.isPrimary_eq_false_iff.mpr accessor]), ih]
  | into accessor _ ih =>
      rw [List.filter_cons_of_neg (by simp [Property.isPrimary_eq_false_iff.mpr accessor]), ih]

/-- Declarations that differ in markers and accessors only. -/
structure Declaration.SameRecord (first second : Declaration) : Prop where
  qualifiedName : first.qualifiedName = second.qualifiedName
  simpleName? : first.simpleName? = second.simpleName?
  kind : first.kind = second.kind
  modifiers : first.modifiers = second.modifiers
  typeParams : first.typeParams = second.typeParams
  properties : SameButAccessors first.properties second.properties

/-- **Validation looks at no accessor and no marker.** -/
theorem Schema.ofDeclaration_of_sameRecord {first second : Declaration}
    (same : first.SameRecord second) : ofDeclaration first = ofDeclaration second := by
  obtain ⟨qualifiedName, simpleName?, kind, modifiers, typeParams, properties, mappers⟩ := first
  obtain ⟨otherName, otherSimple, otherKind, otherModifiers, otherParams, others, otherMappers⟩ :=
    second
  obtain ⟨rfl, rfl, rfl, rfl, rfl, alike⟩ := same
  have primary : properties.filter (·.isPrimary) = others.filter (·.isPrimary) := alike.primary_eq
  unfold ofDeclaration Declaration.schemaOrFault Declaration.primaryProperties
  rw [primary]
  rfl

end RecordMapper
