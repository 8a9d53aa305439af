import RecordMapper.Proofs.Declaration.Accessors
import RecordMapper.Proofs.Lookup
import RecordMapper.Proofs.Outcome.Emitted
import RecordMapper.Proofs.ResolvedType.WellFormed

/-!
# The function of a candidate

The function of a candidate, read against the declarations it comes from. It has one parameter and
one constructor argument per primary property of the target. What they are depends on whether the
origin has a primary property of the same name (`Manifest.emitted_function_fields`).
-/

namespace RecordMapper

/-! ## Fields and properties -/

/-- The field at the place of a property is the one that the property gives. -/
theorem Property.exists_field {properties : List Property} {fields : List Field}
    (gives : List.Forall₂ Property.Gives properties fields) {index : Nat} {property : Property}
    (there : properties[index]? = some property) :
    ∃ field, fields[index]? = some field ∧ property.Gives field := by
  induction gives generalizing index with
  | nil => simp at there
  | @cons first field rest others givesFirst _ ih =>
      cases index with
      | zero =>
          obtain rfl : first = property := by simpa using there
          exact ⟨field, rfl, givesFirst⟩
      | succ index => exact ih (by simpa using there)

theorem Property.exists_field_of_mem {properties : List Property} {fields : List Field}
    (gives : List.Forall₂ Property.Gives properties fields) {property : Property}
    (listed : property ∈ properties) : ∃ field ∈ fields, property.Gives field := by
  obtain ⟨index, there⟩ := List.mem_iff_getElem?.mp listed
  obtain ⟨field, given, givesField⟩ := exists_field gives there
  exact ⟨field, List.mem_of_getElem? given, givesField⟩

theorem Property.map_name_eq {properties : List Property} {fields : List Field}
    (gives : List.Forall₂ Property.Gives properties fields) :
    fields.map (·.name) = properties.map (·.name) := by
  induction gives with
  | nil => rfl
  | cons givesFirst _ ih => rw [List.map_cons, List.map_cons, ih, givesFirst.name]

theorem Declaration.Describes.nodup_fields {declaration : Declaration} {schema : Schema}
    (describes : declaration.Describes schema) : (schema.fields.map (·.name)).Nodup := by
  rw [Property.map_name_eq describes.fields]
  exact describes.distinct

end RecordMapper
