import RecordMapper.Schema

/-!
# Matching fields

For each field of a target record, where its value comes from: from the origin field of the same
name through a transform, or from the caller.
-/

namespace RecordMapper

/-- How a target field gets its value. -/
inductive FieldSource
  /-- No origin field has the name; the caller passes the value. -/
  | direct (target : Field)
  /-- The caller passes a function from the origin field's type to the target field's type. It may
  be left out if it can be the identity. -/
  | transform (origin target : Field) (identityDefault : Bool)
  deriving Repr

/-- The target field that a source is for. -/
def FieldSource.target : FieldSource → Field
  | direct target => target
  | transform _ target _ => target

/-- The source of one target field. The identity is offered if both types have the same head. -/
def Schema.sourceOf (origin : Schema) (target : Field) : FieldSource :=
  match origin.field? target.name with
  | some field => .transform field target (field.type.sameHead target.type)
  | none => .direct target

/-- The sources of all target fields, in target field order. -/
def Schema.sources (origin target : Schema) : List FieldSource :=
  target.fields.map origin.sourceOf

end RecordMapper
