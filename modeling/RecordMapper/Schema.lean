import RecordMapper.ResolvedType

/-!
# Schemas

A schema is a validated record declaration: a plain class whose fields all have resolved types.
-/

namespace RecordMapper

/-- A field of a record. -/
structure Field where
  name : String
  type : ResolvedType
  deriving Repr

/-- A validated record. -/
structure Schema where
  qualifiedName : String
  simpleName : String
  fields : List Field
  deriving Repr

/-- The first field with a name. -/
def Schema.field? (schema : Schema) (name : String) : Option Field :=
  schema.fields.find? fun field => field.name = name

end RecordMapper
