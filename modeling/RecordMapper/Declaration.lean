import RecordMapper.DeclaredType
import RecordMapper.Name.Qualified

/-!
# Declarations

A declaration is a class, or something like a class, as the manifest describes it: its names, its
modifiers and type parameters, its properties, and the targets it is to be mapped to.
-/

namespace RecordMapper

/-- What a declaration declares. -/
inductive DeclarationKind
  | plainClass
  | interface
  | enumClass
  | enumEntry
  | object
  | annotationClass
  deriving DecidableEq, Repr

/-- A property of a declaration. The type is missing if it could not be found out. A property with a
receiver extends another type, and a computed property stores nothing. -/
structure Property where
  name : String
  type? : Option DeclaredType
  receiver? : Option DeclaredType
  computed : Bool
  deriving Repr

/-- A primary property is part of the record: it has no receiver and is not computed. -/
def Property.isPrimary (property : Property) : Bool :=
  property.receiver?.isNone && !property.computed

/-- A declaration of the manifest. `mappers` holds the names of the mapping targets. -/
structure Declaration where
  qualifiedName : String
  simpleName? : Option String
  kind : DeclarationKind
  modifiers : List String
  typeParams : List String
  properties : List Property
  mappers : List String
  deriving Repr

namespace Declaration

/-- The declared simple name; if there is none, the last segment of the qualified name. -/
def simpleName (declaration : Declaration) : String :=
  declaration.simpleName?.getD (QualifiedName.lastSegment declaration.qualifiedName)

/-- Whether the declaration has the modifier of a record. -/
def isData (declaration : Declaration) : Bool :=
  declaration.modifiers.contains "data"

/-- The properties that are part of the record, in declaration order. -/
def primaryProperties (declaration : Declaration) : List Property :=
  declaration.properties.filter (·.isPrimary)

end Declaration

end RecordMapper
