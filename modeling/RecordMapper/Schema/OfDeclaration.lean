import RecordMapper.Declaration
import RecordMapper.Schema
import RecordMapper.ResolvedType.OfDeclared

/-!
# Validating declarations

`Schema.ofDeclaration` turns a plain record declaration into a schema, or gives the first reason
why it cannot take part in a mapping. The checks run in a fixed order: the record rules, the two
names of the declaration, then each primary property in turn. Other properties are never looked at.
-/

namespace RecordMapper

open RecordMapper.Text

/-- Why a declaration is not a plain record. -/
inductive RecordFault
  | interface
  | enumeration
  | object
  | annotationType
  | notData
  | generic (typeParams : List String)
  deriving DecidableEq, Repr

/-- Why a property has no usable type. -/
inductive PropertyTypeFault
  | missing (property : String)
  | unresolved (error : ResolveError)
  deriving DecidableEq, Repr

/-- Why a name is not one that generated code can hold. -/
inductive NameFault
  | identifier (fault : Identifier.Fault)
  | qualified (fault : QualifiedName.Fault)
  deriving DecidableEq, Repr

/-- Why a declaration cannot take part in a mapping. -/
inductive SchemaFault
  | notARecord (fault : RecordFault)
  | invalidName (name : String) (fault : NameFault)
  | duplicateField (field : String)
  | unresolvableField (field : String) (fault : PropertyTypeFault)
  deriving DecidableEq, Repr

/-- A rejected declaration and the reason. -/
structure Rejection where
  qualifiedName : String
  fault : SchemaFault
  deriving DecidableEq, Repr

/-- The text of a broken record rule. -/
def RecordFault.message : RecordFault → String
  | interface => "interfaces have no fields"
  | enumeration => "enums cannot be constructed"
  | object => "objects cannot be constructed"
  | annotationType => "annotation classes cannot be constructed"
  | notData => "class is missing the `data` modifier"
  | generic typeParams =>
    "generic declarations cannot be mapped (type params: " ++ ", ".intercalate typeParams ++ ")"

/-- The text of a fault of a type. -/
def PropertyTypeFault.message : PropertyTypeFault → String
  | missing property => "property " ++ quote property ++ " has no resolved type"
  | unresolved error => error.message

/-- The offending place inside the property. -/
def PropertyTypeFault.pointer : PropertyTypeFault → String
  | missing _ => "type"
  | unresolved error => error.pointer "type"

/-- The text of a fault of a name. -/
def NameFault.message (name : String) : NameFault → String
  | identifier fault => fault.message name
  | qualified fault => fault.message name

/-- The text of a rejection, with the name of the declaration. -/
def Rejection.message (rejection : Rejection) : String :=
  match rejection.fault with
  | .notARecord fault => rejection.qualifiedName ++ " is not a data class: " ++ fault.message
  | .invalidName name fault =>
    rejection.qualifiedName ++ " has an invalid name " ++ quote name ++ ": " ++ fault.message name
  | .duplicateField field =>
    rejection.qualifiedName ++ " declares field " ++ quote field ++ " more than once"
  | .unresolvableField field fault =>
    "cannot resolve type of " ++ rejection.qualifiedName ++ "." ++ field ++ ": "
      ++ fault.message ++ " at " ++ fault.pointer

/-- The first record rule that the declaration breaks. -/
def Declaration.recordFault? (declaration : Declaration) : Option RecordFault :=
  match declaration.kind with
  | .interface => some .interface
  | .enumClass | .enumEntry => some .enumeration
  | .object => some .object
  | .annotationClass => some .annotationType
  | .plainClass =>
    if !declaration.isData then some .notData
    else if !declaration.typeParams.isEmpty then some (.generic declaration.typeParams)
    else none

/-- The first of the declaration's two names that generated code cannot hold. -/
def Declaration.nameFault? (declaration : Declaration) : Option SchemaFault :=
  match QualifiedName.fault? declaration.qualifiedName with
  | some fault => some (.invalidName declaration.qualifiedName (.qualified fault))
  | none =>
    (Identifier.fault? declaration.simpleName).map fun fault =>
      .invalidName declaration.simpleName (.identifier fault)

/-- The resolved type of a property. -/
def Property.resolveType (property : Property) : Except PropertyTypeFault ResolvedType :=
  match property.type? with
  | none => .error (.missing property.name)
  | some type =>
    match type.resolve with
    | .error error => .error (.unresolved error)
    | .ok resolved => .ok resolved

/-- The field of a property that comes after the properties named in `earlier`: its name has to be a
new identifier and its type has to resolve, checked in this order. -/
def Property.field (earlier : List String) (property : Property) : Except SchemaFault Field :=
  match Identifier.fault? property.name with
  | some fault => .error (.invalidName property.name (.identifier fault))
  | none =>
    if earlier.contains property.name then .error (.duplicateField property.name)
    else
      match property.resolveType with
      | .error fault => .error (.unresolvableField property.name fault)
      | .ok type => .ok ⟨property.name, type⟩

/-- The fields of properties that come after the properties named in `earlier`. -/
def fieldsAfter (earlier : List String) : List Property → Except SchemaFault (List Field)
  | [] => .ok []
  | property :: rest =>
    match property.field earlier with
    | .error fault => .error fault
    | .ok field =>
      match fieldsAfter (property.name :: earlier) rest with
      | .error fault => .error fault
      | .ok fields => .ok (field :: fields)

/-- The schema of a declaration, or the first fault. -/
def Declaration.schemaOrFault (declaration : Declaration) : Except SchemaFault Schema :=
  match declaration.recordFault? with
  | some fault => .error (.notARecord fault)
  | none =>
    match declaration.nameFault? with
    | some fault => .error fault
    | none =>
      match fieldsAfter [] declaration.primaryProperties with
      | .error fault => .error fault
      | .ok fields => .ok ⟨declaration.qualifiedName, declaration.simpleName, fields⟩

/-- Validates a declaration. -/
def Schema.ofDeclaration (declaration : Declaration) : Except Rejection Schema :=
  match declaration.schemaOrFault with
  | .error fault => .error ⟨declaration.qualifiedName, fault⟩
  | .ok schema => .ok schema

end RecordMapper
