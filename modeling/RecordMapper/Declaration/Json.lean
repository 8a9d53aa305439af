import RecordMapper.Declaration
import RecordMapper.DeclaredType.Json

/-!
# Declarations as JSON values

`Declaration.ofJson` reads a declaration and `Declaration.toJson` writes it. Fields other than the
names and the kind have defaults; `toJson` leaves out what is absent and writes every other field.
-/

namespace RecordMapper

open RecordMapper.Json

/-- The kinds with their names, in the order in which faults list them. -/
def DeclarationKind.names : List (String × DeclarationKind) :=
  [("class", .plainClass), ("interface", .interface), ("enum_class", .enumClass),
    ("enum_entry", .enumEntry), ("object", .object), ("annotation_class", .annotationClass)]

/-- The name that a kind is written with. -/
def DeclarationKind.name : DeclarationKind → String
  | plainClass => "class"
  | interface => "interface"
  | enumClass => "enum_class"
  | enumEntry => "enum_entry"
  | object => "object"
  | annotationClass => "annotation_class"

/-- The entry of a field that may be absent. -/
def optionalEntry {α : Type} (key : String) (write : α → Json) :
    Option α → List (String × Json)
  | none => []
  | some value => [(key, write value)]

/-! ## Properties -/

namespace Property

/-- The fields of a property, in their order. -/
def form : RecordForm :=
  ⟨"PropertyDecl", ["name", "type", "receiver", "computed"]⟩

/-- What was found of a property so far. -/
structure Parts where
  name? : Option String
  type? : Option DeclaredType
  receiver? : Option DeclaredType
  computed : Bool

/-- Takes the value of one field. Unknown fields are skipped. -/
def take (parts : Parts) (field : String) (value : Json) : Except ShapeFault Parts :=
  if field = "name" then do
    let name ← readString value
    return { parts with name? := some name }
  else if field = "type" then do
    let type? ← readOption DeclaredType.ofJson value
    return { parts with type? := type? }
  else if field = "receiver" then do
    let receiver? ← readOption DeclaredType.ofJson value
    return { parts with receiver? := receiver? }
  else if field = "computed" then do
    let computed ← readBool value
    return { parts with computed := computed }
  else return parts

/-- The property of its parts. Only the name has to be among them. -/
def ofParts (missing : String → ShapeFault) (parts : Parts) : Except ShapeFault Property := do
  let name ← required missing "name" parts.name?
  return ⟨name, parts.type?, parts.receiver?, parts.computed⟩

/-- Reads a property. -/
def ofJson : Json → Except ShapeFault Property :=
  form.read ⟨none, none, none, false⟩ take ofParts

/-- Writes a property. A type or a receiver that is absent has no entry. -/
def toJson (property : Property) : Json :=
  .object (("name", .string property.name)
    :: optionalEntry "type" DeclaredType.toJson property.type?
    ++ optionalEntry "receiver" DeclaredType.toJson property.receiver?
    ++ [("computed", .bool property.computed)])

end Property

/-! ## Mappers -/

namespace Mapper

/-- The only field of a mapper. -/
def form : RecordForm :=
  ⟨"MapperMarker", ["target"]⟩

/-- Takes the value of one field. Unknown fields are skipped. -/
def take (target? : Option String) (field : String) (value : Json) :
    Except ShapeFault (Option String) :=
  if field = "target" then (readString value).map some else .ok target?

/-- Reads a mapper as the name of its target. -/
def ofJson : Json → Except ShapeFault String :=
  form.read none take fun missing => required missing "target"

/-- Writes the mapper to a target. -/
def toJson (target : String) : Json :=
  .object [("target", .string target)]

end Mapper

/-! ## Declarations -/

namespace Declaration

/-- The fields of a declaration, in their order. -/
def form : RecordForm :=
  ⟨"Declaration", ["qualified_name", "simple_name", "kind", "modifiers", "type_params",
    "properties", "mappers"]⟩

/-- What was found of a declaration so far. -/
structure Parts where
  qualifiedName? : Option String
  simpleName? : Option String
  kind? : Option DeclarationKind
  modifiers : List String
  typeParams : List String
  properties : List Property
  mappers : List String

/-- Nothing is found yet. The lists have empty defaults. -/
def Parts.empty : Parts :=
  ⟨none, none, none, [], [], [], []⟩

/-- Takes the value of one field. Unknown fields are skipped. -/
def take (parts : Parts) (field : String) (value : Json) : Except ShapeFault Parts :=
  if field = "qualified_name" then do
    let name ← readString value
    return { parts with qualifiedName? := some name }
  else if field = "simple_name" then do
    let name? ← readOption readString value
    return { parts with simpleName? := name? }
  else if field = "kind" then do
    let kind ← readVariant DeclarationKind.names value
    return { parts with kind? := some kind }
  else if field = "modifiers" then do
    let modifiers ← readList readString value
    return { parts with modifiers := modifiers }
  else if field = "type_params" then do
    let typeParams ← readList readString value
    return { parts with typeParams := typeParams }
  else if field = "properties" then do
    let properties ← readList Property.ofJson value
    return { parts with properties := properties }
  else if field = "mappers" then do
    let mappers ← readList Mapper.ofJson value
    return { parts with mappers := mappers }
  else return parts

/-- The declaration of its parts. The qualified name and the kind have to be among them. -/
def ofParts (missing : String → ShapeFault) (parts : Parts) : Except ShapeFault Declaration := do
  let qualifiedName ← required missing "qualified_name" parts.qualifiedName?
  let kind ← required missing "kind" parts.kind?
  return {
    qualifiedName := qualifiedName
    simpleName? := parts.simpleName?
    kind := kind
    modifiers := parts.modifiers
    typeParams := parts.typeParams
    properties := parts.properties
    mappers := parts.mappers }

/-- Reads a declaration. -/
def ofJson : Json → Except ShapeFault Declaration :=
  form.read .empty take ofParts

/-- Writes a declaration. A simple name that is absent has no entry. -/
def toJson (declaration : Declaration) : Json :=
  .object (("qualified_name", .string declaration.qualifiedName)
    :: optionalEntry "simple_name" Json.string declaration.simpleName?
    ++ [("kind", .string declaration.kind.name),
      ("modifiers", .array (declaration.modifiers.map Json.string)),
      ("type_params", .array (declaration.typeParams.map Json.string)),
      ("properties", .array (declaration.properties.map Property.toJson)),
      ("mappers", .array (declaration.mappers.map Mapper.toJson))])

end Declaration

end RecordMapper
