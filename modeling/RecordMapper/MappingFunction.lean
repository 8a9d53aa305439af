import RecordMapper.Matching
import RecordMapper.ResolvedType.Spelling

/-!
# Mapping functions

A mapping function is attached to the origin record and builds the target record. It has one
parameter and one constructor argument per target field. `MappingFunction.text` is its source text,
`fileHeader` the text before the first function of a file.
-/

namespace RecordMapper

/-- What a parameter takes. -/
inductive ParameterKind
  /-- A value that is passed on unchanged. -/
  | value (type : String)
  /-- A function that is applied to the origin field of the same name. -/
  | transform (source result : String) (identityDefault : Bool)
  deriving DecidableEq, Repr

/-- A parameter of a mapping function. -/
structure Parameter where
  name : String
  kind : ParameterKind
  deriving DecidableEq, Repr

namespace Parameter

/-- The type of a parameter as it is written. A transform takes a function. -/
def typeText (parameter : Parameter) : String :=
  match parameter.kind with
  | .value type => type
  | .transform source result _ => "(" ++ source ++ ") -> " ++ result

/-- The default of a transform between types of the same head. -/
def identityText : String :=
  "\x7b it \x7d"

/-- The text of the parameter's default, if it has one. -/
def default? (parameter : Parameter) : Option String :=
  match parameter.kind with
  | .transform _ _ true => some identityText
  | _ => none

/-- The line of a parameter, with its default if it has one. -/
def line (parameter : Parameter) : String :=
  "    " ++ parameter.name ++ ": " ++ parameter.typeText
    ++ (match parameter.default? with
      | some text => " = " ++ text
      | none => "")
    ++ ",\n"

end Parameter

/-- An argument of the constructor call. -/
structure ConstructorArg where
  field : String
  value : String
  deriving DecidableEq, Repr

/-- The line of an argument. -/
def ConstructorArg.line (arg : ConstructorArg) : String :=
  "    " ++ arg.field ++ " = " ++ arg.value ++ ",\n"

/-- A function from an origin record to a target record. The return type is also the constructor
that the function calls. -/
structure MappingFunction where
  name : String
  receiver : String
  parameters : List Parameter
  returnType : String
  constructorArgs : List ConstructorArg
  deriving DecidableEq, Repr

/-- The parameter for a target field: its value, or a transform of the origin field. -/
def FieldSource.parameter (erase : Bool) : FieldSource → Parameter
  | direct target => ⟨target.name, .value (target.type.render erase)⟩
  | transform origin target identityDefault =>
    ⟨target.name,
      .transform (origin.type.render erase) (target.type.render erase) identityDefault⟩

/-- The argument for a target field: the parameter itself, or its result on the origin field. -/
def FieldSource.constructorArg : FieldSource → ConstructorArg
  | direct target => ⟨target.name, target.name⟩
  | transform origin target _ => ⟨target.name, target.name ++ "(this." ++ origin.name ++ ")"⟩

/-- The name of a function that builds the target record. -/
def Schema.mappingName (target : Schema) : String :=
  "mapTo" ++ target.simpleName

namespace MappingFunction

/-- The function from `origin` to `target` whose fields have the given sources. -/
def ofSources (erase : Bool) (origin target : Schema) (sources : List FieldSource) :
    MappingFunction where
  name := target.mappingName
  receiver := origin.qualifiedName
  parameters := sources.map (·.parameter erase)
  returnType := target.qualifiedName
  constructorArgs := sources.map (·.constructorArg)

/-- The function from `origin` to `target`. -/
def between (erase : Bool) (origin target : Schema) : MappingFunction :=
  ofSources erase origin target (origin.sources target)

/-- The first parameter with a name. -/
def parameter? (function : MappingFunction) (name : String) : Option Parameter :=
  function.parameters.find? fun parameter => parameter.name = name

/-- The source text of the function, with the blank line after it. -/
def text (function : MappingFunction) : String :=
  "inline fun " ++ function.receiver ++ "." ++ function.name ++ "(\n"
    ++ String.join (function.parameters.map (·.line))
    ++ ") = " ++ function.returnType ++ "(\n"
    ++ String.join (function.constructorArgs.map (·.line))
    ++ ")\n\n"

end MappingFunction

/-- The text at the start of a generated file. -/
def fileHeader (package : String) : String :=
  "package " ++ package ++ "\n\n"

end RecordMapper
