import RecordMapper.DeclaredType
import RecordMapper.Json.Shape

/-!
# Declared types as JSON values

`DeclaredType.ofJson` reads a type and `DeclaredType.toJson` writes it. The entries of an object
are taken in order, so the first bad one is reported; a missing name is reported after that.
Unknown keys are skipped.
-/

namespace RecordMapper

open RecordMapper.Json

/-- The variances with their names, in the order in which faults list them. -/
def DeclaredVariance.names : List (String × DeclaredVariance) :=
  [("invariant", .invariant), ("out", .outward), ("in", .inward), ("star", .star)]

/-- The name that a variance is written with. -/
def DeclaredVariance.keyword : DeclaredVariance → String
  | invariant => "invariant"
  | outward => "out"
  | inward => "in"
  | star => "star"

/-- What was found of a type so far. -/
structure TypeParts where
  name? : Option String
  args : List DeclaredArg
  nullable : Bool

/-- What was found of a projection so far. -/
structure ProjectionParts where
  variance : DeclaredVariance
  type? : Option DeclaredType

namespace DeclaredType

/-- The fields of a type, in their order. -/
def form : RecordForm :=
  ⟨"TypeExpr", ["name", "args", "nullable"]⟩

/-- The type of its parts. Only the name has to be among them. -/
def ofParts (missing : String → ShapeFault) (parts : TypeParts) :
    Except ShapeFault DeclaredType := do
  let name ← required missing "name" parts.name?
  return ⟨name, parts.args, parts.nullable⟩

mutual

/-- Reads a type from an object, or from an array with the values of the fields in order. -/
def ofJson : Json → Except ShapeFault DeclaredType
  | .object entries => do
    let parts ← takeEntries ⟨none, [], false⟩ entries
    ofParts .missingField parts
  | .array items => do
    let parts ← takeItems form.fields ⟨none, [], false⟩ items
    let type ← ofParts form.tooShort parts
    form.checkLength items type
  | found => form.wrongType found

/-- Takes the entries of an object in turn. -/
def takeEntries (parts : TypeParts) : List (String × Json) → Except ShapeFault TypeParts
  | [] => .ok parts
  | (key, value) :: rest => do
    let next ← take parts key value
    takeEntries next rest

/-- Takes the items of an array as the values of the fields. Items for which there is no field are
left alone. -/
def takeItems (fields : List String) (parts : TypeParts) :
    List Json → Except ShapeFault TypeParts
  | [] => .ok parts
  | value :: rest =>
    match fields with
    | [] => .ok parts
    | field :: others => do
      let next ← take parts field value
      takeItems others next rest

/-- Takes the value of one field. Unknown fields are skipped. -/
def take (parts : TypeParts) (field : String) (value : Json) : Except ShapeFault TypeParts :=
  if field = "name" then do
    let name ← readString value
    return { parts with name? := some name }
  else if field = "args" then
    match value with
    | .array items => do
      let args ← argsOfJson items
      return { parts with args := args }
    | found => .error (.wrongType found "a sequence")
  else if field = "nullable" then do
    let nullable ← readBool value
    return { parts with nullable := nullable }
  else return parts

/-- Reads arguments in turn, up to the first bad one. -/
def argsOfJson : List Json → Except ShapeFault (List DeclaredArg)
  | [] => .ok []
  | item :: rest => do
    let arg ← argOfJson item
    let others ← argsOfJson rest
    return arg :: others

/-- Reads an argument: a string, or an object with a variance and a type. Whatever is wrong with it,
the fault is that it is neither. -/
def argOfJson : Json → Except ShapeFault DeclaredArg
  | .string text => .ok (.shorthand text)
  | .object entries =>
    match takeProjection ⟨.invariant, none⟩ entries with
    | .ok parts => .ok (.projection parts.variance parts.type?)
    | .error _ => .error (.noVariant "TypeArgExpr")
  | _ => .error (.noVariant "TypeArgExpr")

/-- Takes the entries of a projection in turn. A type that is null counts as absent. -/
def takeProjection (parts : ProjectionParts) :
    List (String × Json) → Except ShapeFault ProjectionParts
  | [] => .ok parts
  | (key, value) :: rest => do
    let next ←
      if key = "variance" then do
        let variance ← readVariant DeclaredVariance.names value
        pure { parts with variance := variance }
      else if key = "type" then do
        let type? ←
          match value with
          | .null => pure none
          | found => (ofJson found).map some
        pure { parts with type? := type? }
      else pure parts
    takeProjection next rest

end

mutual

/-- Writes a type with all its fields. -/
def toJson : DeclaredType → Json
  | ⟨name, args, nullable⟩ =>
    .object [("name", .string name), ("args", .array (argsToJson args)),
      ("nullable", .bool nullable)]

/-- Writes arguments in turn. -/
def argsToJson : List DeclaredArg → List Json
  | [] => []
  | arg :: rest => argToJson arg :: argsToJson rest

/-- Writes an argument. A projection without a type has no entry for it. -/
def argToJson : DeclaredArg → Json
  | .shorthand text => .string text
  | .projection variance none => .object [("variance", .string variance.keyword)]
  | .projection variance (some type) =>
    .object [("variance", .string variance.keyword), ("type", type.toJson)]

end

end DeclaredType

end RecordMapper
