import RecordMapper.Json

/-!
# Shapes of JSON values

Readers that turn a JSON value into plain data, and the faults of a value that has another shape.
A record is written as an object, or as an array of its fields in their fixed order.
-/

namespace RecordMapper

/-- Why a JSON value does not have the expected shape. -/
inductive ShapeFault
  | wrongType (found : Json) (expected : String)
  | missingField (name : String)
  | unknownVariant (found : String) (variants : List String)
  | notOneEntry
  | tooShort (length : Nat) (record : String) (fields : Nat)
  | tooLong (length : Nat)
  | noVariant (type : String)
  deriving Repr

/-- A text between backquotes. -/
def backquoted (text : String) : String :=
  "`" ++ text ++ "`"

/-- The text of a fault. -/
def ShapeFault.message : ShapeFault → String
  | wrongType found expected => "invalid type: " ++ found.kindText ++ ", expected " ++ expected
  | missingField name => "missing field " ++ backquoted name
  | unknownVariant found variants =>
    "unknown variant " ++ backquoted found ++ ", expected one of "
      ++ ", ".intercalate (variants.map backquoted)
  | notOneEntry => "invalid value: map, expected map with a single key"
  | tooShort length record fields =>
    "invalid length " ++ toString length ++ ", expected struct " ++ record ++ " with "
      ++ toString fields ++ (if fields = 1 then " element" else " elements")
  | tooLong length =>
    "invalid length " ++ toString length ++ ", expected fewer elements in array"
  | noVariant type => "data did not match any variant of untagged enum " ++ type

namespace Json

/-- Reads a string. -/
def readString : Json → Except ShapeFault String
  | .string value => .ok value
  | found => .error (.wrongType found "a string")

/-- Reads a boolean. -/
def readBool : Json → Except ShapeFault Bool
  | .bool value => .ok value
  | found => .error (.wrongType found "a boolean")

/-- Reads the items of an array in turn, up to the first bad one. -/
def readList {α : Type} (readItem : Json → Except ShapeFault α) :
    Json → Except ShapeFault (List α)
  | .array items => items.mapM readItem
  | found => .error (.wrongType found "a sequence")

/-- Reads a value that may be null. -/
def readOption {α : Type} (readValue : Json → Except ShapeFault α) :
    Json → Except ShapeFault (Option α)
  | .null => .ok none
  | value => (readValue value).map some

/-- The variant with a name. The fault lists all of them. -/
def findVariant {α : Type} (variants : List (String × α)) (name : String) :
    Except ShapeFault α :=
  match variants.find? fun variant => variant.1 = name with
  | some variant => .ok variant.2
  | none => .error (.unknownVariant name (variants.map (·.1)))

/-- Reads one of several named variants: its name, or an object with the name as its only key and
null as the value. -/
def readVariant {α : Type} (variants : List (String × α)) : Json → Except ShapeFault α
  | .string name => findVariant variants name
  | .object [(name, value)] => do
    let variant ← findVariant variants name
    match value with
    | .null => .ok variant
    | found => .error (.wrongType found "unit")
  | .object _ => .error .notOneEntry
  | found => .error (.wrongType found "string or map")

/-- The form of a record: its name, and its fields in the order of the array form. -/
structure RecordForm where
  name : String
  fields : List String

namespace RecordForm

/-- The fault of a value that is no record of this form. -/
def wrongType {α : Type} (form : RecordForm) (found : Json) : Except ShapeFault α :=
  .error (.wrongType found ("struct " ++ form.name))

/-- The fault of a required field that is missing in an array. -/
def tooShort (form : RecordForm) (field : String) : ShapeFault :=
  .tooShort (form.fields.idxOf field) form.name form.fields.length

/-- Checks that an array does not have more items than the record has fields. -/
def checkLength {α : Type} (form : RecordForm) (items : List Json) (value : α) :
    Except ShapeFault α :=
  if form.fields.length < items.length then .error (.tooLong items.length) else .ok value

/-- Reads a record: the entries of an object, or the items of an array under the names of their
fields, are taken in one by one, and `finish` makes the record of what was found. It is given the
fault of a missing field. -/
def read {σ α : Type} (form : RecordForm) (empty : σ)
    (take : σ → String → Json → Except ShapeFault σ)
    (finish : (String → ShapeFault) → σ → Except ShapeFault α) :
    Json → Except ShapeFault α
  | .object entries => do
    let found ← entries.foldlM (fun found entry => take found entry.1 entry.2) empty
    finish .missingField found
  | .array items => do
    let entries := form.fields.zip items
    let found ← entries.foldlM (fun found entry => take found entry.1 entry.2) empty
    let value ← finish form.tooShort found
    form.checkLength items value
  | found => form.wrongType found

end RecordForm

/-- A required field, with the fault if it is missing. -/
def required {α : Type} (missing : String → ShapeFault) (field : String) :
    Option α → Except ShapeFault α
  | some value => .ok value
  | none => .error (missing field)

end Json

end RecordMapper
