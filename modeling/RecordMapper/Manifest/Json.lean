import RecordMapper.Declaration.Json
import RecordMapper.Diagnostic
import RecordMapper.Json.Reader
import RecordMapper.Manifest
import RecordMapper.Text.Blank

/-!
# Manifest files

`Manifest.read` reads the bytes of a manifest file. The checks come in this order: the JSON syntax,
the version, the shape of the declarations, and then, declaration by declaration, that the qualified
name is neither blank nor a repetition. `Manifest.toJson` writes a manifest.
-/

namespace RecordMapper

open RecordMapper.Json RecordMapper.Text

/-- Why a manifest is refused. -/
inductive ManifestFault
  | notJson (fault : PlacedFault)
  | missingVersion
  | wrongVersion (found : String)
  | badShape (fault : ShapeFault)
  | blankName (index : Nat)
  | duplicateName (index : Nat) (name : String) (first : Nat)
  deriving Repr

namespace ManifestFault

/-- The text of a fault, without its place. -/
def message : ManifestFault → String
  | notJson fault => fault.message
  | missingVersion => "missing string schema_version"
  | wrongVersion found =>
    "schema_version mismatch: expected " ++ Manifest.currentVersion ++ " got " ++ quote found
  | badShape fault => fault.message
  | blankName _ => "qualified_name must not be empty"
  | duplicateName _ name first =>
    "duplicate declaration " ++ quote name ++ " (first at /declarations/" ++ toString first ++ ")"

/-- The place in the document that the fault is about. -/
def pointer : ManifestFault → String
  | notJson _ => ""
  | missingVersion | wrongVersion _ => "/schema_version"
  | badShape _ => "/declarations"
  | blankName index | duplicateName index _ _ =>
    "/declarations/" ++ toString index ++ "/qualified_name"

/-- The text of a fault with the pointer to its place. -/
def text (fault : ManifestFault) : String :=
  fault.message ++ " at " ++ quote fault.pointer

/-- The diagnostic of a refused manifest, which is named by `subject`. -/
def diagnostic (subject : String) (fault : ManifestFault) : Diagnostic :=
  .ofCode .manifestParseError subject fault.text

end ManifestFault

namespace Manifest

/-- The version that a document names, if it names one by a string. -/
def version? : Json → Option String
  | .object entries =>
    match lookup? "schema_version" entries with
    | some (.string version) => some version
    | _ => none
  | _ => none

/-- What was found of a manifest so far. -/
structure Parts where
  schemaVersion? : Option String
  declarations? : Option (List Declaration)

/-- Takes the value of one field. Unknown fields are skipped. -/
def take (parts : Parts) (field : String) (value : Json) : Except ShapeFault Parts :=
  if field = "schema_version" then do
    let version ← readString value
    return { parts with schemaVersion? := some version }
  else if field = "declarations" then do
    let declarations ← readList Declaration.ofJson value
    return { parts with declarations? := some declarations }
  else return parts

/-- The manifest of its parts. Both of them have to be there. -/
def ofParts (missing : String → ShapeFault) (parts : Parts) : Except ShapeFault Manifest := do
  let version ← required missing "schema_version" parts.schemaVersion?
  let declarations ← required missing "declarations" parts.declarations?
  return ⟨version, declarations⟩

/-- The fields of a manifest, in their order. -/
def form : RecordForm :=
  ⟨"DeclarationSet", ["schema_version", "declarations"]⟩

/-- Reads a manifest without looking at the names in it. -/
def ofJson : Json → Except ShapeFault Manifest :=
  form.read ⟨none, none⟩ take ofParts

/-- Writes a manifest. -/
def toJson (manifest : Manifest) : Json :=
  .object [("schema_version", .string manifest.schemaVersion),
    ("declarations", .array (manifest.declarations.map Declaration.toJson))]

/-- The first declaration whose name is blank or occurs earlier. The declarations before position
`index` have the names in `earlier`, each with its position. -/
def nameFaultAfter (index : Nat) (earlier : List (String × Nat)) :
    List Declaration → Option ManifestFault
  | [] => none
  | declaration :: rest =>
    let name := declaration.qualifiedName
    if isBlankText name then some (.blankName index)
    else
      match earlier.lookup name with
      | some first => some (.duplicateName index name first)
      | none => nameFaultAfter (index + 1) ((name, index) :: earlier) rest

/-- The first declaration whose name is blank or occurs earlier. -/
def nameFault? (manifest : Manifest) : Option ManifestFault :=
  nameFaultAfter 0 [] manifest.declarations

/-- Accepts a document. Its version is checked first, without the space around it, then its shape,
then the names of the declarations. -/
def ofDocument (document : Json) : Except ManifestFault Manifest :=
  match version? document with
  | none => .error .missingVersion
  | some version =>
    if trim version ≠ currentVersion then .error (.wrongVersion version)
    else
      match ofJson document with
      | .error fault => .error (.badShape fault)
      | .ok manifest =>
        match manifest.nameFault? with
        | some fault => .error fault
        | none => .ok manifest

/-- Reads the bytes of a manifest file. -/
def read (bytes : List UInt8) : Except ManifestFault Manifest :=
  match Json.read bytes with
  | .error fault => .error (.notJson fault)
  | .ok document => ofDocument document

end Manifest

end RecordMapper
