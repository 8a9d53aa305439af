import RecordMapper.Schema.OfDeclaration

/-!
# Diagnostics

A diagnostic is a stable code with a subject and a message. Each code belongs to a phase and may
come with a help text. The catalog is a table of all codes.
-/

namespace RecordMapper

/-- The step of a run in which a problem shows. -/
inductive Phase
  | parse
  | resolve
  | validate
  deriving DecidableEq, Repr

/-- How grave a problem is. -/
inductive Severity
  | error
  deriving DecidableEq, Repr

/-- The kinds of problem that are reported. -/
inductive DiagnosticCode
  | manifestParseError
  | originNotARecord
  | targetNotARecord
  | unresolvableField
  | duplicateField
  | unknownDeclaration
  | invalidName
  deriving DecidableEq, Repr

/-- A problem with one declaration or with the manifest. -/
structure Diagnostic where
  code : DiagnosticCode
  phase : Phase
  severity : Severity
  subject : String
  message : String
  help? : Option String
  deriving DecidableEq, Repr

/-- The word for a phase. -/
def Phase.label : Phase → String
  | parse => "Parse"
  | resolve => "Resolve"
  | validate => "Validate"

/-- The word for a severity. -/
def Severity.label : Severity → String
  | error => "Error"

namespace DiagnosticCode

/-- All codes, in ascending order of their identifiers. -/
def all : List DiagnosticCode :=
  [manifestParseError, originNotARecord, targetNotARecord, unresolvableField, duplicateField,
    unknownDeclaration, invalidName]

/-- The short form of a code, for the command line. -/
def identifier : DiagnosticCode → String
  | manifestParseError => "MM0001"
  | originNotARecord => "MM0100"
  | targetNotARecord => "MM0101"
  | unresolvableField => "MM0110"
  | duplicateField => "MM0120"
  | unknownDeclaration => "MM0130"
  | invalidName => "MM0140"

/-- The long form of a code, for report files. -/
def longIdentifier (code : DiagnosticCode) : String :=
  code.identifier ++ match code with
    | manifestParseError => "ManifestParseError"
    | originNotARecord => "OriginNotARecord"
    | targetNotARecord => "TargetNotARecord"
    | unresolvableField => "UnresolvableField"
    | duplicateField => "DuplicateField"
    | unknownDeclaration => "UnknownDeclaration"
    | invalidName => "InvalidName"

/-- What a code is about, for the catalog. -/
def summary : DiagnosticCode → String
  | manifestParseError => "failed to parse declaration manifest"
  | originNotARecord => "origin type must be a data class"
  | targetNotARecord => "target type must be a data class"
  | unresolvableField => "field type could not be resolved"
  | duplicateField => "duplicate field name"
  | unknownDeclaration => "mapper target declaration not found"
  | invalidName => "declaration or field name is not an identifier"

/-- The phase in which a code is found. -/
def phase : DiagnosticCode → Phase
  | manifestParseError => .parse
  | unresolvableField | unknownDeclaration => .resolve
  | originNotARecord | targetNotARecord | duplicateField | invalidName => .validate

/-- What to do about a code, where that can be said in general. -/
def help? : DiagnosticCode → Option String
  | originNotARecord | targetNotARecord =>
    some "Only non-generic `data class` declarations can take part in a mapping."
  | unknownDeclaration =>
    some "Include the target declaration in the manifest passed to modelmap."
  | invalidName => some "Use letters, digits and '_', not starting with a digit."
  | manifestParseError | unresolvableField | duplicateField => none

end DiagnosticCode

namespace Diagnostic

/-- The error of this code, with the code's own phase and help. -/
def ofCode (code : DiagnosticCode) (subject message : String) : Diagnostic where
  code := code
  phase := code.phase
  severity := .error
  subject := subject
  message := message
  help? := code.help?

/-- The diagnostic as it is printed. The help has a line of its own. -/
def text (diagnostic : Diagnostic) : String :=
  diagnostic.code.identifier ++ " " ++ diagnostic.phase.label ++ " " ++ diagnostic.severity.label
    ++ " [" ++ diagnostic.subject ++ "]: " ++ diagnostic.message
    ++ (match diagnostic.help? with
      | some help => "\n  help: " ++ help
      | none => "")

/-- The row of a code in the table of the catalog. -/
def catalogRow (code : DiagnosticCode) : String :=
  "| " ++ code.identifier ++ " | " ++ code.phase.label ++ " | " ++ Severity.error.label ++ " | "
    ++ code.summary ++ " | " ++ code.help?.getD "" ++ " |\n"

/-- The table of all codes. -/
def catalog : String :=
  "# modelmap diagnostics catalog\n\n"
    ++ "This document is generated from `crates/modelmap-core/src/diagnostics.rs`.\n\n"
    ++ "| Code | Phase | Severity | Message | Help |\n"
    ++ "| ---- | ----- | -------- | ------- | ---- |\n"
    ++ String.join (DiagnosticCode.all.map catalogRow)

end Diagnostic

/-- The side of a mapping that a declaration is on. -/
inductive Role
  | origin
  | target
  deriving DecidableEq, Repr

/-- The code of a fault. Only a broken record rule is told apart by the side. -/
def SchemaFault.code (role : Role) : SchemaFault → DiagnosticCode
  | notARecord _ =>
    match role with
    | .origin => .originNotARecord
    | .target => .targetNotARecord
  | unresolvableField .. => .unresolvableField
  | duplicateField _ => .duplicateField
  | invalidName .. => .invalidName

/-- The diagnostic for a rejected declaration, which is the origin or the target of a mapping. -/
def Rejection.diagnostic (role : Role) (rejection : Rejection) : Diagnostic :=
  .ofCode (rejection.fault.code role) rejection.qualifiedName rejection.message

/-- The diagnostic of a target that no declaration has the name of. -/
def Diagnostic.unknownTarget (target : String) : Diagnostic :=
  .ofCode .unknownDeclaration target ("declaration " ++ target ++ " not found")

end RecordMapper
