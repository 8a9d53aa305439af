import RecordMapper.Diagnostic
import RecordMapper.Json.Printer
import RecordMapper.MappingFunction
import RecordMapper.OutputPath

/-!
# Run reports

A report says what a run wrote and what it skipped: the output file, the functions in the order they
were written, and a diagnostic for each mapping that was skipped.
-/

namespace RecordMapper

/-- The file that a run wrote. -/
structure OutputFile where
  package : String
  fileName : String
  path : String
  deriving DecidableEq, Repr

/-- A function that a run wrote. -/
structure EmittedFunction where
  origin : String
  target : String
  name : String
  deriving DecidableEq, Repr

/-- What a run wrote and what it skipped. There is no output if nothing was to be mapped. -/
structure Report where
  sourceDigest? : Option String
  output? : Option OutputFile
  functions : List EmittedFunction
  diagnostics : List Diagnostic
  deriving DecidableEq, Repr

/-- The entry of a function in a report: the record that it is attached to, the record that it
builds, and its name. -/
def MappingFunction.emitted (function : MappingFunction) : EmittedFunction :=
  ⟨function.receiver, function.returnType, function.name⟩

namespace Report

/-- The version of the reports that are written. -/
def currentVersion : String :=
  "modelmap.report@0.1.0"

/-- The program that makes the reports. -/
def generatedBy : String :=
  "modelmap"

/-- The report of a run that had nothing to do. -/
def empty : Report :=
  ⟨none, none, [], []⟩

/-- The report with the digest of the manifest it was made from. -/
def withSource (report : Report) (digest : String) : Report :=
  { report with sourceDigest? := some digest }

/-- Whether nothing was skipped. -/
def isOk (report : Report) : Bool :=
  report.diagnostics.all fun diagnostic => diagnostic.severity ≠ .error

end Report

/-- An optional text as a JSON value. -/
def optionalText : Option String → Json
  | some text => .string text
  | none => .null

/-- Writes where the output is. -/
def OutputFile.toJson (file : OutputFile) : Json :=
  .object [("package", .string file.package), ("file_name", .string file.fileName),
    ("path", .string file.path)]

/-- Writes the entry of a function. -/
def EmittedFunction.toJson (function : EmittedFunction) : Json :=
  .object [("origin", .string function.origin), ("target", .string function.target),
    ("name", .string function.name)]

/-- Writes a diagnostic with the long form of its code. Help that is absent is null. -/
def Diagnostic.toJson (diagnostic : Diagnostic) : Json :=
  .object [("code", .string diagnostic.code.longIdentifier),
    ("phase", .string diagnostic.phase.label), ("severity", .string diagnostic.severity.label),
    ("subject", .string diagnostic.subject), ("message", .string diagnostic.message),
    ("help", optionalText diagnostic.help?)]

/-- Writes the report. The digest is left out if there is none. -/
def Report.toJson (report : Report) : Json :=
  .object ([("schema_version", .string currentVersion), ("generated_by", .string generatedBy)]
    ++ (match report.sourceDigest? with
      | some digest => [("source_sha256", .string digest)]
      | none => [])
    ++ [("output", (report.output?.map OutputFile.toJson).getD .null),
      ("functions", .array (report.functions.map EmittedFunction.toJson)),
      ("diagnostics", .array (report.diagnostics.map Diagnostic.toJson))])

/-- The text of a report file, which ends in a line break. -/
def Report.fileText (report : Report) : String :=
  report.toJson.pretty ++ "\n"

end RecordMapper
