import RecordMapper.Proofs.Json.Printing
import RecordMapper.Report

/-!
# Report files that are read

Whoever reads a report file finds the whole report in it: where the output is, each function with
its origin, its target and its name, each diagnostic with all its parts, and the digest
(`Report.read?_fileText`). The keys and the words that stand for codes, phases and severities are
those that readers of the file rely on.
-/

namespace RecordMapper

open RecordMapper.Json RecordMapper.Text

/-! ## Reading -/

/-- The value under a key of an object. -/
def Json.valueAt? (key : String) : Json → Option Json
  | .object entries => lookup? key entries
  | _ => none

/-- The text under a key of an object. -/
def Json.textAt? (key : String) (value : Json) : Option String :=
  match value.valueAt? key with
  | some (.string text) => some text
  | _ => none

/-- The text under a key of an object, or none if it is null. -/
def Json.nullableTextAt? (key : String) (value : Json) : Option (Option String) :=
  match value.valueAt? key with
  | some .null => some none
  | some (.string text) => some (some text)
  | _ => none

/-- The text under a key of an object, or none if the key is absent. -/
def Json.optionalTextAt? (key : String) (value : Json) : Option (Option String) :=
  match value.valueAt? key with
  | none => some none
  | some (.string text) => some (some text)
  | _ => none

/-- The items under a key of an object, each of which is read. -/
def Json.itemsAt? {α : Type} (readItem : Json → Option α) (key : String) (value : Json) :
    Option (List α) :=
  match value.valueAt? key with
  | some (.array items) => items.mapM readItem
  | _ => none

/-- The code that a word stands for. -/
def DiagnosticCode.ofWord? : String → Option DiagnosticCode
  | "MM0001ManifestParseError" => some .manifestParseError
  | "MM0100OriginNotARecord" => some .originNotARecord
  | "MM0101TargetNotARecord" => some .targetNotARecord
  | "MM0110UnresolvableField" => some .unresolvableField
  | "MM0120DuplicateField" => some .duplicateField
  | "MM0130UnknownDeclaration" => some .unknownDeclaration
  | "MM0140InvalidName" => some .invalidName
  | _ => none

/-- The phase that a word stands for. -/
def Phase.ofWord? : String → Option Phase
  | "Parse" => some .parse
  | "Resolve" => some .resolve
  | "Validate" => some .validate
  | _ => none

/-- The severity that a word stands for. -/
def Severity.ofWord? : String → Option Severity
  | "Error" => some .error
  | _ => none

/-- Reads the file that a run wrote. -/
def OutputFile.ofJson? (value : Json) : Option OutputFile := do
  let package ← value.textAt? "package"
  let fileName ← value.textAt? "file_name"
  let path ← value.textAt? "path"
  return { package, fileName, path }

/-- Reads where the output of a run is. There may be none. -/
def OutputFile.ofNullable? : Json → Option (Option OutputFile)
  | .null => some none
  | file => (ofJson? file).map some

/-- Reads a function that a run wrote. -/
def EmittedFunction.ofJson? (value : Json) : Option EmittedFunction := do
  let origin ← value.textAt? "origin"
  let target ← value.textAt? "target"
  let name ← value.textAt? "name"
  return { origin, target, name }

/-- Reads a diagnostic. It may have no help. -/
def Diagnostic.ofJson? (value : Json) : Option Diagnostic := do
  let code ← DiagnosticCode.ofWord? (← value.textAt? "code")
  let phase ← Phase.ofWord? (← value.textAt? "phase")
  let severity ← Severity.ofWord? (← value.textAt? "severity")
  let subject ← value.textAt? "subject"
  let message ← value.textAt? "message"
  let help? ← value.nullableTextAt? "help"
  return { code, phase, severity, subject, message, help? }

/-- Reads a report of the current version. There may be no digest and no output. -/
def Report.ofJson? (value : Json) : Option Report := do
  guard (value.textAt? "schema_version" = some "modelmap.report@0.1.0")
  guard (value.textAt? "generated_by" = some "modelmap")
  let sourceDigest? ← value.optionalTextAt? "source_sha256"
  let output? ← OutputFile.ofNullable? (← value.valueAt? "output")
  let functions ← value.itemsAt? EmittedFunction.ofJson? "functions"
  let diagnostics ← value.itemsAt? Diagnostic.ofJson? "diagnostics"
  return { sourceDigest?, output?, functions, diagnostics }

/-- Reads a report file. -/
def Report.read? (bytes : List UInt8) : Option Report :=
  match Json.read bytes with
  | .ok document => ofJson? document
  | .error _ => none

/-! ## What is written is read back -/

theorem DiagnosticCode.ofWord?_longIdentifier (code : DiagnosticCode) :
    ofWord? code.longIdentifier = some code := by
  cases code <;> rfl

theorem Phase.ofWord?_label (phase : Phase) : ofWord? phase.label = some phase := by
  cases phase <;> rfl

theorem Severity.ofWord?_label (severity : Severity) :
    ofWord? severity.label = some severity := by
  cases severity
  rfl

/-- A list is read back if each of its items is. -/
theorem Json.mapM_sortedItems {α : Type} {readItem : Json → Option α} {write : α → Json}
    (readBack : ∀ value, readItem (write value).sorted = some value) (values : List α) :
    (sortedItems (values.map write)).mapM readItem = some values := by
  induction values with
  | nil => rfl
  | cons value rest ih =>
      rw [List.map_cons, sortedItems, List.mapM_cons, readBack, ih]
      rfl

theorem OutputFile.ofJson?_sorted_toJson (file : OutputFile) :
    ofJson? file.toJson.sorted = some file :=
  rfl

theorem EmittedFunction.ofJson?_sorted_toJson (function : EmittedFunction) :
    ofJson? function.toJson.sorted = some function :=
  rfl

theorem Diagnostic.sorted_toJson (diagnostic : Diagnostic) :
    diagnostic.toJson.sorted = .object
      [("code", .string diagnostic.code.longIdentifier), ("help", optionalText diagnostic.help?),
        ("message", .string diagnostic.message), ("phase", .string diagnostic.phase.label),
        ("severity", .string diagnostic.severity.label),
        ("subject", .string diagnostic.subject)] := by
  obtain ⟨code, phase, severity, subject, message, help?⟩ := diagnostic
  cases help? <;> rfl

/-- **A diagnostic is read back**, with its help or without it. -/
theorem Diagnostic.ofJson?_sorted_toJson (diagnostic : Diagnostic) :
    ofJson? diagnostic.toJson.sorted = some diagnostic := by
  have help : diagnostic.toJson.sorted.nullableTextAt? "help" = some diagnostic.help? := by
    rw [sorted_toJson]
    cases diagnostic.help? <;> rfl
  rw [ofJson?, help, sorted_toJson]
  change (do
    let code ← DiagnosticCode.ofWord? diagnostic.code.longIdentifier
    let phase ← Phase.ofWord? diagnostic.phase.label
    let severity ← Severity.ofWord? diagnostic.severity.label
    some { diagnostic with code, phase, severity }) = _
  rw [DiagnosticCode.ofWord?_longIdentifier, Phase.ofWord?_label, Severity.ofWord?_label]
  rfl

/-- What is written about a report, in order. -/
theorem Report.sorted_toJson (report : Report) :
    report.toJson.sorted = .object
      ([("diagnostics", .array (sortedItems (report.diagnostics.map Diagnostic.toJson))),
        ("functions", .array (sortedItems (report.functions.map EmittedFunction.toJson))),
        ("generated_by", .string "modelmap"),
        ("output", ((report.output?.map OutputFile.toJson).getD .null).sorted),
        ("schema_version", .string "modelmap.report@0.1.0")]
        ++ (report.sourceDigest?.map fun digest =>
          ("source_sha256", Json.string digest)).toList) := by
  obtain ⟨sourceDigest?, output?, functions, diagnostics⟩ := report
  cases sourceDigest? <;> rfl

/-- **A report is read back**, with its digest and its output or without them. -/
theorem Report.ofJson?_sorted_toJson (report : Report) :
    ofJson? report.toJson.sorted = some report := by
  have digest : report.toJson.sorted.optionalTextAt? "source_sha256" =
      some report.sourceDigest? := by
    rw [sorted_toJson]
    cases report.sourceDigest? <;> rfl
  have output : OutputFile.ofNullable? ((report.output?.map OutputFile.toJson).getD .null).sorted =
      some report.output? := by
    cases report.output? <;> rfl
  have functions := mapM_sortedItems EmittedFunction.ofJson?_sorted_toJson report.functions
  have diagnostics := mapM_sortedItems Diagnostic.ofJson?_sorted_toJson report.diagnostics
  rw [ofJson?, digest, sorted_toJson]
  change (do
    let output? ← OutputFile.ofNullable? ((report.output?.map OutputFile.toJson).getD .null).sorted
    let functions ←
      (sortedItems (report.functions.map EmittedFunction.toJson)).mapM EmittedFunction.ofJson?
    let diagnostics ←
      (sortedItems (report.diagnostics.map Diagnostic.toJson)).mapM Diagnostic.ofJson?
    some { report with output?, functions, diagnostics }) = _
  rw [output, functions, diagnostics]
  rfl

/-! ## The file -/

theorem EmittedFunction.textual_toJson (function : EmittedFunction) : function.toJson.Textual := by
  refine .object ?_
  simp only [List.forall_mem_cons]
  exact ⟨.string _, .string _, .string _, List.forall_mem_nil _⟩

theorem OutputFile.textual_toJson (file : OutputFile) : file.toJson.Textual := by
  refine .object ?_
  simp only [List.forall_mem_cons]
  exact ⟨.string _, .string _, .string _, List.forall_mem_nil _⟩

theorem Diagnostic.textual_toJson (diagnostic : Diagnostic) : diagnostic.toJson.Textual := by
  have help : (optionalText diagnostic.help?).Textual := by
    cases diagnostic.help? with
    | none => exact .null
    | some text => exact .string text
  refine .object ?_
  simp only [List.forall_mem_cons]
  exact ⟨.string _, .string _, .string _, .string _, .string _, help, List.forall_mem_nil _⟩

theorem Report.textual_toJson (report : Report) : report.toJson.Textual := by
  obtain ⟨sourceDigest?, output?, functions, diagnostics⟩ := report
  have output : ((output?.map OutputFile.toJson).getD .null).Textual := by
    cases output? with
    | none => exact .null
    | some file => exact file.textual_toJson
  have functions : (Json.array (functions.map EmittedFunction.toJson)).Textual :=
    .map EmittedFunction.textual_toJson functions
  have diagnostics : (Json.array (diagnostics.map Diagnostic.toJson)).Textual :=
    .map Diagnostic.textual_toJson diagnostics
  refine .object ?_
  cases sourceDigest? with
  | none =>
      simp only [List.forall_mem_append, List.forall_mem_cons]
      exact ⟨⟨⟨.string _, .string _, List.forall_mem_nil _⟩, List.forall_mem_nil _⟩, output,
        functions, diagnostics, List.forall_mem_nil _⟩
  | some digest =>
      simp only [List.forall_mem_append, List.forall_mem_cons]
      exact ⟨⟨⟨.string _, .string _, List.forall_mem_nil _⟩, .string _, List.forall_mem_nil _⟩,
        output, functions, diagnostics, List.forall_mem_nil _⟩

/-- Objects in an array in an object: a report is never too deep to be read. -/
theorem Report.depth_toJson_le (report : Report) : report.toJson.depth ≤ 3 := by
  obtain ⟨sourceDigest?, output?, functions, diagnostics⟩ := report
  have functions : depthItems (functions.map EmittedFunction.toJson) ≤ 1 := by
    apply depthItems_le
    intro item listed
    obtain ⟨function, -, rfl⟩ := List.mem_map.mp listed
    exact le_rfl
  have diagnostics : depthItems (diagnostics.map Diagnostic.toJson) ≤ 1 := by
    apply depthItems_le
    intro item listed
    obtain ⟨⟨_, _, _, _, _, help?⟩, -, rfl⟩ := List.mem_map.mp listed
    cases help? <;> exact le_rfl
  have output : ((output?.map OutputFile.toJson).getD .null).depth ≤ 1 := by
    cases output? with
    | none => exact Nat.zero_le 1
    | some file => exact le_rfl
  cases sourceDigest? <;>
    simp only [toJson, depth, depthEntries, List.cons_append, List.nil_append] <;> omega

/-- **A report file is read back**: it holds the whole report. -/
theorem Report.read?_fileText (report : Report) :
    read? (Utf8.encode report.fileText) = some report := by
  have shallow : report.toJson.depth ≤ maxDepth := report.depth_toJson_le.trans (by decide)
  have read : Json.read (Utf8.encode report.fileText) = .ok report.toJson.sorted := by
    have newline : Utf8.encode "\n" = [0x0A] := rfl
    rw [fileText, Utf8.encode_append, newline]
    exact read_pretty_append report.textual_toJson shallow (List.forall_mem_singleton.mpr rfl)
  rw [read?, read]
  exact report.ofJson?_sorted_toJson

example : Report.empty.fileText =
    "\x7b\n  \"schema_version\": \"modelmap.report@0.1.0\",\n  \"generated_by\": \"modelmap\",\n" ++
      "  \"output\": null,\n  \"functions\": [],\n  \"diagnostics\": []\n\x7d\n" := by
  decide +kernel

end RecordMapper
