import RecordMapper.CommandLine.Arguments
import RecordMapper.Digest.Sha256
import RecordMapper.FileAccess
import RecordMapper.Manifest.Json
import RecordMapper.MemoryStore
import RecordMapper.Run

/-!
# Generating from the command line

A generation reads the manifest, then either writes the output below the output root or, when it
checks, compares the output with the file that is there. After that it writes the report, if one is
asked for, and fails if mappings were skipped. Each stage starts only if the stages before it
succeeded.
-/

namespace RecordMapper.CommandLine

/-- Why the program fails, and the reason behind that. -/
structure Failure where
  summary : String
  cause? : Option String
  deriving DecidableEq, Repr

namespace Failure

/-- A failure that has no other cause. -/
def plain (summary : String) : Failure :=
  ⟨summary, none⟩

/-- The failure of an attempt at a path, with the fault as its cause. -/
def ofFault (attempt : String) (path : Path) (fault : FileFault) : Failure :=
  ⟨attempt ++ ": " ++ path.text, some fault.message⟩

/-- What the program prints about the failure: a line with the reason, then the same in full. -/
def text (failure : Failure) : String :=
  match failure.cause? with
  | none => failure.summary ++ "\n" ++ "Error: " ++ failure.summary ++ "\n"
  | some cause =>
    failure.summary ++ ": " ++ cause ++ "\n"
      ++ "Error: " ++ failure.summary ++ "\n\nCaused by:\n    " ++ cause ++ "\n"

end Failure

/-- The options of a run: the option texts are all read before the first is applied, and the flags
come last. -/
def GenerateArguments.runOptions (arguments : GenerateArguments) : Except OptionFault Options :=
  match arguments.options.mapM parseKeyValue with
  | .error fault => .error fault
  | .ok pairs =>
    match Options.default.applyAll pairs with
    | (_, some fault) => .error fault
    | (options, none) => do
      let options ← arguments.package?.elim (.ok options) options.setPackage
      let options ← arguments.fileName?.elim (.ok options) options.setFileName
      return if arguments.eraseGenerics then { options with eraseGenerics := true } else options

/-- A fault of a run as a failure, with the fault of the file as its cause. -/
def RunFault.failure (fault : RunFault) : Failure :=
  ⟨fault.message, some fault.cause.message⟩

section

variable {m : Type → Type} [Monad m] [FileAccess m]

/-- Compares what a run generated with the file at `path`. A run that generated nothing wants no
file there. -/
def compareOutput (path : Path) (generated? : Option String) : m (Except Failure Unit) := do
  match generated? with
  | none =>
    if ← FileAccess.isPresent (m := m) path then
      return .error (.plain ("stale generated output (no mappers remain): " ++ path.text))
    else return .ok ()
  | some generated =>
    match ← FileAccess.readText (m := m) path with
    | .error fault => return .error (.ofFault "read existing output" path fault)
    | .ok current =>
      if current = generated then return .ok ()
      else return .error (.plain ("generated output differs: " ++ path.text))

/-- Runs in memory and compares the result with the file below `root`. -/
def checkRun (manifest : Manifest) (options : Options) (root : Path) :
    m (Except Failure Report) := do
  let (result, store) := (manifest.run options Sink.memory).run .empty
  match result with
  | .error fault => return .error (RunFault.failure fault)
  | .ok report =>
    let generated? := store.text? options.package options.fileName
    match ← compareOutput (options.outputBelow root) generated? with
    | .error failure => return .error failure
    | .ok () => return .ok report

/-- Runs and writes the output below `root`. -/
def writeRun (manifest : Manifest) (options : Options) (root : Path) :
    m (Except Failure Report) := do
  match ← manifest.run options (Sink.directory (m := m) root) with
  | .error fault => return .error (RunFault.failure fault)
  | .ok report => return .ok report

/-- Writes the report file and the missing directories above it. -/
def writeReport (path : Path) (report : Report) : m (Except Failure Unit) := do
  match ← FileAccess.makeParents (m := m) path with
  | .error fault =>
    return .error (.ofFault "create report dir" (path.parent?.getD ⟨""⟩) fault)
  | .ok () =>
    match ← FileAccess.writeText (m := m) path report.fileText with
    | .error fault => return .error (.ofFault "write report" path fault)
    | .ok () => return .ok ()

/-- Writes the report to the path that was asked for, if there is one. -/
def writeReportIfAsked (path? : Option Path) (report : Report) : m (Except Failure Unit) :=
  match path? with
  | none => return .ok ()
  | some path => writeReport path report

/-- What is printed before the failure or the end, and the failure if there is one. -/
structure Ending where
  printed : List Diagnostic
  failure? : Option Failure
  deriving DecidableEq, Repr

/-- The end of a generation that came as far as its report: skipped mappings make it fail. -/
def Ending.ofReport (report : Report) : Ending :=
  { printed := report.diagnostics
    failure? :=
      if report.isOk then none
      else some (.plain (toString report.diagnostics.length
        ++ " mapping(s) skipped; see diagnostics above")) }

/-- A generation with its options settled. -/
def generate (arguments : GenerateArguments) (options : Options) : m Ending := do
  match ← FileAccess.readBytes (m := m) arguments.input with
  | .error fault => return ⟨[], some (.ofFault "read manifest" arguments.input fault)⟩
  | .ok bytes =>
    match Manifest.read bytes with
    | .error fault =>
      return ⟨[fault.diagnostic arguments.input.text],
        some (.plain ("parse manifest JSON: " ++ arguments.input.text))⟩
    | .ok manifest =>
      let run := if arguments.check then checkRun else writeRun
      match ← run manifest options arguments.out with
      | .error failure => return ⟨[], some failure⟩
      | .ok report =>
        let report := report.withSource (Sha256.digest bytes)
        match ← writeReportIfAsked arguments.report? report with
        | .error failure => return ⟨[], some failure⟩
        | .ok () => return .ofReport report

end

end RecordMapper.CommandLine
