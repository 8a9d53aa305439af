import RecordMapper.Options
import RecordMapper.Outcome
import RecordMapper.Report
import RecordMapper.Sink

/-!
# Runs

A run writes the functions of a manifest into one file of a sink and reports what it did. It goes
through the candidates one after the other: a function is written and reported, a skipped candidate
is reported only. A manifest without candidates leaves the sink alone, and only a sink that cannot
be opened or written ends a run without a report. `chunks`, `fileText` and `report` say what a run
has to write and to report, all candidates at once.
-/

namespace RecordMapper

/-- What a run could not do with its output file. -/
inductive RunStage
  | create
  | write
  deriving DecidableEq, Repr

/-- Why a run ended without a report. -/
structure RunFault where
  stage : RunStage
  path : String
  cause : FileFault
  deriving DecidableEq, Repr

/-- The text of a fault with the path of the output file. -/
def RunFault.message (fault : RunFault) : String :=
  (match fault.stage with
    | .create => "cannot create output file "
    | .write => "cannot write output file ")
    ++ fault.path ++ ": " ++ fault.cause.message

namespace Options

/-- The path of the output file below the root of a sink. -/
def outputPath (options : Options) : Path :=
  RecordMapper.outputPath options.package options.fileName

/-- The path of the output file below the directory `root`. -/
abbrev outputBelow (options : Options) (root : Path) : Path :=
  outputPathBelow root options.package options.fileName

/-- The entry of the output file in a report. -/
def outputFile (options : Options) : OutputFile :=
  ⟨options.package, options.fileName, options.outputPath.text⟩

end Options

namespace Report

/-- The report of a run that has opened its file and done nothing else. -/
def opened (output : OutputFile) : Report :=
  ⟨none, some output, [], []⟩

/-- Adds the entry of a function at the end. -/
def addFunction (report : Report) (function : MappingFunction) : Report :=
  { report with functions := report.functions ++ [function.emitted] }

/-- Adds a diagnostic at the end. -/
def addDiagnostic (report : Report) (diagnostic : Diagnostic) : Report :=
  { report with diagnostics := report.diagnostics ++ [diagnostic] }

end Report

namespace Manifest

section

variable {m : Type → Type} [Monad m]

/-- Takes the candidates in order. Each one adds to the report; a function is written first, and a
function that cannot be written ends the run. -/
def writeCandidates (manifest : Manifest) (erase : Bool) (sink : Sink m) (handle : sink.Handle)
    (report : Report) : List Candidate → m (Except FileFault Report)
  | [] => pure (.ok report)
  | candidate :: rest =>
    match manifest.outcome erase candidate with
    | .skipped diagnostic =>
      manifest.writeCandidates erase sink handle (report.addDiagnostic diagnostic) rest
    | .emitted function => do
      match ← sink.write handle function.text with
      | .error cause => pure (.error cause)
      | .ok () => manifest.writeCandidates erase sink handle (report.addFunction function) rest

/-- Writes the header and all candidates into an open file, and flushes it. -/
def writeOutput (manifest : Manifest) (options : Options) (sink : Sink m) (handle : sink.Handle) :
    m (Except FileFault Report) := do
  match ← sink.write handle (fileHeader options.package) with
  | .error cause => pure (.error cause)
  | .ok () =>
    match ← manifest.writeCandidates options.eraseGenerics sink handle
        (.opened options.outputFile) manifest.candidates with
    | .error cause => pure (.error cause)
    | .ok report =>
      match ← sink.flush handle with
      | .error cause => pure (.error cause)
      | .ok () => pure (.ok report)

/-- Writes the functions of a manifest into a file of the sink. -/
def run (manifest : Manifest) (options : Options) (sink : Sink m) : m (Except RunFault Report) :=
  if manifest.candidates.isEmpty then pure (.ok .empty)
  else do
    let path := options.outputPath.text
    match ← sink.create options.package options.fileName with
    | .error cause => pure (.error ⟨.create, path, cause⟩)
    | .ok handle =>
      match ← manifest.writeOutput options sink handle with
      | .error cause => pure (.error ⟨.write, path, cause⟩)
      | .ok report => pure (.ok report)

end

/-! ## What a run has to write and to report -/

/-- The chunks of the output file: the header, then one per function. -/
def chunks (manifest : Manifest) (options : Options) : List String :=
  fileHeader options.package :: (manifest.functions options.eraseGenerics).map (·.text)

/-- The text of the output file. -/
def fileText (manifest : Manifest) (options : Options) : String :=
  String.join (manifest.chunks options)

/-- The report of a run that could write its file. -/
def report (manifest : Manifest) (options : Options) : Report :=
  if manifest.candidates.isEmpty then .empty
  else
    { sourceDigest? := none
      output? := some options.outputFile
      functions := (manifest.functions options.eraseGenerics).map (·.emitted)
      diagnostics := manifest.diagnostics options.eraseGenerics }

end Manifest

end RecordMapper
