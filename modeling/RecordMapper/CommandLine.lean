import RecordMapper.CommandLine.Generate

/-!
# The command line

`CommandLine.run` does what the words after the program's name ask for: it changes files through the
file access of its monad, and returns what is printed and the exit status. The status is 0 for
success, 1 for failure and 2 for words that are no valid command.
-/

namespace RecordMapper.CommandLine

/-- What a run of the program leaves behind besides files. -/
structure Exit where
  status : Nat
  stdout : String
  stderr : String
  deriving DecidableEq, Repr

/-- A short account of the commands. -/
def usage : String :=
  "Usage: modelmap generate --in <IN> --out <OUT> [--package <PACKAGE>] [--file-name <FILE_NAME>]\n"
    ++ "         [--erase-generics] [-O <KEY=VALUE>] [--check] [--report <REPORT>]\n"
    ++ "       modelmap diagnostics\n"

/-- The exit of a failed run, after some diagnostics were printed. -/
def Exit.failed (printed : List Diagnostic) (failure : Failure) : Exit :=
  ⟨1, "", String.join (printed.map fun diagnostic => diagnostic.text ++ "\n") ++ failure.text⟩

/-- What the program prints and returns: the diagnostics, and the failure if there is one. -/
def Ending.exit (ending : Ending) : Exit :=
  match ending.failure? with
  | some failure => .failed ending.printed failure
  | none => ⟨0, "", String.join (ending.printed.map fun diagnostic => diagnostic.text ++ "\n")⟩

/-- Runs the program on the words after its name. -/
def run {m : Type → Type} [Monad m] [FileAccess m] (words : List String) : m Exit := do
  match Request.read words with
  | .error .misuse => return ⟨2, "", usage⟩
  | .error .help | .ok .help => return ⟨0, usage, ""⟩
  | .ok .diagnostics => return ⟨0, Diagnostic.catalog, ""⟩
  | .ok (.generate arguments) =>
    match arguments.runOptions with
    | .error fault => return .failed [] (.plain fault.message)
    | .ok options => return (← generate arguments options).exit

end RecordMapper.CommandLine
