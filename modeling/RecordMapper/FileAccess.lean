import RecordMapper.FileFault
import RecordMapper.Name.FileName
import RecordMapper.OutputPath
import RecordMapper.Sink
import RecordMapper.Text.Utf8

/-!
# File access

The operations on files and directories that the program needs, for any monad that has them, and
what is built from them: directories with all their missing ancestors, reading texts, writing whole
files, and the sink that writes below a root directory.
-/

namespace RecordMapper

open RecordMapper.Text

/-- Operations on the files and directories at a path. -/
class FileAccess (m : Type → Type) where
  /-- The bytes of a file. -/
  readBytes : Path → m (Except FileFault (List UInt8))
  /-- Whether there is a directory. -/
  isDirectory : Path → m Bool
  /-- Whether there is anything. -/
  isPresent : Path → m Bool
  /-- Makes one directory, in a directory that is there. -/
  makeDirectory : Path → m (Except FileFault Unit)
  /-- Makes an empty file, or empties the one that is there. -/
  createFile : Path → m (Except FileFault Unit)
  /-- Appends bytes to a file that is there. -/
  appendBytes : Path → List UInt8 → m (Except FileFault Unit)

namespace FileAccess

variable {m : Type → Type} [Monad m] [FileAccess m]

/-- The answer of an attempt to make a directory: a fault does not count if the directory is there
already. -/
def unlessDirectory (path : Path) (fault : FileFault) : m (Except FileFault Unit) := do
  return if ← isDirectory (m := m) path then .ok () else .error fault

/-- Makes a directory. If its parent is missing, the parent is made first in the same way. The
directory and its ancestors are given, the innermost first. -/
def makeDirectoriesFrom : List Path → m (Except FileFault Unit)
  | [] => return .ok ()
  | path :: ancestors => do
    match ← makeDirectory (m := m) path with
    | .ok () => return .ok ()
    | .error .notFound =>
      match ← makeDirectoriesFrom ancestors with
      | .error fault => return .error fault
      | .ok () =>
        match ← makeDirectory (m := m) path with
        | .ok () => return .ok ()
        | .error fault => unlessDirectory path fault
    | .error fault => unlessDirectory path fault

/-- Makes a directory with all its missing ancestors. The empty path needs none. -/
def makeDirectories (path : Path) : m (Except FileFault Unit) :=
  makeDirectoriesFrom path.prefixes.reverse

/-- Makes the missing directories above a path. -/
def makeParents (path : Path) : m (Except FileFault Unit) :=
  match path.parent? with
  | none => return .ok ()
  | some parent => makeDirectories parent

/-- Reads a file that has to be well-formed text. -/
def readText (path : Path) : m (Except FileFault String) := do
  match ← readBytes (m := m) path with
  | .error fault => return .error fault
  | .ok bytes =>
    match Utf8.decode? bytes with
    | some characters => return .ok (String.ofList characters)
    | none => return .error .notText

/-- Writes a text to a file that is made for it, or that is emptied first. -/
def writeText (path : Path) (text : String) : m (Except FileFault Unit) := do
  match ← createFile (m := m) path with
  | .error fault => return .error fault
  | .ok () => appendBytes path (Utf8.encode text)

end FileAccess

/-- The sink that writes below the directory `root`. It refuses bad file names and makes the missing
directories of the package. -/
def Sink.directory {m : Type → Type} [Monad m] [FileAccess m] (root : Path) : Sink m where
  Handle := Path
  create package fileName := do
    match FileName.fault? fileName with
    | some fault => return .error (.refused (fault.message fileName))
    | none =>
      let path := outputPathBelow root package fileName
      match ← FileAccess.makeParents path with
      | .error fault => return .error fault
      | .ok () =>
        match ← FileAccess.createFile (m := m) path with
        | .error fault => return .error fault
        | .ok () => return .ok path
  write path text := FileAccess.appendBytes path (Utf8.encode text)
  flush _ := return .ok ()

end RecordMapper
