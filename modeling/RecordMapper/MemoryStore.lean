import RecordMapper.OutputPath
import RecordMapper.Sink
import RecordMapper.Text.Utf8

/-!
# Files in memory

A store keeps the bytes of files under their output paths. Paths with the same components are the
same key; the first spelling of a key is kept. The keys stand in ascending order.
-/

namespace RecordMapper

open RecordMapper.Text

/-- The files of a store, in the order of their paths. -/
structure MemoryStore where
  files : List (Path × List UInt8)
  deriving Repr

namespace MemoryStore

/-- The store without files. -/
def empty : MemoryStore :=
  ⟨[]⟩

/-- Whether two paths stand for the same file: they have the same components. -/
def sameKey (a b : Path) : Bool :=
  a.components = b.components

/-- Puts an empty file into a list of files in ascending order, or empties the one that is there. -/
def createIn (path : Path) : List (Path × List UInt8) → List (Path × List UInt8)
  | [] => [(path, [])]
  | (key, bytes) :: rest =>
    if sameKey key path then (key, []) :: rest
    else if path.precedes key then (path, []) :: (key, bytes) :: rest
    else (key, bytes) :: createIn path rest

/-- Creates an empty file, or empties the one that is there. -/
def create (store : MemoryStore) (path : Path) : MemoryStore :=
  ⟨createIn path store.files⟩

/-- The bytes of the file with a path. -/
def bytes? (store : MemoryStore) (path : Path) : Option (List UInt8) :=
  (store.files.find? fun file => sameKey file.1 path).map (·.2)

/-- Appends bytes to a file, `none` if there is no such file. -/
def appendIn? (path : Path) (added : List UInt8) :
    List (Path × List UInt8) → Option (List (Path × List UInt8))
  | [] => none
  | (key, bytes) :: rest =>
    if sameKey key path then some ((key, bytes ++ added) :: rest)
    else (appendIn? path added rest).map ((key, bytes) :: ·)

/-- Adds bytes to the end of a file, which has to be there. -/
def append (store : MemoryStore) (path : Path) (added : List UInt8) :
    Except FileFault MemoryStore :=
  match appendIn? path added store.files with
  | some files => .ok ⟨files⟩
  | none => .error (.refused ("in-memory file removed: " ++ path.text))

/-- The text of the file of a package and a file name. -/
def text? (store : MemoryStore) (package fileName : String) : Option String :=
  (store.bytes? (outputPath package fileName)).map Utf8.decodeLossy

/-- The paths of the files, in order. -/
def paths (store : MemoryStore) : List Path :=
  store.files.map (·.1)

end MemoryStore

/-- The sink that writes into a store. -/
def Sink.memory : Sink (StateM MemoryStore) where
  Handle := Path
  create package fileName := do
    let path := outputPath package fileName
    modify (·.create path)
    return .ok path
  write path text := do
    match (← get).append path (Utf8.encode text) with
    | .error fault => return .error fault
    | .ok store =>
      set store
      return .ok ()
  flush _ := return .ok ()

end RecordMapper
