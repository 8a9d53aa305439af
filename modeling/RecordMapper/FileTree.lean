import RecordMapper.FileAccess

/-!
# File trees

A tree of directories and files with a working directory, as a value. The entries are listed with
their locations, so that an operation on one location leaves all others alone. Paths are followed
one step at a time from the root or from the working directory, and every step has to start from a
directory. A tree may limit the lengths of names and paths.
-/

namespace RecordMapper

/-- The names on the way from the root to an entry. -/
abbrev Location := List String

/-- A directory, or a file with its bytes. -/
inductive Entry
  | directory
  | file (bytes : List UInt8)
  deriving DecidableEq, Repr

/-- The greatest lengths, in bytes. -/
structure LengthLimits where
  name : Nat
  path : Nat
  deriving DecidableEq, Repr

/-- The limits of common file systems. -/
def LengthLimits.common : LengthLimits where
  name := 255
  path := 4095

/-- A tree of directories and files. The root is always there. Without limits, names and paths may
have any length. -/
structure FileTree where
  entries : List (Location × Entry)
  workingDirectory : Location
  limits? : Option LengthLimits
  deriving DecidableEq, Repr

namespace FileTree

/-- What is at a location. The root is always a directory. -/
def entryAt? (tree : FileTree) (location : Location) : Option Entry :=
  if location = [] then some .directory else tree.entries.lookup location

/-- Puts an entry into a list of entries, in the place of an earlier one at the same location. -/
def putIn (location : Location) (entry : Entry) :
    List (Location × Entry) → List (Location × Entry)
  | [] => [(location, entry)]
  | (other, held) :: rest =>
    if other = location then (location, entry) :: rest
    else (other, held) :: putIn location entry rest

/-- Puts an entry at a location, in the place of what is there. -/
def put (tree : FileTree) (location : Location) (entry : Entry) : FileTree :=
  { tree with entries := putIn location entry tree.entries }

/-! ## Following paths -/

/-- The pieces of a path that are steps. -/
def steps (path : Path) : List String :=
  path.pieces.filter fun piece => piece ≠ ""

/-- Where a walk along a path starts. -/
def startOf (tree : FileTree) (path : Path) : Location :=
  if path.isAbsolute then [] else tree.workingDirectory

/-- Whether a name is longer than the tree allows. -/
def nameTooLong (tree : FileTree) (name : String) : Bool :=
  tree.limits?.any fun limits => limits.name < name.utf8ByteSize

/-- Whether a path is longer than the tree allows. -/
def pathTooLong (tree : FileTree) (path : Path) : Bool :=
  tree.limits?.any fun limits => limits.path < path.text.utf8ByteSize

/-- Whether a step is a name, and neither a dot nor two dots. -/
def isName (step : String) : Bool :=
  step ≠ "." && step ≠ ".."

/-- The location that a step leads to, whatever is there: a dot stays, two dots go up, and a name
goes down. -/
def advance (location : Location) (step : String) : Location :=
  if step = "." then location
  else if step = ".." then location.dropLast
  else location ++ [step]

/-- Takes one step from a location, which has to be a directory. -/
def descend (tree : FileTree) (location : Location) (step : String) :
    Except FileFault Location :=
  match tree.entryAt? location with
  | none => .error .notFound
  | some (.file _) => .error .notADirectory
  | some .directory =>
    if isName step && tree.nameTooLong step then .error .tooLong else .ok (advance location step)

/-- What is wrong with a path before any step of it is taken. -/
def pathFault? (tree : FileTree) (path : Path) : Option FileFault :=
  if path.text.toList.contains '\x00' then some .nulInPath
  else if path.text.isEmpty then some .notFound
  else if tree.pathTooLong path then some .tooLong
  else none

/-- The location that the given steps lead to from the start of a path. -/
def follow (tree : FileTree) (path : Path) (steps : List String) : Except FileFault Location :=
  match tree.pathFault? path with
  | some fault => .error fault
  | none => steps.foldlM tree.descend (tree.startOf path)

/-- The location that a path leads to. There need not be an entry. -/
def locate (tree : FileTree) (path : Path) : Except FileFault Location :=
  tree.follow path (steps path)

/-- Whether a path ends in a slash, so that only a directory may be there. -/
def endsInSlash (path : Path) : Bool :=
  path.text.toList.getLast? = some '/'

/-- Whether the last step of a path is a name. A path without one names no new entry. -/
def endsInName (path : Path) : Bool :=
  (steps path).getLast?.any isName

/-- The entry that a path leads to. -/
def find (tree : FileTree) (path : Path) : Except FileFault (Location × Entry) := do
  let location ← tree.locate path
  match tree.entryAt? location with
  | none => .error .notFound
  | some (.file bytes) =>
    if endsInSlash path then .error .notADirectory else .ok (location, .file bytes)
  | some .directory => .ok (location, .directory)

/-! ## Operations -/

/-- The bytes of the file that a path leads to. -/
def readBytes (tree : FileTree) (path : Path) : Except FileFault (List UInt8) := do
  match ← tree.find path with
  | (_, .file bytes) => .ok bytes
  | (_, .directory) => .error .isADirectory

/-- Whether a path leads to a directory. -/
def isDirectory (tree : FileTree) (path : Path) : Bool :=
  match tree.find path with
  | .ok (_, .directory) => true
  | _ => false

/-- Whether a path leads to anything. -/
def isPresent (tree : FileTree) (path : Path) : Bool :=
  (tree.find path).toBool

/-- Makes a directory at a path that ends in a name and leads to nothing. -/
def makeDirectory (tree : FileTree) (path : Path) : Except FileFault FileTree := do
  let location ← tree.locate path
  if endsInName path && (tree.entryAt? location).isNone then .ok (tree.put location .directory)
  else .error .alreadyExists

/-- Makes an empty file, or empties the one that is there. Of a path that ends in a slash, which
cannot name a file, the last step is not taken. -/
def createFile (tree : FileTree) (path : Path) : Except FileFault FileTree := do
  if endsInSlash path then
    let _ ← tree.follow path ((steps path).dropLast ++ ["."])
    .error .isADirectory
  else
    let location ← tree.locate path
    if !endsInName path || tree.entryAt? location = some .directory then .error .isADirectory
    else .ok (tree.put location (.file []))

/-- Adds bytes to the end of the file that a path leads to. -/
def appendBytes (tree : FileTree) (path : Path) (added : List UInt8) :
    Except FileFault FileTree := do
  match ← tree.find path with
  | (location, .file bytes) => .ok (tree.put location (.file (bytes ++ added)))
  | (_, .directory) => .error .isADirectory

/-- Does an operation that changes the tree. A failing operation changes nothing. -/
def change (operation : FileTree → Except FileFault FileTree) :
    StateM FileTree (Except FileFault Unit) := do
  match operation (← get) with
  | .error fault => return .error fault
  | .ok tree =>
    set tree
    return .ok ()

/-- File access to a tree that is carried along as a state. -/
instance : FileAccess (StateM FileTree) where
  readBytes path := return (← get).readBytes path
  isDirectory path := return (← get).isDirectory path
  isPresent path := return (← get).isPresent path
  makeDirectory path := change (·.makeDirectory path)
  createFile path := change (·.createFile path)
  appendBytes path added := change (·.appendBytes path added)

/-! ## Trees from listings -/

/-- Takes steps from a location and puts a directory wherever one of them leads and none is. -/
def putDirectories (tree : FileTree) (location : Location) : List String → FileTree
  | [] => tree
  | step :: rest =>
    let next := advance location step
    if tree.entryAt? next = some .directory then tree.putDirectories next rest
    else (tree.put next .directory).putDirectories next rest

/-- The tree that has only a working directory and what is above it. -/
def emptyAt (limits? : Option LengthLimits) (workingDirectory : Location) : FileTree :=
  putDirectories ⟨[], workingDirectory, limits?⟩ [] workingDirectory

/-- Adds a listed item, by its path from the working directory. A path that does not end in a name
is a directory; the directories on the way to an item are added with it. -/
def addListed (tree : FileTree) (item : String × String) : FileTree :=
  let path : Path := ⟨item.1⟩
  let start := tree.startOf path
  if endsInSlash path || !endsInName path then tree.putDirectories start (steps path)
  else
    (tree.putDirectories start (steps path).dropLast).put ((steps path).foldl advance start)
      (.file (Text.Utf8.encode item.2))

/-- The tree that holds the listed items in the working directory. -/
def ofListing (limits? : Option LengthLimits) (workingDirectory : Location)
    (items : List (String × String)) : FileTree :=
  items.foldl addListed (emptyAt limits? workingDirectory)

/-- The listing of a location's entry, seen from the working directory. Files have a text,
directories a slash after their path. Nothing outside the working directory is listed. -/
def listed? (tree : FileTree) (location : Location) (entry : Entry) :
    Option (String × Option String) :=
  if tree.workingDirectory.isPrefixOf location then
    match location.drop tree.workingDirectory.length with
    | [] => none
    | names =>
      let path := "/".intercalate names
      match entry with
      | .directory => some (path ++ "/", none)
      | .file bytes => some (path, some (Text.Utf8.decodeLossy bytes))
  else none

/-- The entries below the working directory with the texts of the files, as they are listed. -/
def listing (tree : FileTree) : List (String × Option String) :=
  tree.entries.filterMap fun (location, entry) => tree.listed? location entry

end FileTree

end RecordMapper
