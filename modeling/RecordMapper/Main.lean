import RecordMapper.CommandLine

/-!
# The program

File access to the real file system, and the entry point that prints what a run leaves behind.
-/

namespace RecordMapper.FileAccess

/-- The fault with this error number, or with these words if the number is another one. The runtime
gives some numbers with a minus sign. -/
def faultOfNumber (number : UInt32) (words : String) : FileFault :=
  if number = 2 || number = -2 then .notFound
  else if number = 17 || number = -17 then .alreadyExists
  else if number = 20 || number = -20 then .notADirectory
  else if number = 21 || number = -21 then .isADirectory
  else if number = 36 || number = -36 then .tooLong
  else .refused words

/-- The fault behind an error of the runtime. -/
def faultOfError (error : IO.Error) : FileFault :=
  match error with
  | .noFileOrDirectory _ number words => faultOfNumber number words
  | .alreadyExists _ number words => faultOfNumber number words
  | .inappropriateType _ number words => faultOfNumber number words
  | .invalidArgument _ number words => faultOfNumber number words
  | other => .refused (toString other)

/-- The result of an action, with its error as a fault. -/
def attempt {α : Type} (action : IO α) : IO (Except FileFault α) := do
  match ← action.toBaseIO with
  | .ok value => return .ok value
  | .error error => return .error (faultOfError error)

/-- Whether the file can be opened for reading. -/
def canOpen (path : String) : IO Bool := do
  return (← attempt (IO.FS.Handle.mk path .read)).toBool

/-- Whether there is a directory at a path: it can be opened, but not read as a file. -/
def opensAsDirectory (path : String) : IO Bool := do
  let firstByte ← attempt do
    let handle ← IO.FS.Handle.mk path .read
    handle.read 1
  return match firstByte with
    | .error .isADirectory => true
    | _ => false

/-- File access to the file system. -/
instance : FileAccess IO where
  readBytes path := attempt do
    return (← IO.FS.readBinFile path.text).toList
  isDirectory path := opensAsDirectory path.text
  isPresent path := canOpen path.text
  makeDirectory path := attempt (IO.FS.createDir path.text)
  createFile path := attempt do
    let _ ← IO.FS.Handle.mk path.text .write
  appendBytes path added := attempt do
    let handle ← IO.FS.Handle.mk path.text .append
    handle.write ⟨added.toArray⟩

end RecordMapper.FileAccess

/-- Runs the program on its arguments. -/
def main (words : List String) : IO UInt32 := do
  let exit ← RecordMapper.CommandLine.run (m := IO) words
  IO.print exit.stdout
  IO.eprint exit.stderr
  return exit.status.toUInt32
