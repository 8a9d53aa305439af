/-!
# File faults

Why reading or writing a file fails. The texts of the first five are those of the operating system,
with their numbers.
-/

namespace RecordMapper

/-- Why a file operation fails. -/
inductive FileFault
  | notFound
  | alreadyExists
  | notADirectory
  | isADirectory
  | tooLong
  | nulInPath
  | notText
  /-- Any other reason, in words. -/
  | refused (reason : String)
  deriving DecidableEq, Repr

/-- The text of a fault, as the system words it. -/
def FileFault.message : FileFault → String
  | notFound => "No such file or directory (os error 2)"
  | alreadyExists => "File exists (os error 17)"
  | notADirectory => "Not a directory (os error 20)"
  | isADirectory => "Is a directory (os error 21)"
  | tooLong => "File name too long (os error 36)"
  | nulInPath => "file name contained an unexpected NUL byte"
  | notText => "stream did not contain valid UTF-8"
  | refused reason => reason

end RecordMapper
