import RecordMapper.Text.Letter
import RecordMapper.Text.Quoted

/-!
# File names

The base name of a generated file, without its extension. It has to stay a single component of a
path, so it holds letters, digits, underscores, hyphens and dots only, does not begin with a dot and
has no two dots in a row.
-/

namespace RecordMapper.FileName

open RecordMapper.Text

/-- A character that can stand in a file name. -/
def isPart (c : Char) : Bool :=
  isLetterOrDigit c || c = '_' || c = '-' || c = '.'

/-- Whether there are two dots in a row. -/
def hasDoubleDot : List Char → Bool
  | '.' :: '.' :: _ => true
  | _ :: rest => hasDoubleDot rest
  | [] => false

/-- Why a text is not a file name. -/
inductive Fault
  | empty
  | dots
  | badPart (c : Char)
  deriving DecidableEq, Repr

/-- The first reason why a text is not a file name, `none` if it is one. -/
def fault? (name : String) : Option Fault :=
  let characters := name.toList
  if characters.isEmpty then some .empty
  else if characters.head? = some '.' || hasDoubleDot characters then some .dots
  else (characters.find? fun c => !isPart c).map .badPart

/-- The text of a fault of a name. -/
def Fault.message (name : String) : Fault → String
  | empty => "file name must be non-empty"
  | dots => "file name must not start with '.' or contain '..': " ++ quote name
  | badPart c =>
    "invalid file name char " ++ quoteChar c ++ " (allowed letters, digits, '_', '-', '.'): "
      ++ quote name

end RecordMapper.FileName
