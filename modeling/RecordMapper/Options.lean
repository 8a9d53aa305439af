import RecordMapper.Name.FileName
import RecordMapper.Name.Qualified
import RecordMapper.Text.Blank

/-!
# Options

The settings of a run: the package and the name of the generated file, and whether type arguments
are erased. Each setter checks its value. Key and value pairs are applied in order up to the first
bad one, and the pairs before it stay applied.
-/

namespace RecordMapper

open RecordMapper.Text

/-- The settings of a run. -/
structure Options where
  package : String
  fileName : String
  eraseGenerics : Bool
  deriving DecidableEq, Repr

/-- Why an option is refused. -/
inductive OptionFault
  | malformed (raw : String)
  | invalidBool (key value : String)
  | invalidPackage (package : String) (fault : QualifiedName.Fault)
  | emptyFileName
  | invalidFileName (fileName : String) (fault : FileName.Fault)
  deriving DecidableEq, Repr

/-- The text of a fault. -/
def OptionFault.message : OptionFault → String
  | malformed raw => "option must be key=value, got " ++ quote raw
  | invalidBool key value => "option " ++ key ++ " expects true or false, got " ++ quote value
  | invalidPackage package fault =>
    "invalid package " ++ quote package ++ ": " ++ fault.message package
  | emptyFileName => "option fileName must not be empty"
  | invalidFileName fileName fault =>
    "invalid fileName " ++ quote fileName ++ ": " ++ fault.message fileName

namespace Options

/-- The settings of a run without options. -/
def default : Options where
  package := "ron"
  fileName := "GeneratedMapperFunctions"
  eraseGenerics := false

/-- Sets the package to a trimmed qualified name. -/
def setPackage (options : Options) (value : String) : Except OptionFault Options :=
  let package := trim value
  match QualifiedName.fault? package with
  | some fault => .error (.invalidPackage package fault)
  | none => .ok { options with package := package }

/-- Sets the file name to a trimmed file name. -/
def setFileName (options : Options) (value : String) : Except OptionFault Options :=
  let fileName := trim value
  if fileName.isEmpty then .error .emptyFileName
  else
    match FileName.fault? fileName with
    | some fault => .error (.invalidFileName fileName fault)
    | none => .ok { options with fileName := fileName }

/-- Sets whether type arguments are erased. The key is for the message only. -/
def setErasure (options : Options) (key value : String) : Except OptionFault Options :=
  match trim value with
  | "true" => .ok { options with eraseGenerics := true }
  | "false" => .ok { options with eraseGenerics := false }
  | other => .error (.invalidBool key other)

/-- What a key sets. -/
inductive Setting
  | erasure
  | package
  | fileName
  deriving DecidableEq, Repr

/-- The setting of a key. Erasure has two keys; other keys set nothing. -/
def Setting.ofKey? (key : String) : Option Setting :=
  if key = "ignoreGenericArgs" || key = "eraseGenerics" then some .erasure
  else if key = "package" then some .package
  else if key = "fileName" then some .fileName
  else none

/-- Applies one pair. A key that sets nothing is ignored, whatever its value. -/
def apply (options : Options) (key value : String) : Except OptionFault Options :=
  match Setting.ofKey? key with
  | some .erasure => options.setErasure key value
  | some .package => options.setPackage value
  | some .fileName => options.setFileName value
  | none => .ok options

/-- Applies pairs in order up to the first bad one: the options reached, and its fault. -/
def applyAll (options : Options) : List (String × String) → Options × Option OptionFault
  | [] => (options, none)
  | (key, value) :: rest =>
    match options.apply key value with
    | .error fault => (options, some fault)
    | .ok next => next.applyAll rest

end Options

/-- Splits a text at its first equals sign into a key and a value, both trimmed. The key must not be
blank. -/
def parseKeyValue (raw : String) : Except OptionFault (String × String) :=
  let characters := raw.toList
  let key := trim (String.ofList (characters.takeWhile (· ≠ '=')))
  match characters.dropWhile (· ≠ '=') with
  | [] => .error (.malformed raw)
  | _ :: value =>
    if key.isEmpty then .error (.malformed raw) else .ok (key, trim (String.ofList value))

end RecordMapper
