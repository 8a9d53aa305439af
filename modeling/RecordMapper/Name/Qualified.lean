import RecordMapper.Name.Identifier

/-!
# Qualified names

A qualified name is one or more identifiers with dots between them. Packages, declarations and types
are named so.
-/

namespace RecordMapper.QualifiedName

open RecordMapper.Text

/-- The pieces of a text between its dots. A text without a dot is its only piece. -/
def segments (name : String) : List String :=
  (name.toList.splitOn '.').map String.ofList

/-- What is after the last dot, or the whole name if it has none. -/
def lastSegment (name : String) : String :=
  (segments name).getLastD name

/-- Why a text is not a qualified name. -/
inductive Fault
  | empty
  | emptySegment
  | badSegment (segment : String) (fault : Identifier.Fault)
  deriving DecidableEq, Repr

/-- The reason why a piece cannot stand in a qualified name. -/
def segmentFault? (segment : String) : Option Fault :=
  if segment.isEmpty then some .emptySegment
  else (Identifier.fault? segment).map (.badSegment segment)

/-- The first reason why a text is not a qualified name, `none` if it is one. -/
def fault? (name : String) : Option Fault :=
  if name.isEmpty then some .empty else (segments name).findSome? segmentFault?

/-- The text of a fault of a name. -/
def Fault.message (name : String) : Fault → String
  | empty => "qualified name must be non-empty"
  | emptySegment => "empty segment in qualified name: " ++ quote name
  | badSegment segment fault =>
    "invalid segment in qualified name " ++ quote name ++ ": " ++ fault.message segment

end RecordMapper.QualifiedName
