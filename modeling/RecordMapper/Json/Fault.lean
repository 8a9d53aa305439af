/-!
# Faults of JSON texts

What is wrong with a text that is not JSON, and where. A place is given by the number of bytes after
the offending one; the line and the column follow from it and the whole text.
-/

namespace RecordMapper.Json

/-- What is wrong with a text. -/
inductive FaultKind
  | endInValue
  | endInArray
  | endInObject
  | endInString
  | expectedColon
  | expectedArrayEnd
  | expectedObjectEnd
  | expectedWord
  | expectedValue
  | badEscape
  | badNumber
  | numberOutOfRange
  | badCodePoint
  | controlCharacter
  | keyNotString
  | loneSurrogate
  | trailingComma
  | trailingCharacters
  | unpairedSurrogate
  | tooDeep
  deriving DecidableEq, Repr

/-- A fault with the number of bytes after the offending one. -/
structure Fault where
  kind : FaultKind
  left : Nat
  deriving DecidableEq, Repr

/-- The text of a fault, without its place. -/
def FaultKind.message : FaultKind → String
  | endInValue => "EOF while parsing a value"
  | endInArray => "EOF while parsing a list"
  | endInObject => "EOF while parsing an object"
  | endInString => "EOF while parsing a string"
  | expectedColon => "expected `:`"
  | expectedArrayEnd => "expected `,` or `]`"
  | expectedObjectEnd => "expected `,` or `\x7d`"
  | expectedWord => "expected ident"
  | expectedValue => "expected value"
  | badEscape => "invalid escape"
  | badNumber => "invalid number"
  | numberOutOfRange => "number out of range"
  | badCodePoint => "invalid unicode code point"
  | controlCharacter => "control character (\\u0000-\\u001F) found while parsing a string"
  | keyNotString => "key must be a string"
  | loneSurrogate => "lone leading surrogate in hex escape"
  | trailingComma => "trailing comma"
  | trailingCharacters => "trailing characters"
  | unpairedSurrogate => "unexpected end of hex escape"
  | tooDeep => "recursion limit exceeded"

/-- A fault with its line and column. Lines count from one; the column is the number of bytes from
the last line break up to the offending byte, and that byte counts. -/
structure PlacedFault where
  kind : FaultKind
  line : Nat
  column : Nat
  deriving DecidableEq, Repr

/-- The byte that ends a line. -/
def newline : UInt8 := 0x0A

/-- The fault with its place in the text `bytes`. -/
def Fault.placedIn (bytes : List UInt8) (fault : Fault) : PlacedFault :=
  let through := bytes.take (bytes.length - fault.left)
  { kind := fault.kind
    line := 1 + through.count newline
    column := (through.reverse.takeWhile (· ≠ newline)).length }

/-- The text of a fault with its place. -/
def PlacedFault.message (fault : PlacedFault) : String :=
  fault.kind.message ++ " at line " ++ toString fault.line ++ " column " ++ toString fault.column

/-- The fault of the byte before `rest`, or of the end of the text if `rest` is empty. -/
def failBefore {α : Type} (rest : List UInt8) (kind : FaultKind) : Except Fault α :=
  .error ⟨kind, rest.length⟩

/-- The fault of a text that ends too early. -/
def failAtEnd {α : Type} (kind : FaultKind) : Except Fault α :=
  .error ⟨kind, 0⟩

/-- Whether a byte is that of a character below 128. -/
def isByte (c : Char) (b : UInt8) : Bool :=
  b.toNat = c.toNat

end RecordMapper.Json
