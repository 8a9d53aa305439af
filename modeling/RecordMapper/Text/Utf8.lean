/-!
# UTF-8

`encode` gives the bytes of a text. Reading goes piece by piece: a piece is either one well-formed
character or a longest run of bytes that begins a character and does not finish it. `decode?`
refuses a text with a broken piece, `decodeLossy` puts the replacement character in its place, and
`brokenAt?` says where the first broken piece begins.
-/

namespace RecordMapper.Text.Utf8

/-- The bytes of a text. -/
def encode (s : String) : List UInt8 :=
  s.toList.flatMap String.utf8EncodeChar

/-- What stands at the front of a byte sequence: a character, or `none` for a broken piece, and the
number of bytes after the first one that belong to it. -/
structure Piece where
  char? : Option Char
  tail : Nat

/-- Whether a byte can come after the first one of a character. -/
def isContinuation (b : UInt8) : Bool :=
  0x80 ≤ b && b ≤ 0xBF

/-- The range of the second byte of a character of three bytes, which keeps out overlong forms and
surrogates. -/
def secondOfThree (first second : UInt8) : Bool :=
  if first = 0xE0 then 0xA0 ≤ second && second ≤ 0xBF
  else if first = 0xED then 0x80 ≤ second && second ≤ 0x9F
  else isContinuation second

/-- The range of the second byte of a character of four bytes, which keeps out overlong forms and
code points past the last one. -/
def secondOfFour (first second : UInt8) : Bool :=
  if first = 0xF0 then 0x90 ≤ second && second ≤ 0xBF
  else if first = 0xF4 then 0x80 ≤ second && second ≤ 0x8F
  else isContinuation second

/-- The bits of a continuation byte that count. -/
def payload (b : UInt8) : Nat :=
  b.toNat - 0x80

/-- The piece that begins with the byte `first`, before the bytes `rest`. -/
def Piece.read (first : UInt8) (rest : List UInt8) : Piece :=
  if first < 0x80 then ⟨some (Char.ofNat first.toNat), 0⟩
  else if 0xC2 ≤ first && first ≤ 0xDF then
    match rest with
    | second :: _ =>
      if isContinuation second then
        ⟨some (Char.ofNat ((first.toNat - 0xC0) * 0x40 + payload second)), 1⟩
      else ⟨none, 0⟩
    | [] => ⟨none, 0⟩
  else if 0xE0 ≤ first && first ≤ 0xEF then
    match rest with
    | second :: third :: _ =>
      if !secondOfThree first second then ⟨none, 0⟩
      else if !isContinuation third then ⟨none, 1⟩
      else
        ⟨some (Char.ofNat ((first.toNat - 0xE0) * 0x1000 + payload second * 0x40
          + payload third)), 2⟩
    | [second] => ⟨none, if secondOfThree first second then 1 else 0⟩
    | [] => ⟨none, 0⟩
  else if 0xF0 ≤ first && first ≤ 0xF4 then
    match rest with
    | second :: third :: fourth :: _ =>
      if !secondOfFour first second then ⟨none, 0⟩
      else if !isContinuation third then ⟨none, 1⟩
      else if !isContinuation fourth then ⟨none, 2⟩
      else
        ⟨some (Char.ofNat ((first.toNat - 0xF0) * 0x40000 + payload second * 0x1000
          + payload third * 0x40 + payload fourth)), 3⟩
    | [second, third] =>
      ⟨none, if !secondOfFour first second then 0 else if isContinuation third then 2 else 1⟩
    | [second] => ⟨none, if secondOfFour first second then 1 else 0⟩
    | [] => ⟨none, 0⟩
  else ⟨none, 0⟩

/-- The pieces of a byte sequence, in order. -/
def pieces : List UInt8 → List Piece
  | [] => []
  | first :: rest =>
    let piece := Piece.read first rest
    piece :: pieces (rest.drop piece.tail)
termination_by bytes => bytes.length
decreasing_by
  rw [List.length_drop, List.length_cons]
  omega

/-- The characters of a well-formed byte sequence, `none` if a piece of it is broken. -/
def decode? (bytes : List UInt8) : Option (List Char) :=
  (pieces bytes).mapM Piece.char?

/-- The text of a byte sequence, with U+FFFD for each broken piece. -/
def decodeLossy (bytes : List UInt8) : String :=
  String.ofList ((pieces bytes).map fun piece => piece.char?.getD '\uFFFD')

/-- The number of bytes before the first broken piece, if there is one. -/
def brokenAt? (bytes : List UInt8) : Option Nat :=
  go 0 (pieces bytes)
where
  /-- The search, with the number of bytes of the pieces passed so far. -/
  go (before : Nat) : List Piece → Option Nat
    | [] => none
    | piece :: rest =>
      match piece.char? with
      | none => some before
      | some _ => go (before + 1 + piece.tail) rest

end RecordMapper.Text.Utf8
