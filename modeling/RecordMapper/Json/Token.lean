import RecordMapper.Json.NumberScan
import RecordMapper.Json.StringScan
import RecordMapper.Text.Utf8

/-!
# Tokens of JSON texts

`tokens` splits a text into marks, words, numbers and strings. White space separates tokens. A token
that begins well and goes wrong carries its fault, and nothing is read after it.
-/

namespace RecordMapper.Json

open RecordMapper.Text

/-- What a token is. -/
inductive Lexeme
  | openArray
  | closeArray
  | openObject
  | closeObject
  | comma
  | colon
  | string (value : String)
  /-- A word or a number. -/
  | scalar (value : Json)
  | brokenString (fault : Fault)
  | brokenScalar (fault : Fault)
  /-- A byte that begins no token. -/
  | stray
  deriving Repr

/-- A token with the bytes after its first one. -/
structure Token where
  lexeme : Lexeme
  after : List UInt8
  deriving Repr

/-- The bytes that separate tokens: space, tab, line feed and carriage return. -/
def isSpace (b : UInt8) : Bool :=
  b = 0x20 || b = 0x09 || b = 0x0A || b = 0x0D

/-- Scans the letters of a word. -/
def scanWord : List Char → List UInt8 → Except Fault (List UInt8)
  | [], rest => .ok rest
  | _ :: _, [] => failAtEnd .endInValue
  | letter :: letters, b :: rest =>
    if isByte letter b then scanWord letters rest else failBefore rest .expectedWord

/-- The lexeme of a word whose letters after the first one are given. -/
def wordLexeme (value : Json) (letters : List Char) (rest : List UInt8) : Lexeme × List UInt8 :=
  match scanWord letters rest with
  | .ok rest => (.scalar value, rest)
  | .error fault => (.brokenScalar fault, [])

/-- Scans a number as a lexeme. Nothing is left to be scanned after a bad one. -/
def numberLexeme (bytes : List UInt8) : Lexeme × List UInt8 :=
  match scanNumber bytes with
  | .ok (scanned, rest) => (.scalar (.number scanned), rest)
  | .error fault => (.brokenScalar fault, [])

/-- The lexeme of a string after its opening mark. The text of the string, with its escapes
replaced, has to be well-formed. If not, the fault is as many bytes before the end of the string as
there are in that text from the first broken byte on; without escapes this is the broken byte
itself. -/
def stringLexeme (bytes : List UInt8) : Lexeme × List UInt8 :=
  match scanString bytes with
  | .error fault => (.brokenString fault, [])
  | .ok (text, rest) =>
    match Utf8.decode? text with
    | some characters => (.string (String.ofList characters), rest)
    | none =>
      let intact := (Utf8.brokenAt? text).getD 0
      (.brokenString ⟨.badCodePoint, rest.length + (text.length - intact)⟩, [])

/-- The lexeme that begins with the byte `first`, and the bytes after it. -/
def readLexeme (first : UInt8) (rest : List UInt8) : Lexeme × List UInt8 :=
  if isByte '[' first then (.openArray, rest)
  else if isByte ']' first then (.closeArray, rest)
  else if isByte '\x7b' first then (.openObject, rest)
  else if isByte '\x7d' first then (.closeObject, rest)
  else if isByte ',' first then (.comma, rest)
  else if isByte ':' first then (.colon, rest)
  else if isByte '"' first then stringLexeme rest
  else if isByte 'n' first then wordLexeme .null ['u', 'l', 'l'] rest
  else if isByte 't' first then wordLexeme (.bool true) ['r', 'u', 'e'] rest
  else if isByte 'f' first then wordLexeme (.bool false) ['a', 'l', 's', 'e'] rest
  else if isByte '-' first || isDigit first then numberLexeme (first :: rest)
  else (.stray, [])

theorem length_scanWord_le {letters : List Char} {bytes rest : List UInt8}
    (scanned : scanWord letters bytes = .ok rest) : rest.length ≤ bytes.length := by
  fun_induction scanWord letters bytes <;> grind [failAtEnd, failBefore]

theorem length_wordLexeme_le (value : Json) (letters : List Char) (rest : List UInt8) :
    (wordLexeme value letters rest).2.length ≤ rest.length := by
  have word := @length_scanWord_le
  grind [wordLexeme]

theorem length_numberLexeme_le (first : UInt8) (rest : List UInt8) :
    (numberLexeme (first :: rest)).2.length ≤ rest.length := by
  have shorter := @length_scanNumber_lt (first :: rest)
  grind [numberLexeme]

theorem length_stringLexeme_le (rest : List UInt8) :
    (stringLexeme rest).2.length ≤ rest.length := by
  have shorter := @length_scanString_lt rest
  grind [stringLexeme]

/-- What is left after a token is not longer than what is left after its first byte. -/
theorem length_readLexeme_le (first : UInt8) (rest : List UInt8) :
    (readLexeme first rest).2.length ≤ rest.length := by
  have words := length_wordLexeme_le
  have numbers := length_numberLexeme_le first rest
  have strings := length_stringLexeme_le rest
  unfold readLexeme
  repeat' split
  all_goals first | exact Nat.le_refl _ | exact words _ _ _ | assumption | exact Nat.zero_le _

/-- The tokens of a text. -/
def tokens : List UInt8 → List Token
  | [] => []
  | first :: rest =>
    if isSpace first then tokens rest
    else
      ⟨(readLexeme first rest).1, rest⟩ :: tokens (readLexeme first rest).2
termination_by bytes => bytes.length
decreasing_by
  · rw [List.length_cons]
    omega
  · have := length_readLexeme_le first rest
    rw [List.length_cons]
    omega

end RecordMapper.Json
