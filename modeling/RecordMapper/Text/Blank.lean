import RecordMapper.Text.CharClass

/-!
# White space

`isBlank` is the Unicode property White_Space. The zero-width characters and the byte order mark are
not in it. `trim` removes blank characters from both ends of a text.
-/

namespace RecordMapper.Text

/-- The characters with the property White_Space. -/
def blanks : CharClass := ⟨[
  (0x9, 0xD), (0x20, 0x20), (0x85, 0x85), (0xA0, 0xA0), (0x1680, 0x1680), (0x2000, 0x200A),
  (0x2028, 0x2029), (0x202F, 0x202F), (0x205F, 0x205F), (0x3000, 0x3000)]⟩

/-- A white space character of any script. -/
def isBlank (c : Char) : Bool :=
  blanks.contains c

/-- The characters of a text without the blank ones at its two ends. -/
def trimChars (cs : List Char) : List Char :=
  ((cs.dropWhile isBlank).reverse.dropWhile isBlank).reverse

/-- A text without the blank characters at its two ends. -/
def trim (s : String) : String :=
  String.ofList (trimChars s.toList)

/-- A text of blank characters only; the empty text is one. -/
def isBlankText (s : String) : Bool :=
  s.toList.all isBlank

end RecordMapper.Text
