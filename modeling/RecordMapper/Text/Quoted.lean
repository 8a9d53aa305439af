import RecordMapper.Text.Printable

/-!
# Quoted text

How a name or a value is shown inside a message: between quotation marks, with the marks and the
backslash escaped, the common control characters as letters, and every other character that cannot
be shown as its code point. `quote` shows a text, `quoteChar` a single character.
-/

namespace RecordMapper.Text

/-- One character of a quoted text. The enclosing mark is escaped, the other mark is not. -/
def escapeChar (mark : Char) (c : Char) : List Char :=
  if c = '\x00' then ['\\', '0']
  else if c = '\t' then ['\\', 't']
  else if c = '\r' then ['\\', 'r']
  else if c = '\n' then ['\\', 'n']
  else if c = '\\' || c = mark then ['\\', c]
  else if isPrintable c then [c]
  else ['\\', 'u', '\x7b'] ++ Nat.toDigits 16 c.toNat ++ ['\x7d']

/-- A text in double quotes, with escapes. -/
def quote (s : String) : String :=
  String.ofList ('"' :: s.toList.flatMap (escapeChar '"') ++ ['"'])

/-- A character in single quotes, with an escape if it needs one. -/
def quoteChar (c : Char) : String :=
  String.ofList ('\'' :: escapeChar '\'' c ++ ['\''])

end RecordMapper.Text
