import RecordMapper.Json

/-!
# Writing JSON

`Json.pretty` writes a value over several lines: each item and each entry on a line of its own,
indented by two spaces per level. Empty arrays and objects stay on one line.
-/

namespace RecordMapper.Json

/-- One character of a string. Only quotation marks, backslashes and control characters below U+0020
are escaped. -/
def escapeChar (c : Char) : List Char :=
  if c = '"' then ['\\', '"']
  else if c = '\\' then ['\\', '\\']
  else if c = '\x08' then ['\\', 'b']
  else if c = '\x0c' then ['\\', 'f']
  else if c = '\n' then ['\\', 'n']
  else if c = '\r' then ['\\', 'r']
  else if c = '\t' then ['\\', 't']
  else if c.toNat < 0x20 then
    ['\\', 'u', '0', '0', Nat.digitChar (c.toNat / 16), Nat.digitChar (c.toNat % 16)]
  else [c]

/-- A text as a JSON string, in quotes and with escapes. -/
def stringText (s : String) : String :=
  String.ofList ('"' :: s.toList.flatMap escapeChar ++ ['"'])

/-- A line break and the indentation of a level. -/
def lineBreak (level : Nat) : String :=
  String.ofList ('\n' :: List.replicate (2 * level) ' ')

/-- Parts between two brackets, each on a line of the level after `level`. -/
def block (left right : String) (level : Nat) (parts : List String) : String :=
  if parts.isEmpty then left ++ right
  else
    left ++ lineBreak (level + 1) ++ ("," ++ lineBreak (level + 1)).intercalate parts
      ++ lineBreak level ++ right

mutual

/-- The text of a value that stands at a level of indentation. -/
def prettyAt (level : Nat) : Json → String
  | .null => "null"
  | .bool value => if value then "true" else "false"
  | .number value => value.text
  | .string value => stringText value
  | .array items => block "[" "]" level (prettyItems (level + 1) items)
  | .object entries => block "\x7b" "\x7d" level (prettyEntries (level + 1) entries)

/-- The texts of the items of an array. -/
def prettyItems (level : Nat) : List Json → List String
  | [] => []
  | item :: rest => prettyAt level item :: prettyItems level rest

/-- The texts of the entries of an object. -/
def prettyEntries (level : Nat) : List (String × Json) → List String
  | [] => []
  | (key, value) :: rest =>
    (stringText key ++ ": " ++ prettyAt level value) :: prettyEntries level rest

end

/-- The text of a value over several lines, indented by two spaces for each level. -/
def pretty (value : Json) : String :=
  value.prettyAt 0

end RecordMapper.Json
