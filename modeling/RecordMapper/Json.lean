import RecordMapper.Number.ShortestDecimal
import RecordMapper.Text.Quoted

/-!
# JSON values

A JSON value keeps whole numbers apart from floating point numbers. The entries of an object stand
in a list; an object that was read has each key once, in ascending order.
-/

namespace RecordMapper

/-- A number: a whole one of at most 64 bits, or a floating point number. -/
inductive JsonNumber
  | integer (value : Int)
  | real (negative : Bool) (magnitude : Binary64)
  deriving DecidableEq, Repr

/-- A JSON value. -/
inductive Json
  | null
  | bool (value : Bool)
  | number (value : JsonNumber)
  | string (value : String)
  | array (items : List Json)
  | object (entries : List (String × Json))
  deriving Repr, Inhabited

/-- The text of a number. -/
def JsonNumber.text : JsonNumber → String
  | integer value => toString value
  | real negative magnitude => (if negative then "-" else "") ++ magnitude.text

namespace Json

/-- Puts an entry into a list of entries with ascending keys. An entry of the same key is replaced.
-/
def putEntry (key : String) (value : Json) : List (String × Json) → List (String × Json)
  | [] => [(key, value)]
  | (other, held) :: rest =>
    if key = other then (key, value) :: rest
    else if key < other then (key, value) :: (other, held) :: rest
    else (other, held) :: putEntry key value rest

/-- The value of the first entry with this key. -/
def lookup? (key : String) (entries : List (String × Json)) : Option Json :=
  (entries.find? fun entry => entry.1 = key).map (·.2)

/-- What kind of value stands somewhere, for a message. -/
def kindText : Json → String
  | null => "null"
  | bool value => "boolean `" ++ (if value then "true" else "false") ++ "`"
  | number value@(.integer _) => "integer `" ++ value.text ++ "`"
  | number value@(.real ..) => "floating point `" ++ value.text ++ "`"
  | string value => "string " ++ Text.quote value
  | array _ => "sequence"
  | object _ => "map"

end Json

end RecordMapper
