import RecordMapper.Json.Token

/-!
# Reading JSON

`Json.read` reads a text into a value. The reader takes the tokens one at a time; its state is the
stack of the arrays and objects that are open, and what may come next. A text may open 127 arrays
and objects inside each other.
-/

namespace RecordMapper.Json

/-- An array or an object that is still open, with what it holds so far. -/
inductive Frame
  /-- The items so far, the last one first. -/
  | array (items : List Json)
  /-- The entries so far, and the key of the value that is being read. -/
  | object (entries : List (String × Json)) (key : String)
  deriving Repr

/-- What may come next. -/
inductive Expected
  /-- Any value. -/
  | value
  /-- The first item of an array, or its end. -/
  | firstItem
  /-- An item after a comma. -/
  | nextItem
  /-- The first key of an object, or its end. -/
  | firstKey
  /-- A key after a comma; the entries so far. -/
  | nextKey (entries : List (String × Json))
  /-- The colon after a key. -/
  | colon
  /-- What may follow a complete value. -/
  | afterValue (value : Json)
  deriving Repr

/-- The state of the reader: the open arrays and objects, the innermost first, and what may come
next. -/
structure Reader where
  open? : List Frame
  expected : Expected
  deriving Repr

/-- The number of arrays and objects that may be open at once. -/
def maxDepth : Nat := 127

namespace Reader

/-- Before a document a value is expected. -/
def start : Reader :=
  ⟨[], .value⟩

/-- The state after a complete value, which goes into the innermost open array or object. -/
def complete (frames : List Frame) (value : Json) : Reader :=
  match frames with
  | .array items :: outer => ⟨.array (value :: items) :: outer, .afterValue value⟩
  | .object entries key :: outer =>
    ⟨.object (putEntry key value entries) key :: outer, .afterValue value⟩
  | [] => ⟨[], .afterValue value⟩

/-- The state after the start of an array or an object. -/
def descend (frames : List Frame) (frame : Frame) (expected : Expected) (after : List UInt8) :
    Except Fault Reader :=
  if maxDepth ≤ frames.length then failBefore after .tooDeep else .ok ⟨frame :: frames, expected⟩

/-- Takes a token where a value is expected. -/
def takeValue (frames : List Frame) (token : Token) : Except Fault Reader :=
  match token.lexeme with
  | .openArray => descend frames (.array []) .firstItem token.after
  | .openObject => descend frames (.object [] "") .firstKey token.after
  | .string value => .ok (complete frames (.string value))
  | .scalar value => .ok (complete frames value)
  | .brokenString fault | .brokenScalar fault => .error fault
  | .closeArray | .closeObject | .comma | .colon | .stray =>
    failBefore token.after .expectedValue

/-- Takes a token where a key has to stand. -/
def takeKey (outer : List Frame) (entries : List (String × Json)) (token : Token) :
    Except Fault Reader :=
  match token.lexeme with
  | .string key => .ok ⟨.object entries key :: outer, .colon⟩
  | .brokenString fault => .error fault
  | _ => failBefore token.after .keyNotString

/-- Takes one token. -/
def step (reader : Reader) (token : Token) : Except Fault Reader :=
  match reader.expected, reader.open? with
  | .value, frames => takeValue frames token
  | .firstItem, frames =>
    match token.lexeme with
    | .closeArray => .ok (complete frames.tail (.array []))
    | _ => takeValue frames token
  | .nextItem, frames =>
    match token.lexeme with
    | .closeArray => failBefore token.after .trailingComma
    | _ => takeValue frames token
  | .firstKey, frames =>
    match token.lexeme with
    | .closeObject => .ok (complete frames.tail (.object []))
    | _ => takeKey frames.tail [] token
  | .nextKey entries, frames =>
    match token.lexeme with
    | .closeObject => failBefore token.after .trailingComma
    | _ => takeKey frames.tail entries token
  | .colon, frames =>
    match token.lexeme with
    | .colon => .ok ⟨frames, .value⟩
    | _ => failBefore token.after .expectedColon
  | .afterValue _, .array items :: outer =>
    match token.lexeme with
    | .comma => .ok ⟨.array items :: outer, .nextItem⟩
    | .closeArray => .ok (complete outer (.array items.reverse))
    | _ => failBefore token.after .expectedArrayEnd
  | .afterValue _, .object entries key :: outer =>
    match token.lexeme with
    | .comma => .ok ⟨.object entries key :: outer, .nextKey entries⟩
    | .closeObject => .ok (complete outer (.object entries))
    | _ => failBefore token.after .expectedObjectEnd
  | .afterValue _, [] => failBefore token.after .trailingCharacters

/-- The value that was read when the text ends. -/
def finish (reader : Reader) : Except Fault Json :=
  match reader.expected, reader.open? with
  | .afterValue value, [] => .ok value
  | .afterValue _, .array _ :: _ => failAtEnd .endInArray
  | .afterValue _, .object .. :: _ => failAtEnd .endInObject
  | .firstItem, _ => failAtEnd .endInArray
  | .firstKey, _ | .colon, _ => failAtEnd .endInObject
  | .value, _ | .nextItem, _ | .nextKey _, _ => failAtEnd .endInValue

end Reader

/-- Reads a text whose faults are placed by the bytes after them. -/
def readTokens (bytes : List UInt8) : Except Fault Json := do
  let reader ← (tokens bytes).foldlM Reader.step .start
  reader.finish

/-- Reads a JSON text. -/
def read (bytes : List UInt8) : Except PlacedFault Json :=
  (readTokens bytes).mapError (·.placedIn bytes)

end RecordMapper.Json
