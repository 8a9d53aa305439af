/-!
# Paths

A path keeps its spelling. It is compared by its components: repeated slashes, a slash at the end
and inner dots do not count. `push` appends a part and lets an absolute part replace what is before
it.
-/

namespace RecordMapper

/-- A path as it is spelled. -/
structure Path where
  text : String
  deriving DecidableEq, Repr

namespace Path

/-- One step of a path. -/
inductive Component
  | root
  | current
  | parent
  | name (text : String)
  deriving DecidableEq, Repr

/-- Whether the path starts at the root. -/
def isAbsolute (path : Path) : Bool :=
  path.text.toList.head? = some '/'

/-- The path with a part after it. An absolute part replaces the path; otherwise a slash stands
between the two, unless the path is empty or ends in one. -/
def push (base : Path) (part : String) : Path :=
  if part.toList.head? = some '/' then ⟨part⟩
  else if base.text.isEmpty || base.text.toList.getLast? = some '/' then ⟨base.text ++ part⟩
  else ⟨base.text ++ "/" ++ part⟩

/-- The pieces of the spelling between its slashes. -/
def pieces (path : Path) : List String :=
  (path.text.toList.splitOn '/').map String.ofList

/-- The component that a piece stands for. An empty piece and a dot stand for none. -/
def component? (piece : String) : Option Component :=
  if piece = "" || piece = "." then none
  else if piece = ".." then some .parent
  else some (.name piece)

/-- The component that only the start of a path can have: the root, or a dot. -/
def leading (path : Path) : List Component :=
  if path.isAbsolute then [.root]
  else if path.pieces.head? = some "." then [.current]
  else []

/-- The components of a path: what it starts with, and what its pieces stand for. -/
def components (path : Path) : List Component :=
  path.leading ++ path.pieces.filterMap component?

/-- The place of the kinds of component in the order of paths. -/
def Component.rank : Component → Nat
  | root => 0
  | current => 1
  | parent => 2
  | name _ => 3

/-- The text of a component with a name; all others have none. -/
def Component.label : Component → String
  | name text => text
  | root | current | parent => ""

/-- The strict order of components: by kind, and names by their code points. -/
def Component.precedes (a b : Component) : Bool :=
  a.rank < b.rank || (a.rank = b.rank && a.label < b.label)

/-- The strict order of paths, component by component. -/
def precedes (a b : Path) : Bool :=
  a.components.lex b.components Component.precedes

/-- The spellings that end with a component, from the text `before` on. -/
def prefixesAfter (before : String) : List String → List Path
  | [] => []
  | piece :: rest =>
    let here := before ++ piece
    let deeper := prefixesAfter (here ++ "/") rest
    if (component? piece).isSome then ⟨here⟩ :: deeper else deeper

/-- The parts of the path from its start to each of its components, shortest first. -/
def prefixes (path : Path) : List Path :=
  match path.leading with
  | .root :: _ => ⟨"/"⟩ :: prefixesAfter "/" path.pieces.tail
  | .current :: _ => ⟨"."⟩ :: prefixesAfter "./" path.pieces.tail
  | _ => prefixesAfter "" path.pieces

/-- The path without its last component. The empty path and the root have none. -/
def parent? (path : Path) : Option Path :=
  match path.prefixes.reverse with
  | _ :: shorter :: _ => some shorter
  | [only] => if only.isAbsolute then none else some ⟨""⟩
  | [] => none

end Path

end RecordMapper
