import RecordMapper.ResolvedType

/-!
# Spelling types

The text of a type in generated code: its name, its arguments between angle brackets, and a question
mark if it may be null. An erased spelling shows each argument as a star.
-/

namespace RecordMapper

/-- The argument list of a type; a type without arguments has no brackets. -/
def bracketed : List String → String
  | [] => ""
  | texts@(_ :: _) => "<" ++ ", ".intercalate texts ++ ">"

/-- A name with its arguments in angle brackets, if there are any, and a mark if it is nullable. -/
def spellParts (name : String) (args : List String) (nullable : Bool) : String :=
  name ++ bracketed args ++ (if nullable then "?" else "")

/-- The keyword of a variance with a space after it, if it has one. -/
def Variance.lead (variance : Variance) : String :=
  match variance.keyword? with
  | some keyword => keyword ++ " "
  | none => ""

mutual

/-- The full text of a type. -/
def ResolvedType.spell : ResolvedType → String
  | ⟨name, args, nullable⟩ => spellParts name (spellArgs args) nullable

/-- The texts of arguments, in order. -/
def spellArgs : List TypeArg → List String
  | [] => []
  | arg :: rest => arg.spell :: spellArgs rest

/-- The text of an argument. A star, and an argument that lacks its type, is a star. -/
def TypeArg.spell : TypeArg → String
  | ⟨.star, _⟩ | ⟨_, none⟩ => "*"
  | ⟨variance, some type⟩ => variance.lead ++ type.spell

end

/-- The text of a type with a star for each argument. -/
def ResolvedType.spellErased (type : ResolvedType) : String :=
  spellParts type.qualifiedName (type.args.map fun _ => "*") type.nullable

/-- The text of a type in the chosen mode. -/
def ResolvedType.render (erase : Bool) (type : ResolvedType) : String :=
  if erase then type.spellErased else type.spell

end RecordMapper
