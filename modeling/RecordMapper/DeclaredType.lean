/-!
# Declared types

The type of a property as the manifest writes it: a name with arguments, not yet checked. An
argument is either a shorthand text or a projection, which may lack its type.
-/

namespace RecordMapper

/-- The variance keyword of a projection. -/
inductive DeclaredVariance
  | invariant
  | outward
  | inward
  | star
  deriving DecidableEq, Repr

mutual

/-- A type as written in a declaration. -/
structure DeclaredType where
  name : String
  args : List DeclaredArg
  nullable : Bool

/-- A type argument as written in a declaration. -/
inductive DeclaredArg
  /-- A bare text; only a star has a meaning. -/
  | shorthand (text : String)
  /-- A variance with a type, if one is given. -/
  | projection (variance : DeclaredVariance) (type? : Option DeclaredType)

end

deriving instance Repr for DeclaredType

end RecordMapper
