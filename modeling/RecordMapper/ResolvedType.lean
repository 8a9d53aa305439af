/-!
# Resolved types

A type reference that has been checked: a qualified name, arguments in declaration order, and
whether the value may be null. Argument order is significant.
-/

namespace RecordMapper

/-- How an argument's type may vary. -/
inductive Variance
  | invariant
  | covariant
  | contravariant
  | star
  deriving DecidableEq, Repr

/-- The keyword in front of an argument. A star has none, as it stands alone. -/
def Variance.keyword? : Variance → Option String
  | covariant => some "out"
  | contravariant => some "in"
  | invariant | star => none

mutual

/-- A reference to a type. -/
structure ResolvedType where
  qualifiedName : String
  args : List TypeArg
  nullable : Bool

/-- An argument of a type reference. A star has no type; every other variance has one. -/
structure TypeArg where
  variance : Variance
  type? : Option ResolvedType

end

deriving instance Repr for ResolvedType

/-- The argument that stands for any type. -/
def TypeArg.star : TypeArg :=
  ⟨.star, none⟩

/-- Two types have the same head if their names and their nullability are equal. Arguments do not
count: a list of numbers and a list of texts have the same head. -/
def ResolvedType.sameHead (a b : ResolvedType) : Bool :=
  a.qualifiedName = b.qualifiedName && a.nullable = b.nullable

end RecordMapper
