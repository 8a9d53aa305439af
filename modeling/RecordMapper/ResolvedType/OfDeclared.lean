import RecordMapper.DeclaredType
import RecordMapper.ResolvedType
import RecordMapper.Name.Qualified
import RecordMapper.Text.Blank

/-!
# Resolving declared types

`DeclaredType.resolve` checks a declared type from its name through its arguments, left to right,
and reports the first offending place. A place is the path of argument positions that leads to a
nested type, together with what is wrong there.
-/

namespace RecordMapper

open RecordMapper.Text

/-- What is wrong with one node of a declared type. The argument faults carry the argument's
position. -/
inductive ResolveFault
  | badName (name : String) (fault : QualifiedName.Fault)
  | badShorthand (position : Nat) (text : String)
  | starWithType (position : Nat)
  | missingType (position : Nat)
  deriving DecidableEq, Repr

/-- A fault at the node that is reached through the arguments at the given positions. -/
structure ResolveError where
  path : List Nat
  fault : ResolveFault
  deriving DecidableEq, Repr

namespace ResolveFault

/-- The text of a fault. -/
def message : ResolveFault → String
  | badName name fault => fault.message name
  | badShorthand _ text => "type argument shorthand must be \"*\", got " ++ quote text
  | starWithType _ => "star projection must not carry a type"
  | missingType _ => "type argument is missing its type"

/-- The offending part of the node. -/
def place : ResolveFault → String
  | badName .. => "/name"
  | badShorthand position _ => "/args/" ++ toString position
  | starWithType position | missingType position => "/args/" ++ toString position ++ "/type"

end ResolveFault

namespace ResolveError

/-- The same error, seen from the node whose argument at `position` holds the type. -/
def within (position : Nat) (error : ResolveError) : ResolveError :=
  { error with path := position :: error.path }

/-- The text of an error, without its place. -/
def message (error : ResolveError) : String :=
  error.fault.message

/-- The offending place below the pointer `base`. -/
def pointer (base : String) (error : ResolveError) : String :=
  base ++ String.join (error.path.map fun position => "/args/" ++ toString position ++ "/type")
    ++ error.fault.place

/-- The error and its place below the pointer `base` in words. -/
def text (base : String) (error : ResolveError) : String :=
  error.message ++ " at " ++ error.pointer base

end ResolveError

/-- The variance of a projection with a type. -/
def DeclaredVariance.resolve : DeclaredVariance → Variance
  | invariant => .invariant
  | outward => .covariant
  | inward => .contravariant
  | star => .star

mutual

/-- Checks a declared type: its name first, then its arguments from left to right. -/
def DeclaredType.resolve : DeclaredType → Except ResolveError ResolvedType
  | ⟨name, args, nullable⟩ =>
    match QualifiedName.fault? name with
    | some fault => .error ⟨[], .badName name fault⟩
    | none =>
      match resolveArgs 0 args with
      | .error error => .error error
      | .ok resolved => .ok ⟨trim name, resolved, nullable⟩

/-- Checks arguments from left to right; the first one stands at `position`. -/
def resolveArgs (position : Nat) : List DeclaredArg → Except ResolveError (List TypeArg)
  | [] => .ok []
  | arg :: rest =>
    match resolveArg position arg with
    | .error error => .error error
    | .ok resolved =>
      match resolveArgs (position + 1) rest with
      | .error error => .error error
      | .ok others => .ok (resolved :: others)

/-- Checks the argument at `position`. The type that a star carries is not looked at. -/
def resolveArg (position : Nat) : DeclaredArg → Except ResolveError TypeArg
  | .shorthand text =>
    if trim text = "*" then .ok .star else .error ⟨[], .badShorthand position text⟩
  | .projection .star none => .ok .star
  | .projection .star (some _) => .error ⟨[], .starWithType position⟩
  | .projection _ none => .error ⟨[], .missingType position⟩
  | .projection variance (some type) =>
    match type.resolve with
    | .error error => .error (error.within position)
    | .ok resolved => .ok ⟨variance.resolve, some resolved⟩

end

end RecordMapper
