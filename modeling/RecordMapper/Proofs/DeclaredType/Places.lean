import RecordMapper.Proofs.ResolvedType.WellFormed

/-!
# Places in declared types

A declared type is a tree whose nodes are the types that projections other than stars carry. The
errors of a type are those of its nodes (`DeclaredType.HasError`), each with the path to its node,
and they stand in depth-first order (`ResolveError.Before`). Seen from the root they are the fault
of the name and the errors of the arguments (`DeclaredType.hasError_iff`).
-/

namespace RecordMapper

open RecordMapper.Text

namespace DeclaredType

/-- The positions of arguments that lead from a type to a node of it. Only projections lead on, and
a star does not: the type that it carries is no node. -/
inductive Reaches : DeclaredType → List Nat → DeclaredType → Prop
  | self (type : DeclaredType) : Reaches type [] type
  | through {type inner node : DeclaredType} {position : Nat} {path : List Nat}
      {variance : DeclaredVariance} :
      type.args[position]? = some (.projection variance (some inner)) → variance ≠ .star →
      Reaches inner path node → Reaches type (position :: path) node

/-- What is wrong with a node itself. -/
inductive Shows (node : DeclaredType) : ResolveFault → Prop
  | badName {fault : QualifiedName.Fault} :
      QualifiedName.fault? node.name = some fault → Shows node (.badName node.name fault)
  | badShorthand {position : Nat} {text : String} :
      node.args[position]? = some (.shorthand text) → trim text ≠ "*" →
      Shows node (.badShorthand position text)
  | starWithType {position : Nat} {inner : DeclaredType} :
      node.args[position]? = some (.projection .star (some inner)) →
      Shows node (.starWithType position)
  | missingType {position : Nat} {variance : DeclaredVariance} :
      node.args[position]? = some (.projection variance none) → variance ≠ .star →
      Shows node (.missingType position)

/-- The path of the error leads to a node that shows its fault. -/
def HasError (type : DeclaredType) (error : ResolveError) : Prop :=
  ∃ node, type.Reaches error.path node ∧ node.Shows error.fault

end DeclaredType

/-! ## Depth-first order -/

/-- The argument that a fault is about; a name is about none. -/
def ResolveFault.argument? : ResolveFault → Option Nat
  | badName .. => none
  | badShorthand position _ | starWithType position | missingType position => some position

namespace ResolveError

/-- The positions that lead to the offending name or argument. -/
def address (error : ResolveError) : List Nat :=
  error.path ++ error.fault.argument?.toList

/-- Depth-first order: a name comes before the arguments of its node, and an argument with all that
is inside it before the next argument. So addresses are compared like words in a dictionary. -/
def Before (first second : ResolveError) : Prop :=
  first.address < second.address

/-- An error of the given ones that all the others come after. -/
structure IsFirst (error : ResolveError) (has : ResolveError → Prop) : Prop where
  own : has error
  others : ∀ other, has other → other = error ∨ error.Before other

@[simp] theorem address_within (position : Nat) (error : ResolveError) :
    (error.within position).address = position :: error.address := rfl

variable {first second : ResolveError} {position later : Nat} {path rest : List Nat}

theorem before_of_name (own : first.address = []) (inside : second.address = position :: path) :
    first.Before second := by
  rw [Before, own, inside]
  exact List.nil_lt_cons position path

theorem before_of_lt (own : first.address = position :: path)
    (next : second.address = later :: rest) (earlier : position < later) :
    first.Before second := by
  rw [Before, own, next]
  exact List.cons_lt_cons_iff.mpr (.inl earlier)

theorem Before.within (before : first.Before second) (position : Nat) :
    (first.within position).Before (second.within position) := by
  rw [Before, address_within, address_within]
  exact List.cons_lt_cons_iff.mpr (.inr ⟨rfl, before⟩)

end ResolveError

/-! ## Errors of arguments -/

/-- The errors of an argument that stands at `position`: what is wrong with it, or an error of the
type that it carries. -/
inductive DeclaredArg.HasError (position : Nat) : DeclaredArg → ResolveError → Prop
  | badShorthand {text : String} :
      trim text ≠ "*" → HasError position (.shorthand text) ⟨[], .badShorthand position text⟩
  | starWithType {type : DeclaredType} :
      HasError position (.projection .star (some type)) ⟨[], .starWithType position⟩
  | missingType {variance : DeclaredVariance} : variance ≠ .star →
      HasError position (.projection variance none) ⟨[], .missingType position⟩
  | within {variance : DeclaredVariance} {type : DeclaredType} {error : ResolveError} :
      variance ≠ .star → type.HasError error →
      HasError position (.projection variance (some type)) (error.within position)

/-- The errors of arguments the first of which stands at `position`. -/
def ArgsHaveError (position : Nat) (args : List DeclaredArg) (error : ResolveError) : Prop :=
  ∃ (index : Nat) (arg : DeclaredArg), args[index]? = some arg ∧
    arg.HasError (position + index) error

variable {error : ResolveError} {position : Nat}

/-- The address of an error of an argument begins with its position. -/
theorem DeclaredArg.HasError.address {arg : DeclaredArg} (has : arg.HasError position error) :
    ∃ path, error.address = position :: path := by
  cases has with
  | badShorthand _ => exact ⟨[], rfl⟩
  | starWithType => exact ⟨[], rfl⟩
  | missingType _ => exact ⟨[], rfl⟩
  | within _ inner => exact ⟨_, ResolveError.address_within position _⟩

theorem ArgsHaveError.address {args : List DeclaredArg} (has : ArgsHaveError position args error) :
    ∃ later path, position ≤ later ∧ error.address = later :: path := by
  obtain ⟨index, arg, -, found⟩ := has
  obtain ⟨path, starts⟩ := found.address
  exact ⟨position + index, path, Nat.le_add_right position index, starts⟩

theorem argsHaveError_cons_iff {arg : DeclaredArg} {rest : List DeclaredArg} :
    ArgsHaveError position (arg :: rest) error ↔
      arg.HasError position error ∨ ArgsHaveError (position + 1) rest error := by
  constructor
  · intro has
    obtain ⟨index, other, there, found⟩ := has
    cases index with
    | zero =>
        obtain rfl : arg = other := Option.some.inj there
        exact .inl found
    | succ index =>
        rw [Nat.add_comm index 1, ← Nat.add_assoc] at found
        exact .inr ⟨index, other, there, found⟩
  · intro has
    rcases has with own | later
    · exact ⟨0, arg, rfl, own⟩
    · obtain ⟨index, other, there, found⟩ := later
      rw [Nat.add_assoc, Nat.add_comm 1 index] at found
      exact ⟨index + 1, other, there, found⟩

/-- The errors of a type are the fault of its name and the errors of its arguments. -/
theorem DeclaredType.hasError_iff {type : DeclaredType} :
    type.HasError error ↔
      (∃ fault, QualifiedName.fault? type.name = some fault ∧
        error = ⟨[], .badName type.name fault⟩) ∨ ArgsHaveError 0 type.args error := by
  simp only [ArgsHaveError, Nat.zero_add]
  constructor
  · intro has
    obtain ⟨node, reaches, wrong⟩ := has
    obtain ⟨path, fault⟩ := error
    cases reaches with
    | self =>
        cases wrong with
        | badName found => exact .inl ⟨_, found, rfl⟩
        | badShorthand there noStar => exact .inr ⟨_, _, there, .badShorthand noStar⟩
        | starWithType there => exact .inr ⟨_, _, there, .starWithType⟩
        | missingType there noStar => exact .inr ⟨_, _, there, .missingType noStar⟩
    | @through _ inner _ position path _ there noStar reaches =>
        have found : inner.HasError ⟨path, fault⟩ := ⟨node, reaches, wrong⟩
        exact .inr ⟨position, _, there, .within noStar found⟩
  · intro has
    rcases has with ⟨fault, found, rfl⟩ | ⟨position, arg, there, has⟩
    · exact ⟨type, .self type, .badName found⟩
    · cases has with
      | badShorthand noStar => exact ⟨type, .self type, .badShorthand there noStar⟩
      | starWithType => exact ⟨type, .self type, .starWithType there⟩
      | missingType noStar => exact ⟨type, .self type, .missingType there noStar⟩
      | within noStar inner =>
          obtain ⟨node, reaches, wrong⟩ := inner
          exact ⟨node, .through there noStar reaches, wrong⟩

end RecordMapper
