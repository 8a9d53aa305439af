import RecordMapper.Proofs.ResolvedType.WellFormed

/-!
# Rewriting the arguments of declared types

A rewriting of arguments that resolving cannot tell changes nothing about resolving a type, at
whatever depth it is applied (`DeclaredType.resolve_rewrite`). Two such rewritings are used:
`expanded` writes each abbreviated star as a projection, and `starsHidden` puts one and the same
type in the place of every type that a star carries.
-/

namespace RecordMapper

open RecordMapper.Text

mutual

/-- The type with all its arguments rewritten, from the inside to the outside. -/
def DeclaredType.rewrite (change : DeclaredArg → DeclaredArg) : DeclaredType → DeclaredType
  | ⟨name, args, nullable⟩ => ⟨name, rewriteArgs change args, nullable⟩

/-- The arguments, each of them rewritten. -/
def rewriteArgs (change : DeclaredArg → DeclaredArg) : List DeclaredArg → List DeclaredArg
  | [] => []
  | arg :: rest => arg.rewrite change :: rewriteArgs change rest

/-- The argument after its type was rewritten and then itself. -/
def DeclaredArg.rewrite (change : DeclaredArg → DeclaredArg) : DeclaredArg → DeclaredArg
  | .shorthand text => change (.shorthand text)
  | .projection variance none => change (.projection variance none)
  | .projection variance (some type) => change (.projection variance (some (type.rewrite change)))

end

variable {change : DeclaredArg → DeclaredArg}

mutual

/-- **Rewriting does not show in resolving** if it does not for a single argument. -/
theorem DeclaredType.resolve_rewrite
    (keeps : ∀ position arg, resolveArg position (change arg) = resolveArg position arg) :
    ∀ type : DeclaredType, (type.rewrite change).resolve = type.resolve
  | ⟨name, args, nullable⟩ => by
      rw [DeclaredType.rewrite, DeclaredType.resolve, DeclaredType.resolve,
        resolveArgs_rewriteArgs keeps 0 args]

theorem resolveArgs_rewriteArgs
    (keeps : ∀ position arg, resolveArg position (change arg) = resolveArg position arg)
    (position : Nat) :
    ∀ args : List DeclaredArg, resolveArgs position (rewriteArgs change args) =
      resolveArgs position args
  | [] => by rw [rewriteArgs]
  | arg :: rest => by
      rw [rewriteArgs, resolveArgs, resolveArgs, resolveArg_rewrite keeps position arg,
        resolveArgs_rewriteArgs keeps (position + 1) rest]

theorem resolveArg_rewrite
    (keeps : ∀ position arg, resolveArg position (change arg) = resolveArg position arg)
    (position : Nat) :
    ∀ arg : DeclaredArg, resolveArg position (arg.rewrite change) = resolveArg position arg
  | .shorthand text => by rw [DeclaredArg.rewrite, keeps]
  | .projection variance none => by rw [DeclaredArg.rewrite, keeps]
  | .projection variance (some type) => by
      rw [DeclaredArg.rewrite, keeps]
      by_cases star : variance = .star
      · subst star
        rfl
      · rw [resolveArg_projection star, resolveArg_projection star, type.resolve_rewrite keeps]

end

/-! ## Abbreviated stars -/

/-- An abbreviated star as a projection. Other shorthands stay, for they have no meaning. -/
def DeclaredArg.expandStar : DeclaredArg → DeclaredArg
  | .shorthand text => if trim text = "*" then .projection .star none else .shorthand text
  | .projection variance type? => .projection variance type?

/-- The type with all abbreviated stars in it written as projections. -/
def DeclaredType.expanded (type : DeclaredType) : DeclaredType :=
  type.rewrite DeclaredArg.expandStar

theorem DeclaredType.resolve_expanded (type : DeclaredType) :
    type.expanded.resolve = type.resolve := by
  apply resolve_rewrite
  intro position arg
  cases arg with
  | projection variance type? => rfl
  | shorthand text =>
      rw [DeclaredArg.expandStar]
      by_cases star : trim text = "*"
      · rw [if_pos star, resolveArg, resolveArg, if_pos star]
      · rw [if_neg star]

/-! ## The types that stars carry -/

/-- A star with a type that it should not carry, but with always the same one. -/
def DeclaredArg.hideStarType : DeclaredArg → DeclaredArg
  | .projection .star (some _) => .projection .star (some ⟨"", [], false⟩)
  | arg => arg

/-- The type with the same type in the place of each one that a star in it carries. -/
def DeclaredType.starsHidden (type : DeclaredType) : DeclaredType :=
  type.rewrite DeclaredArg.hideStarType

theorem DeclaredType.resolve_starsHidden (type : DeclaredType) :
    type.starsHidden.resolve = type.resolve := by
  apply resolve_rewrite
  intro position arg
  cases arg with
  | shorthand text => rfl
  | projection variance type? =>
      by_cases star : variance = .star
      · subst star
        cases type? <;> rfl
      · cases variance <;> first | rfl | exact absurd rfl star

end RecordMapper
