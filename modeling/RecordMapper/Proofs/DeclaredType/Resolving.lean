import RecordMapper.Proofs.DeclaredType.FirstError

/-!
# Resolving is exact and faithful

A declared type resolves exactly if it is proper at each of its nodes, and what it resolves to is
the same tree: read back as a declaration it is the type itself, but for the abbreviated stars
(`DeclaredType.resolve_exact`). So nothing of a type that resolves is lost but the way in which its
stars are written.
-/

namespace RecordMapper

open RecordMapper.Text

/-! ## Proper types -/

/-- An argument that stands for something: a star in either spelling, or a variance with a type. -/
inductive DeclaredArg.Proper : DeclaredArg → Prop
  | shorthand {text : String} : trim text = "*" → Proper (.shorthand text)
  | star : Proper (.projection .star none)
  | typed {variance : DeclaredVariance} {type : DeclaredType} :
      variance ≠ .star → Proper (.projection variance (some type))

/-- At every node of the type the name is a dotted path of identifiers and all arguments are
proper. -/
structure DeclaredType.Proper (type : DeclaredType) : Prop where
  names : ∀ path node, type.Reaches path node → QualifiedName.Dotted node.name
  args : ∀ path node, type.Reaches path node → ∀ arg ∈ node.args, arg.Proper

/-- An argument that is not proper is a fault of its node. -/
theorem DeclaredType.exists_shows {node : DeclaredType} {position : Nat} {arg : DeclaredArg}
    (there : node.args[position]? = some arg) (improper : ¬ arg.Proper) :
    ∃ fault, node.Shows fault := by
  cases arg with
  | shorthand text => exact ⟨_, .badShorthand there fun star => improper (.shorthand star)⟩
  | projection variance type? =>
      by_cases star : variance = .star
      · subst star
        cases type? with
        | none => exact absurd .star improper
        | some type => exact ⟨_, .starWithType there⟩
      · cases type? with
        | none => exact ⟨_, .missingType there star⟩
        | some type => exact absurd (.typed star) improper

/-- A type is proper exactly if it has no error. -/
theorem DeclaredType.proper_iff {type : DeclaredType} :
    type.Proper ↔ ∀ error, ¬ type.HasError error := by
  constructor
  · intro proper error has
    obtain ⟨path, fault⟩ := error
    obtain ⟨node, reaches, shows⟩ := has
    have arguments := proper.args _ node reaches
    cases shows with
    | badName found =>
        have valid := QualifiedName.fault?_eq_none_iff_dotted.mpr (proper.names _ node reaches)
        rw [valid] at found
        cases found
    | badShorthand there noStar =>
        cases arguments _ (List.mem_of_getElem? there) with
        | shorthand star => exact noStar star
    | starWithType there =>
        cases arguments _ (List.mem_of_getElem? there) with
        | typed noStar => exact noStar rfl
    | missingType there noStar =>
        cases arguments _ (List.mem_of_getElem? there) with
        | star => exact noStar rfl
  · intro clean
    constructor
    · intro path node reaches
      rw [← QualifiedName.fault?_eq_none_iff_dotted]
      cases found : QualifiedName.fault? node.name with
      | none => rfl
      | some fault =>
          exact absurd ⟨node, reaches, .badName found⟩ (clean ⟨path, .badName node.name fault⟩)
    · intro path node reaches arg member
      apply Classical.byContradiction
      intro improper
      obtain ⟨position, there⟩ := List.mem_iff_getElem?.mp member
      obtain ⟨fault, shows⟩ := exists_shows there improper
      exact clean ⟨path, fault⟩ ⟨node, reaches, shows⟩

/-- A type resolves exactly if it is proper. -/
theorem DeclaredType.resolves_iff {type : DeclaredType} :
    (∃ resolved, type.resolve = .ok resolved) ↔ type.Proper := by
  have reports := type.reports_resolve
  rw [proper_iff]
  constructor
  · intro success
    obtain ⟨resolved, success⟩ := success
    rw [success] at reports
    exact reports.none_of_ok
  · intro clean
    cases checked : type.resolve with
    | ok resolved => exact ⟨resolved, rfl⟩
    | error error =>
        rw [checked] at reports
        exact absurd reports.isFirst_of_error.own (clean error)

/-! ## Resolved types as declarations -/

/-- The keyword with which an argument of this variance is declared. -/
def Variance.declared : Variance → DeclaredVariance
  | invariant => .invariant
  | covariant => .outward
  | contravariant => .inward
  | star => .star

theorem DeclaredVariance.declared_resolve (variance : DeclaredVariance) :
    variance.resolve.declared = variance := by
  cases variance <;> rfl

mutual

/-- The declaration of a resolved type: the same names, flags and arguments, in the same order. -/
def ResolvedType.declared : ResolvedType → DeclaredType
  | ⟨name, args, nullable⟩ => ⟨name, declaredArgs args, nullable⟩

/-- The declarations of arguments. -/
def declaredArgs : List TypeArg → List DeclaredArg
  | [] => []
  | arg :: rest => arg.declared :: declaredArgs rest

/-- The declaration of an argument, always as a projection. -/
def TypeArg.declared : TypeArg → DeclaredArg
  | ⟨variance, none⟩ => .projection variance.declared none
  | ⟨variance, some type⟩ => .projection variance.declared (some type.declared)

end

mutual

/-- What a type resolves to is declared as the type is, but for abbreviated stars. -/
theorem DeclaredType.declared_of_resolve : ∀ (type : DeclaredType) {resolved : ResolvedType},
    type.resolve = .ok resolved → resolved.declared = type.expanded
  | ⟨name, args, nullable⟩, resolved, success => by
      obtain ⟨-, arguments, checked, rfl⟩ := DeclaredType.resolve_eq_ok_iff.mp success
      rw [ResolvedType.declared, DeclaredType.expanded, DeclaredType.rewrite,
        declaredArgs_of_resolveArgs 0 args checked]

theorem declaredArgs_of_resolveArgs (position : Nat) : ∀ (args : List DeclaredArg)
    {resolved : List TypeArg}, resolveArgs position args = .ok resolved →
      declaredArgs resolved = rewriteArgs DeclaredArg.expandStar args
  | [], resolved, success => by
      simp only [resolveArgs, Except.ok.injEq] at success
      subst success
      rw [declaredArgs, rewriteArgs]
  | arg :: rest, resolved, success => by
      obtain ⟨first, others, checked, checkedRest, rfl⟩ := resolveArgs_cons_eq_ok_iff.mp success
      rw [declaredArgs, rewriteArgs, declared_of_resolveArg position arg checked,
        declaredArgs_of_resolveArgs (position + 1) rest checkedRest]

theorem declared_of_resolveArg (position : Nat) : ∀ (arg : DeclaredArg) {resolved : TypeArg},
    resolveArg position arg = .ok resolved →
      resolved.declared = arg.rewrite DeclaredArg.expandStar
  | .shorthand text, resolved, success => by
      obtain ⟨star, rfl⟩ := resolveArg_shorthand_eq_ok_iff.mp success
      rw [DeclaredArg.rewrite, DeclaredArg.expandStar, if_pos star, TypeArg.star, TypeArg.declared,
        Variance.declared]
  | .projection variance none, resolved, success => by
      by_cases star : variance = .star
      · subst star
        cases success
        rw [DeclaredArg.rewrite, DeclaredArg.expandStar, TypeArg.star, TypeArg.declared,
          Variance.declared]
      · rw [resolveArg_missing star] at success
        cases success
  | .projection variance (some type), resolved, success => by
      by_cases star : variance = .star
      · subst star
        cases success
      · obtain ⟨inner, checked, rfl⟩ := (resolveArg_projection_eq_ok_iff star).mp success
        rw [DeclaredArg.rewrite, DeclaredArg.expandStar, TypeArg.declared,
          variance.declared_resolve, type.declared_of_resolve checked, DeclaredType.expanded]

end

/-- **Resolving is exact and faithful.** For any type,
* it resolves exactly if it is proper at every node that projections other than stars lead to;
* what it resolves to is well-formed, with a type in exactly the arguments that are no stars, and
  it has the declared tree: the same names, flags, variances and arguments in the same order, with
  each abbreviated star as a projection;
* another type that resolves gives the same result exactly if the two differ in nothing but the
  spelling of their stars. -/
theorem DeclaredType.resolve_exact (type : DeclaredType) :
    ((∃ resolved, type.resolve = .ok resolved) ↔ type.Proper) ∧
    (∀ resolved, type.resolve = .ok resolved →
      resolved.WellFormed ∧ resolved.declared = type.expanded) ∧
    ∀ (other : DeclaredType) (resolved otherResolved : ResolvedType),
      type.resolve = .ok resolved → other.resolve = .ok otherResolved →
        (resolved = otherResolved ↔ type.expanded = other.expanded) := by
  refine ⟨resolves_iff, ?_, ?_⟩
  · intro resolved success
    exact ⟨type.wellFormed_of_resolve success, type.declared_of_resolve success⟩
  · intro other resolved otherResolved success otherSuccess
    constructor
    · intro same
      rw [← type.declared_of_resolve success, ← other.declared_of_resolve otherSuccess, same]
    · intro alike
      apply Except.ok.inj (ε := ResolveError)
      rw [← success, ← otherSuccess, ← type.resolve_expanded, alike, other.resolve_expanded]

/-- A type with both spellings of a star, one of them with blanks around it. -/
def DeclaredType.sampleStars : DeclaredType :=
  ⟨"kotlin.Triple", [.projection .inward (some ⟨"kotlin.Array", [.shorthand " * "], true⟩),
    .projection .star none, .projection .invariant (some ⟨"kotlin.Int", [], false⟩)], false⟩

/-- Its nodes are proper, and it makes no difference if the star of the inner type is a projection
as well. -/
theorem DeclaredType.resolve_exact_stars :
    DeclaredType.sampleStars.Proper ∧
    ∃ resolved, DeclaredType.sampleStars.resolve = .ok resolved ∧ resolved.WellFormed ∧
      resolved.declared = DeclaredType.sampleStars.expanded ∧
      ∀ otherResolved, DeclaredType.sampleStars.expanded.resolve = .ok otherResolved →
        resolved = otherResolved := by
  obtain ⟨resolved, success⟩ : ∃ resolved, DeclaredType.sampleStars.resolve = .ok resolved :=
    ⟨_, rfl⟩
  obtain ⟨resolves, faithful, alike⟩ := DeclaredType.sampleStars.resolve_exact
  obtain ⟨wellFormed, declared⟩ := faithful resolved success
  refine ⟨resolves.mp ⟨resolved, success⟩, resolved, success, wellFormed, declared, ?_⟩
  intro otherResolved otherSuccess
  exact (alike _ resolved otherResolved success otherSuccess).mpr rfl

end RecordMapper
