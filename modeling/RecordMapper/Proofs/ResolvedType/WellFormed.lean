import RecordMapper.Proofs.Name.Characters
import RecordMapper.ResolvedType.OfDeclared

/-!
# Well-formed types

A resolved type is well-formed if every name in it is a qualified name and exactly the star
arguments lack a type. Resolving a declared type gives a well-formed type with the declared name and
nullability (`DeclaredType.wellFormed_of_resolve`, `DeclaredType.head_of_resolve`).
-/

namespace RecordMapper

open RecordMapper.Text

mutual

/-- Every name in the type is a qualified name, and exactly the star arguments lack a type. -/
def ResolvedType.WellFormed : ResolvedType → Prop
  | ⟨name, args, _⟩ => QualifiedName.fault? name = none ∧ WellFormedArgs args

/-- All arguments are well-formed. -/
def WellFormedArgs : List TypeArg → Prop
  | [] => True
  | arg :: rest => arg.WellFormed ∧ WellFormedArgs rest

/-- A star has no type; an argument of any other variance has a well-formed one. -/
def TypeArg.WellFormed : TypeArg → Prop
  | ⟨.star, type?⟩ => type? = none
  | ⟨_, none⟩ => False
  | ⟨_, some type⟩ => type.WellFormed

end

theorem ResolvedType.WellFormed.name {type : ResolvedType} (wellFormed : type.WellFormed) :
    QualifiedName.fault? type.qualifiedName = none := by
  cases type
  exact (by simpa only [ResolvedType.WellFormed] using wellFormed : _ ∧ _).1

theorem TypeArg.wellFormed_star : TypeArg.star.WellFormed := by
  simp [TypeArg.star, TypeArg.WellFormed]

/-- An argument that is no star is as well-formed as its type. -/
theorem TypeArg.wellFormed_some_iff {variance : Variance} {type : ResolvedType}
    (noStar : variance ≠ .star) :
    TypeArg.WellFormed ⟨variance, some type⟩ ↔ type.WellFormed := by
  cases variance with
  | star => exact absurd rfl noStar
  | invariant => simp only [TypeArg.WellFormed]
  | covariant => simp only [TypeArg.WellFormed]
  | contravariant => simp only [TypeArg.WellFormed]

/-- Exactly the star arguments lack a type. -/
theorem TypeArg.WellFormed.type?_eq_none_iff {arg : TypeArg} (wellFormed : arg.WellFormed) :
    arg.type? = none ↔ arg.variance = .star := by
  obtain ⟨variance, type?⟩ := arg
  cases variance <;> cases type? <;> simp_all [TypeArg.WellFormed]

/-- A well-formed argument with a type is no star. -/
theorem TypeArg.WellFormed.ne_star {variance : Variance} {type : ResolvedType}
    (wellFormed : TypeArg.WellFormed ⟨variance, some type⟩) : variance ≠ .star := by
  intro star
  cases wellFormed.type?_eq_none_iff.mpr star

/-! ## Resolving -/

/-- A projection that is no star is resolved through the type it carries. -/
theorem resolveArg_projection {variance : DeclaredVariance} (noStar : variance ≠ .star)
    (position : Nat) (type : DeclaredType) :
    resolveArg position (.projection variance (some type)) =
      match type.resolve with
      | .error error => .error (error.within position)
      | .ok resolved => .ok ⟨variance.resolve, some resolved⟩ := by
  cases variance <;> first | rfl | exact absurd rfl noStar

/-- A projection that is no star has to carry a type. -/
theorem resolveArg_missing {variance : DeclaredVariance} (noStar : variance ≠ .star)
    (position : Nat) :
    resolveArg position (.projection variance none) = .error ⟨[], .missingType position⟩ := by
  cases variance <;> first | rfl | exact absurd rfl noStar

/-- Only a star is resolved to a star. -/
theorem DeclaredVariance.resolve_ne_star {variance : DeclaredVariance}
    (noStar : variance ≠ .star) : variance.resolve ≠ .star := by
  cases variance <;> first | decide | exact absurd rfl noStar

/-- A type is resolved through its arguments, once its name is a qualified name. -/
theorem DeclaredType.resolve_eq_ok_iff {name : String} {args : List DeclaredArg} {nullable : Bool}
    {resolved : ResolvedType} :
    DeclaredType.resolve ⟨name, args, nullable⟩ = .ok resolved ↔
      QualifiedName.fault? name = none ∧
        ∃ arguments, resolveArgs 0 args = .ok arguments ∧ ⟨name, arguments, nullable⟩ = resolved := by
  unfold DeclaredType.resolve
  cases valid : QualifiedName.fault? name with
  | some fault => simp
  | none =>
      rw [QualifiedName.trim_eq_self valid]
      cases resolveArgs 0 args with
      | error error => simp
      | ok arguments => simp

theorem resolveArgs_cons_eq_ok_iff {position : Nat} {arg : DeclaredArg} {rest : List DeclaredArg}
    {resolved : List TypeArg} :
    resolveArgs position (arg :: rest) = .ok resolved ↔
      ∃ first others, resolveArg position arg = .ok first ∧
        resolveArgs (position + 1) rest = .ok others ∧ first :: others = resolved := by
  rw [resolveArgs]
  cases resolveArg position arg with
  | error error => simp
  | ok first =>
      cases resolveArgs (position + 1) rest with
      | error error => simp
      | ok others => simp

theorem resolveArg_projection_eq_ok_iff {variance : DeclaredVariance} (noStar : variance ≠ .star)
    {position : Nat} {type : DeclaredType} {resolved : TypeArg} :
    resolveArg position (.projection variance (some type)) = .ok resolved ↔
      ∃ inner, type.resolve = .ok inner ∧ ⟨variance.resolve, some inner⟩ = resolved := by
  rw [resolveArg_projection noStar]
  cases type.resolve with
  | error error => simp
  | ok inner => simp

theorem resolveArg_shorthand_eq_ok_iff {position : Nat} {text : String} {resolved : TypeArg} :
    resolveArg position (.shorthand text) = .ok resolved ↔ trim text = "*" ∧ .star = resolved := by
  rw [resolveArg]
  split <;> simp_all

mutual

/-- **Resolving gives a well-formed type.** -/
theorem DeclaredType.wellFormed_of_resolve : ∀ (type : DeclaredType) {resolved : ResolvedType},
    type.resolve = .ok resolved → resolved.WellFormed
  | ⟨name, args, nullable⟩, resolved, success => by
      obtain ⟨valid, arguments, checked, rfl⟩ := DeclaredType.resolve_eq_ok_iff.mp success
      rw [ResolvedType.WellFormed]
      exact ⟨valid, wellFormedArgs_of_resolveArgs 0 args checked⟩

theorem wellFormedArgs_of_resolveArgs (position : Nat) : ∀ (args : List DeclaredArg)
    {resolved : List TypeArg}, resolveArgs position args = .ok resolved → WellFormedArgs resolved
  | [], resolved, success => by
      simp only [resolveArgs, Except.ok.injEq] at success
      subst success
      simp only [WellFormedArgs]
  | arg :: rest, resolved, success => by
      obtain ⟨first, others, checked, checkedRest, rfl⟩ := resolveArgs_cons_eq_ok_iff.mp success
      unfold WellFormedArgs
      exact ⟨wellFormed_of_resolveArg position arg checked,
        wellFormedArgs_of_resolveArgs (position + 1) rest checkedRest⟩

theorem wellFormed_of_resolveArg (position : Nat) : ∀ (arg : DeclaredArg) {resolved : TypeArg},
    resolveArg position arg = .ok resolved → resolved.WellFormed
  | .shorthand text, resolved, success => by
      obtain ⟨-, rfl⟩ := resolveArg_shorthand_eq_ok_iff.mp success
      exact TypeArg.wellFormed_star
  | .projection variance none, resolved, success => by
      by_cases star : variance = .star
      · subst star
        cases success
        exact TypeArg.wellFormed_star
      · rw [resolveArg_missing star] at success
        cases success
  | .projection variance (some type), resolved, success => by
      by_cases star : variance = .star
      · subst star
        cases success
      · obtain ⟨inner, checked, rfl⟩ := (resolveArg_projection_eq_ok_iff star).mp success
        exact (TypeArg.wellFormed_some_iff (DeclaredVariance.resolve_ne_star star)).mpr
          (type.wellFormed_of_resolve checked)

end

end RecordMapper
