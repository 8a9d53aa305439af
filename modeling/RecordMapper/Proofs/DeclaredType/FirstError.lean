import RecordMapper.Proofs.DeclaredType.Places
import RecordMapper.Proofs.DeclaredType.Rewriting

/-!
# The first error of a declared type

Resolving a type fails exactly if the type has an error, and it reports the one that comes first in
depth-first order (`DeclaredType.reports_resolve`). Its pointer leads through types that arguments
carry to the node that the error is about, and from there to the offending part of it
(`DeclaredType.pointer_of_first_error`).
-/

namespace RecordMapper

open RecordMapper.Text

/-! ## What a check reports -/

/-- The outcome of a check of something that has the given errors: it succeeds if there are none,
and else it fails with the first. -/
inductive Reports {α : Type} (has : ResolveError → Prop) : Except ResolveError α → Prop
  | clean {value : α} : (∀ error, ¬ has error) → Reports has (.ok value)
  | first {error : ResolveError} : error.IsFirst has → Reports has (.error error)

namespace Reports

variable {α : Type} {has : ResolveError → Prop} {error : ResolveError}

theorem congr {other : ResolveError → Prop} {result : Except ResolveError α}
    (reports : Reports has result) (same : ∀ error, other error ↔ has error) :
    Reports other result := by
  obtain rfl : other = has := funext fun error => propext (same error)
  exact reports

theorem none_of_ok {value : α} (reports : Reports has (.ok value)) (error : ResolveError) :
    ¬ has error := by
  cases reports with
  | clean noErrors => exact noErrors error

theorem isFirst_of_error (reports : Reports has (.error error : Except ResolveError α)) :
    error.IsFirst has := by
  cases reports with
  | first isFirst => exact isFirst

end Reports

/-- The first error of a projection's type is the first one of the projection. -/
theorem ResolveError.IsFirst.within {variance : DeclaredVariance} {type : DeclaredType}
    {error : ResolveError} (isFirst : error.IsFirst type.HasError) (noStar : variance ≠ .star)
    (position : Nat) :
    (error.within position).IsFirst
      ((DeclaredArg.projection variance (some type)).HasError position) where
  own := .within noStar isFirst.own
  others := by
    intro other has
    cases has with
    | starWithType => exact absurd rfl noStar
    | within _ inner =>
        rcases isFirst.others _ inner with same | before
        · exact .inl (congrArg (ResolveError.within position) same)
        · exact .inr (before.within position)

/-- The first error of an argument comes before all errors of the arguments after it. -/
theorem ResolveError.IsFirst.cons {arg : DeclaredArg} {position : Nat} {error : ResolveError}
    (isFirst : error.IsFirst (arg.HasError position)) (rest : List DeclaredArg) :
    error.IsFirst (ArgsHaveError position (arg :: rest)) where
  own := argsHaveError_cons_iff.mpr (.inl isFirst.own)
  others := by
    intro other has
    rcases argsHaveError_cons_iff.mp has with same | later
    · exact isFirst.others other same
    · obtain ⟨path, own⟩ := isFirst.own.address
      obtain ⟨next, rest, above, inside⟩ := later.address
      exact .inr (before_of_lt own inside (Nat.lt_of_succ_le above))

/-- The fault of a name comes before all errors of the arguments. -/
theorem DeclaredType.isFirst_badName {type : DeclaredType} {fault : QualifiedName.Fault}
    (found : QualifiedName.fault? type.name = some fault) :
    ResolveError.IsFirst ⟨[], .badName type.name fault⟩ type.HasError where
  own := hasError_iff.mpr (.inl ⟨fault, found, rfl⟩)
  others := by
    intro other has
    rcases hasError_iff.mp has with ⟨otherFault, otherFound, rfl⟩ | inside
    · cases found.symm.trans otherFound
      exact .inl rfl
    · obtain ⟨position, path, -, address⟩ := inside.address
      exact .inr (ResolveError.before_of_name rfl address)

/-! ## Resolving -/

mutual

/-- **Resolving reports the first error of a type.** -/
theorem DeclaredType.reports_resolve :
    ∀ type : DeclaredType, Reports type.HasError type.resolve
  | ⟨name, args, nullable⟩ => by
      unfold DeclaredType.resolve
      cases valid : QualifiedName.fault? name with
      | some fault =>
          have own : QualifiedName.fault? (DeclaredType.mk name args nullable).name = some fault :=
            valid
          exact .first (DeclaredType.isFirst_badName own)
      | none =>
          have inside : ∀ error, DeclaredType.HasError ⟨name, args, nullable⟩ error ↔
              ArgsHaveError 0 args error := by
            intro error
            rw [DeclaredType.hasError_iff]
            simp only [valid, reduceCtorEq, false_and, exists_false, false_or]
          have reports := (reports_resolveArgs 0 args).congr inside
          cases checked : resolveArgs 0 args with
          | error error =>
              rw [checked] at reports
              exact .first reports.isFirst_of_error
          | ok arguments =>
              rw [checked] at reports
              exact .clean reports.none_of_ok

theorem reports_resolveArgs (position : Nat) :
    ∀ args : List DeclaredArg, Reports (ArgsHaveError position args) (resolveArgs position args)
  | [] => by
      unfold resolveArgs
      apply Reports.clean
      intro error has
      obtain ⟨index, arg, there, -⟩ := has
      cases there
  | arg :: rest => by
      have first := reports_resolveArg position arg
      have others := reports_resolveArgs (position + 1) rest
      unfold resolveArgs
      cases checked : resolveArg position arg with
      | error error =>
          rw [checked] at first
          exact .first (first.isFirst_of_error.cons rest)
      | ok resolved =>
          rw [checked] at first
          -- Without errors in the first argument those of the others are all that there are.
          have later : ∀ error, ArgsHaveError position (arg :: rest) error ↔
              ArgsHaveError (position + 1) rest error := by
            intro error
            rw [argsHaveError_cons_iff]
            exact or_iff_right (first.none_of_ok error)
          replace others := others.congr later
          cases checkedRest : resolveArgs (position + 1) rest with
          | error error =>
              rw [checkedRest] at others
              exact .first others.isFirst_of_error
          | ok resolvedRest =>
              rw [checkedRest] at others
              exact .clean others.none_of_ok

theorem reports_resolveArg (position : Nat) :
    ∀ arg : DeclaredArg, Reports (arg.HasError position) (resolveArg position arg)
  | .shorthand text => by
      unfold resolveArg
      by_cases star : trim text = "*"
      · rw [if_pos star]
        apply Reports.clean
        intro error has
        cases has with
        | badShorthand noStar => exact noStar star
      · rw [if_neg star]
        refine .first ⟨.badShorthand star, ?_⟩
        intro other has
        cases has with
        | badShorthand _ => exact .inl rfl
  | .projection variance none => by
      by_cases star : variance = .star
      · subst star
        apply Reports.clean
        intro error has
        cases has with
        | missingType noStar => exact noStar rfl
      · rw [resolveArg_missing star]
        refine .first ⟨.missingType star, ?_⟩
        intro other has
        cases has with
        | missingType _ => exact .inl rfl
  | .projection variance (some type) => by
      by_cases star : variance = .star
      · subst star
        refine .first ⟨.starWithType, ?_⟩
        intro other has
        cases has with
        | starWithType => exact .inl rfl
        | within noStar _ => exact absurd rfl noStar
      · have inner := type.reports_resolve
        rw [resolveArg_projection star]
        cases checked : type.resolve with
        | error error =>
            rw [checked] at inner
            exact .first (inner.isFirst_of_error.within star position)
        | ok resolved =>
            rw [checked] at inner
            apply Reports.clean
            intro error has
            cases has with
            | starWithType => exact absurd rfl star
            | within _ found => exact inner.none_of_ok _ found

end

/-! ## Pointers -/

/-- The steps of a pointer through the types that the arguments at these positions carry. -/
def argumentSteps (path : List Nat) : String :=
  String.join (path.map fun position => "/args/" ++ toString position ++ "/type")

/-- A node does not have at a place below it what belongs there. -/
inductive DeclaredType.OffendsAt (node : DeclaredType) : String → Prop
  | name : ¬ QualifiedName.Dotted node.name → OffendsAt node "/name"
  | shorthand {position : Nat} {text : String} :
      node.args[position]? = some (.shorthand text) → trim text ≠ "*" →
      OffendsAt node ("/args/" ++ toString position)
  | starWithType {position : Nat} {inner : DeclaredType} :
      node.args[position]? = some (.projection .star (some inner)) →
      OffendsAt node ("/args/" ++ toString position ++ "/type")
  | missingType {position : Nat} {variance : DeclaredVariance} :
      node.args[position]? = some (.projection variance none) → variance ≠ .star →
      OffendsAt node ("/args/" ++ toString position ++ "/type")

theorem DeclaredType.Shows.offendsAt {node : DeclaredType} {fault : ResolveFault}
    (shows : node.Shows fault) : node.OffendsAt fault.place := by
  cases shows with
  | badName found =>
      apply OffendsAt.name
      rw [← QualifiedName.fault?_eq_none_iff_dotted, found]
      exact Option.some_ne_none _
  | badShorthand there noStar => exact .shorthand there noStar
  | starWithType there => exact .starWithType there
  | missingType there noStar => exact .missingType there noStar

/-- **The error of a type that cannot be resolved points at the first offender.** Below any pointer,
* the pointer of the error leads through types that arguments other than stars carry to a node, and
  on to a place that the node offends at;
* every other error of a node of the type comes after this one, in depth-first order;
* the types that stars carry do not matter: any type that differs from this one in nothing else has
  the same error. -/
theorem DeclaredType.pointer_of_first_error {type : DeclaredType} {error : ResolveError}
    (failed : type.resolve = .error error) (base : String) :
    (∃ node place, type.Reaches error.path node ∧ node.OffendsAt place ∧
      error.pointer base = base ++ argumentSteps error.path ++ place) ∧
    (∀ other, type.HasError other → other = error ∨ error.Before other) ∧
    ∀ other : DeclaredType, other.starsHidden = type.starsHidden →
      other.resolve = .error error := by
  have reports := type.reports_resolve
  rw [failed] at reports
  obtain ⟨node, reaches, shows⟩ := reports.isFirst_of_error.own
  refine ⟨⟨node, _, reaches, shows.offendsAt, rfl⟩, reports.isFirst_of_error.others, ?_⟩
  intro other alike
  rw [← other.resolve_starsHidden, alike, type.resolve_starsHidden, failed]

/-- A type with an ill-formed name in its second argument, after a star that is in order and before
another star that is not. -/
def DeclaredType.sampleOffending : DeclaredType :=
  ⟨"kotlin.collections.Map", [.projection .star none,
    .projection .outward (some ⟨"kotlin..Int", [.shorthand "?"], false⟩),
    .projection .star (some ⟨"", [], false⟩)], false⟩

/-- The name is reported, whatever type the second star carries. -/
theorem DeclaredType.pointer_of_first_error_nested :
    ∃ error, DeclaredType.sampleOffending.resolve = .error error ∧
      error.pointer "type" = "type/args/1/type/name" ∧
      (∀ other, DeclaredType.sampleOffending.HasError other →
        other = error ∨ error.Before other) ∧
      DeclaredType.sampleOffending.starsHidden.resolve = .error error := by
  obtain ⟨error, failed⟩ : ∃ error, DeclaredType.sampleOffending.resolve = .error error :=
    ⟨_, rfl⟩
  obtain ⟨-, first, hidden⟩ := DeclaredType.pointer_of_first_error failed "type"
  refine ⟨error, failed, ?_, first, ?_⟩
  · cases failed
    rfl
  · exact hidden _ rfl

end RecordMapper
