import RecordMapper.MemoryStore
import RecordMapper.Proofs.Outcome.Emitted
import RecordMapper.Proofs.Run.Writing
import RecordMapper.Proofs.Schema.Starred

/-!
# Erased arguments

With erased arguments, a run does not tell what the arguments of property types are, only how many
there are: nothing changes if each of them is a star (`Manifest.outcomes_starred`). And the choice
between erased and full arguments shows in the type texts of parameters only
(`Manifest.outcomes_untyped`). Both are said of whole runs in `Manifest.run_erasure`.
-/

namespace RecordMapper

/-! ## Stars for arguments -/

/-- A source with stars in place of all arguments in the types of its fields. -/
def FieldSource.starred : FieldSource → FieldSource
  | direct target => direct target.starred
  | transform origin target identityDefault =>
    transform origin.starred target.starred identityDefault

theorem ResolvedType.render_starred (type : ResolvedType) :
    type.starred.render true = type.render true := by
  simp [render, spellErased, starred]

theorem FieldSource.parameter_starred (source : FieldSource) :
    source.starred.parameter true = source.parameter true := by
  cases source <;> simp [starred, parameter, Field.starred, ResolvedType.render_starred]

theorem FieldSource.constructorArg_starred (source : FieldSource) :
    source.starred.constructorArg = source.constructorArg := by
  cases source <;> rfl

theorem Schema.field?_starred (schema : Schema) (name : String) :
    schema.starred.field? name = (schema.field? name).map Field.starred := by
  rw [field?, starred, List.find?_map]
  rfl

/-- Matching looks at names and heads of types, which stay. -/
theorem Schema.sourceOf_starred (origin : Schema) (target : Field) :
    origin.starred.sourceOf target.starred = (origin.sourceOf target).starred := by
  have named : target.starred.name = target.name := rfl
  rw [sourceOf, sourceOf, named, field?_starred]
  cases origin.field? target.name <;> rfl

theorem MappingFunction.between_starred (origin target : Schema) :
    between true origin.starred target.starred = between true origin target := by
  have sources : origin.starred.sources target.starred =
      (origin.sources target).map FieldSource.starred := by
    simp [Schema.sources, Schema.starred, ← Schema.sourceOf_starred]
  simp only [between, ofSources, sources, List.map_map, Function.comp_def,
    FieldSource.parameter_starred, FieldSource.constructorArg_starred]
  rfl

namespace Manifest

/-- The manifest with a star for each argument of each property type. -/
def starred (manifest : Manifest) : Manifest :=
  { manifest with declarations := manifest.declarations.map Declaration.starred }

/-- All types of properties resolve. -/
def Resolves (manifest : Manifest) : Prop :=
  ∀ declaration ∈ manifest.declarations, declaration.Resolves

theorem find?_starred (manifest : Manifest) (name : String) :
    manifest.starred.find? name = (manifest.find? name).map Declaration.starred := by
  rw [find?, starred, List.find?_map]
  rfl

theorem candidates_starred (manifest : Manifest) :
    manifest.starred.candidates =
      manifest.candidates.map fun candidate => ⟨candidate.origin.starred, candidate.target⟩ := by
  simp [candidates, starred, List.flatMap_map, List.map_flatMap, Declaration.candidates,
    Declaration.starred, Function.comp_def]

/-- A candidate has the schemas with stars for arguments, or the same diagnostic. -/
theorem schemas_starred {manifest : Manifest} (resolves : manifest.Resolves)
    {origin : Declaration} (listed : origin ∈ manifest.declarations) (target : String) :
    manifest.starred.schemas ⟨origin.starred, target⟩ =
      (manifest.schemas ⟨origin, target⟩).map (Prod.map Schema.starred Schema.starred) := by
  simp only [schemas, Schema.ofDeclaration_starred (resolves origin listed), find?_starred]
  cases Schema.ofDeclaration origin with
  | error rejection => rfl
  | ok schema =>
      cases found : manifest.find? target with
      | none => rfl
      | some declaration =>
          have resolve := resolves declaration (List.mem_of_find?_eq_some found)
          simp only [Except.map, Option.map_some, Schema.ofDeclaration_starred resolve]
          cases Schema.ofDeclaration declaration <;> rfl

/-- **Erased outcomes** are those of the manifest with stars for arguments. -/
theorem outcomes_starred {manifest : Manifest} (resolves : manifest.Resolves) :
    manifest.starred.outcomes true = manifest.outcomes true := by
  rw [outcomes, candidates_starred, List.map_map, outcomes]
  apply List.map_congr_left
  intro candidate member
  obtain ⟨origin, listed, marked⟩ := List.mem_flatMap.mp member
  obtain ⟨target, -, rfl⟩ := List.mem_map.mp marked
  change manifest.starred.outcome true ⟨origin.starred, target⟩ = _
  rw [outcome, schemas_starred resolves listed, outcome]
  cases manifest.schemas ⟨origin, target⟩ with
  | error diagnostic => rfl
  | ok pair =>
      obtain ⟨first, second⟩ := pair
      exact congrArg Outcome.emitted (MappingFunction.between_starred first second)

end Manifest

/-! ## Type texts -/

/-- What the parameter takes, without the texts of its types. -/
def ParameterKind.untyped : ParameterKind → ParameterKind
  | value _ => value ""
  | transform _ _ identityDefault => transform "" "" identityDefault

/-- The function without the type texts of its parameters. -/
def MappingFunction.untyped (function : MappingFunction) : MappingFunction :=
  { function with
    parameters := function.parameters.map fun parameter =>
      { parameter with kind := parameter.kind.untyped } }

/-- An outcome whose function has lost its type texts. -/
def Outcome.untyped : Outcome → Outcome
  | emitted function => emitted function.untyped
  | skipped diagnostic => skipped diagnostic

theorem MappingFunction.untyped_between (erase other : Bool) (origin target : Schema) :
    (between erase origin target).untyped = (between other origin target).untyped := by
  have parameters (source : FieldSource) : (source.parameter erase).kind.untyped =
      (source.parameter other).kind.untyped ∧
        (source.parameter erase).name = (source.parameter other).name := by
    cases source <;> exact ⟨rfl, rfl⟩
  simp only [untyped, between, ofSources, List.map_map, Function.comp_def, parameters]

namespace Manifest

/-- **Outcomes in the two modes** are the same but for type texts. -/
theorem outcomes_untyped (manifest : Manifest) (erase other : Bool) :
    (manifest.outcomes erase).map Outcome.untyped =
      (manifest.outcomes other).map Outcome.untyped := by
  simp only [outcomes, List.map_map]
  apply List.map_congr_left
  intro candidate _
  simp only [Function.comp_apply, outcome]
  cases manifest.schemas candidate with
  | error diagnostic => rfl
  | ok pair =>
      exact congrArg Outcome.emitted (MappingFunction.untyped_between erase other pair.1 pair.2)

/-- The functions among outcomes without type texts. -/
theorem functions_untyped (manifest : Manifest) (erase other : Bool) :
    (manifest.functions erase).map MappingFunction.untyped =
      (manifest.functions other).map MappingFunction.untyped := by
  have found (outcomes : List Outcome) :
      (outcomes.filterMap (·.function?)).map MappingFunction.untyped =
        (outcomes.map Outcome.untyped).filterMap (·.function?) := by
    rw [List.map_filterMap, List.filterMap_map]
    apply List.filterMap_congr
    intro outcome _
    cases outcome <;> rfl
  rw [functions, functions, found, found, manifest.outcomes_untyped erase other]

theorem diagnostics_erase (manifest : Manifest) (erase other : Bool) :
    manifest.diagnostics erase = manifest.diagnostics other := by
  have found (outcomes : List Outcome) : outcomes.filterMap (·.diagnostic?) =
      (outcomes.map Outcome.untyped).filterMap (·.diagnostic?) := by
    rw [List.filterMap_map]
    apply List.filterMap_congr
    intro outcome _
    cases outcome <;> rfl
  rw [diagnostics, diagnostics, found, found (manifest.outcomes other),
    manifest.outcomes_untyped erase other]

/-- Reports do not show types. -/
theorem report_erase (manifest : Manifest) (options : Options) (erase : Bool) :
    manifest.report { options with eraseGenerics := erase } = manifest.report options := by
  have emitted (functions : List MappingFunction) : functions.map (·.emitted) =
      (functions.map MappingFunction.untyped).map (·.emitted) := by
    rw [List.map_map]
    rfl
  have functions : (manifest.functions erase).map (·.emitted) =
      (manifest.functions options.eraseGenerics).map (·.emitted) := by
    rw [emitted, manifest.functions_untyped erase options.eraseGenerics, ← emitted]
  have diagnostics := manifest.diagnostics_erase erase options.eraseGenerics
  simp only [report, functions, diagnostics]
  rfl

/-- **Erasure does not interfere.** Two manifests in which all types of properties resolve and that
agree up to the arguments of these types have the same runs with erased arguments, on every sink.
And the runs of one manifest with erased and with full arguments have the same report; the functions
they write agree in everything but the type texts of parameters. -/
theorem run_erasure (first second : Manifest) (options : Options) :
    (options.eraseGenerics = true → first.Resolves → second.Resolves →
      first.starred = second.starred →
      ∀ {m : Type → Type} [Monad m] [LawfulMonad m] (sink : Sink m),
        first.run options sink = second.run options sink) ∧
    (first.candidates = [] →
      ∀ {m : Type → Type} [Monad m] [LawfulMonad m] (sink : Sink m) (erase : Bool),
        first.run { options with eraseGenerics := erase } sink = pure (.ok .empty)) ∧
    (first.candidates ≠ [] → ∃ report : Report,
      ∀ {m : Type → Type} [Monad m] [LawfulMonad m] (sink : Sink m) (erase : Bool),
        first.run { options with eraseGenerics := erase } sink =
          sink.deliver options
            (fileHeader options.package :: (first.functions erase).map (·.text)) report) ∧
    (first.functions true).map MappingFunction.untyped =
      (first.functions false).map MappingFunction.untyped := by
  refine ⟨?stars, ?unmarked, ?marked, first.functions_untyped true false⟩
  case stars =>
    intro erased resolves otherResolves same _ _ _ sink
    apply run_of_outcomes_eq
    rw [erased, ← outcomes_starred resolves, same, outcomes_starred otherResolves]
  case unmarked =>
    intro unmarked _ _ _ sink erase
    exact first.run_unmarked _ sink unmarked
  case marked =>
    intro marked
    refine ⟨first.report options, ?_⟩
    intro _ _ _ sink erase
    rw [first.run_eq_deliver _ sink marked, first.report_erase options erase]
    rfl

/-- A record with a list of the given argument, which is mapped to itself. -/
def sampleList (arg : DeclaredArg) : Manifest :=
  .ofDeclarations [{ sampleOrigin with
    properties := [⟨"ids", some ⟨"kotlin.List", [arg], false⟩, none, false⟩]
    mappers := ["app.Row"] }]

/-- An argument for all numbers, which may be null. -/
def sampleNumbers : DeclaredArg :=
  .projection .outward (some ⟨"kotlin.Int", [], true⟩)

/-- A list of anything and a list of numbers cannot be told with erased arguments. With full
arguments they can, and the list of numbers has the same report in both modes. -/
theorem run_erasure_sample :
    (sampleList (.shorthand "*")).run ⟨"ron", "Mappers", true⟩ Sink.memory =
        (sampleList sampleNumbers).run ⟨"ron", "Mappers", true⟩ Sink.memory ∧
      (sampleList (.shorthand "*")).functions false ≠
        (sampleList sampleNumbers).functions false ∧
      ∃ report : Report, ∀ erase : Bool,
        (sampleList sampleNumbers).run ⟨"ron", "Mappers", erase⟩ Sink.memory =
          Sink.memory.deliver ⟨"ron", "Mappers", true⟩
            (fileHeader "ron" :: ((sampleList sampleNumbers).functions erase).map (·.text))
            report := by
  have resolves (arg : DeclaredArg) (resolved : TypeArg)
      (success : resolveArgs 0 [arg] = .ok [resolved]) : (sampleList arg).Resolves := by
    intro declaration listed property member type given
    obtain rfl := List.mem_singleton.mp listed
    obtain rfl := List.mem_singleton.mp member
    obtain rfl := Option.some.inj given
    have valid : QualifiedName.fault? "kotlin.List" = none := by decide
    exact ⟨_, by rw [DeclaredType.resolve, valid, success]⟩
  obtain ⟨stars, -, marked, -⟩ := run_erasure (sampleList sampleNumbers)
    (sampleList (.shorthand "*")) ⟨"ron", "Mappers", true⟩
  obtain ⟨report, runs⟩ := marked (List.cons_ne_nil _ _)
  exact ⟨(stars rfl (resolves _ _ rfl) (resolves _ _ rfl) rfl .memory).symm, by decide, report,
    runs .memory⟩

end Manifest

end RecordMapper
