import Mathlib.Data.List.Nodup
import RecordMapper.Proofs.Manifest.Names
import RecordMapper.Proofs.Manifest.RoundTrip
import RecordMapper.Proofs.MappingFunction.Signature
import RecordMapper.Proofs.Run.FileText

/-!
# Overloads in a generated file

The name of a function comes from the simple name of its target alone, and nothing keeps two targets
of one origin from having the same. If their parameters are of the same types as well, the file has
conflicting overloads (`Manifest.overloads_conflict`). This is the only way in which two functions
of a run conflict (`Manifest.conflict_iff_overload`).
-/

namespace RecordMapper.Manifest

variable {manifest : Manifest} {erase : Bool}

/-! ## Candidates -/

/-- No candidate occurs twice if no declaration lists a target twice. -/
theorem nodup_candidates (distinct : manifest.Distinct)
    (once : ∀ origin ∈ manifest.declarations, origin.mappers.Nodup) :
    manifest.candidates.Nodup := by
  refine List.nodup_flatMap.mpr ⟨?_, ?_⟩
  · intro origin member
    apply (once origin member).map
    intro target other same
    exact congrArg Candidate.target same
  · apply (List.Nodup.of_map _ distinct).imp
    intro origin other different candidate listed otherListed
    obtain ⟨target, -, rfl⟩ := List.mem_map.mp listed
    obtain ⟨otherTarget, -, same⟩ := List.mem_map.mp otherListed
    exact different (congrArg Candidate.origin same).symm

/-! ## Overloads -/

/-- The candidates map one origin to two targets of the same simple name, whose primary properties
lead to parameters of the same types. -/
structure Overload (manifest : Manifest) (erase : Bool) (first second : Candidate) : Prop where
  origin : first.origin = second.origin
  target : first.target ≠ second.target
  alike : ∃ target other, manifest.find? first.target = some target ∧
    manifest.find? second.target = some other ∧ target.simpleName = other.simpleName ∧
      first.origin.signatureFrom erase target = first.origin.signatureFrom erase other

/-- The functions of two candidates conflict exactly if the candidates are an overload. -/
theorem conflictsWith_iff_overload (distinct : manifest.Distinct) {first second : Candidate}
    (listed : first ∈ manifest.candidates) (otherListed : second ∈ manifest.candidates)
    (different : first ≠ second) {function other : MappingFunction}
    (emitted : manifest.outcome erase first = .emitted function)
    (otherEmitted : manifest.outcome erase second = .emitted other) :
    function.ConflictsWith other ↔ manifest.Overload erase first second := by
  obtain ⟨origin, target, targetSchema, describes, found, describesTarget, rfl⟩ :=
    outcome_eq_emitted_iff.mp emitted
  obtain ⟨otherOrigin, otherTarget, otherSchema, otherDescribes, otherFound, otherDescribesTarget,
    rfl⟩ := outcome_eq_emitted_iff.mp otherEmitted
  rw [MappingFunction.conflictsWith_between_iff describes describesTarget otherDescribes
    otherDescribesTarget]
  constructor
  · intro conflict
    obtain ⟨receivers, names, signatures⟩ := conflict
    have origins : first.origin = second.origin :=
      List.inj_on_of_nodup_map distinct (mem_candidates_iff.mp listed).1
        (mem_candidates_iff.mp otherListed).1 receivers
    refine ⟨origins, ?_, target, otherTarget, found, otherFound, names, ?_⟩
    · intro targets
      obtain ⟨firstOrigin, firstTarget⟩ := first
      obtain ⟨secondOrigin, secondTarget⟩ := second
      obtain rfl : firstOrigin = secondOrigin := origins
      obtain rfl : firstTarget = secondTarget := targets
      exact different rfl
    · rw [signatures, origins]
  · intro overload
    obtain ⟨origins, -, foundTarget, foundOther, sameFound, sameOtherFound, names, signatures⟩ :=
      overload
    obtain rfl : target = foundTarget := Option.some.inj (found.symm.trans sameFound)
    obtain rfl : otherTarget = foundOther := Option.some.inj (otherFound.symm.trans sameOtherFound)
    exact ⟨congrArg Declaration.qualifiedName origins, names, origins ▸ signatures⟩

/-- **Conflicting overloads.** In a manifest that is read and that lists no target twice for the same
origin, and with any options,
* the run writes the functions of the manifest, one for each candidate that has one;
* the functions of two candidates conflict exactly if these have the same origin and different
  targets of the same simple name, with parameters of the same types;
* so no two functions of the run conflict if no origin has two targets of the same simple name. -/
theorem conflict_iff_overload {bytes : List UInt8} (accepted : read bytes = .ok manifest)
    (once : ∀ origin ∈ manifest.declarations, origin.mappers.Nodup) (options : Options) :
    (manifest.candidates ≠ [] → manifest.written options =
      fileHeader options.package :: (manifest.functions options.eraseGenerics).map (·.text)) ∧
    (manifest.candidates.Pairwise fun first second => ∀ function other,
      manifest.outcome options.eraseGenerics first = .emitted function →
      manifest.outcome options.eraseGenerics second = .emitted other →
        (function.ConflictsWith other ↔ manifest.Overload options.eraseGenerics first second)) ∧
    ((∀ origin ∈ manifest.declarations, ∀ first ∈ origin.mappers, ∀ second ∈ origin.mappers,
        first ≠ second → ∀ target other, manifest.find? first = some target →
          manifest.find? second = some other → target.simpleName ≠ other.simpleName) →
      (manifest.functions options.eraseGenerics).Pairwise fun function other =>
        ¬ function.ConflictsWith other) := by
  have distinct := distinct_of_read accepted
  have nodup := nodup_candidates distinct once
  refine ⟨manifest.written_eq options, ?overloads, ?apart⟩
  case overloads =>
    apply nodup.pairwise_of_forall_ne
    intro first listed second otherListed different function other emitted otherEmitted
    exact conflictsWith_iff_overload distinct listed otherListed different emitted otherEmitted
  case apart =>
    intro apart
    rw [functions, outcomes, List.pairwise_filterMap, List.pairwise_map]
    apply nodup.pairwise_of_forall_ne
    intro first listed second otherListed different function emitted other otherEmitted conflict
    have overload := (conflictsWith_iff_overload distinct listed otherListed different
      (Outcome.function?_eq_some_iff.mp emitted)
      (Outcome.function?_eq_some_iff.mp otherEmitted)).mp conflict
    obtain ⟨origins, targets, target, otherTarget, found, otherFound, names, -⟩ := overload
    have marked := (mem_candidates_iff.mp otherListed).2
    rw [← origins] at marked
    exact apart first.origin (mem_candidates_iff.mp listed).1 first.target
      (mem_candidates_iff.mp listed).2 second.target marked targets target otherTarget found
      otherFound names

/-- A record that is mapped to two records of the same simple name, and to a third one. -/
def sampleMarked : Declaration :=
  { sampleOrigin with mappers := ["app.View", "web.View", "app.Card"] }

/-- The manifest of this record and its targets, which have the same properties. -/
def sampleOverloads : Manifest :=
  .ofDeclarations [sampleMarked, sampleTarget, { sampleTarget with qualifiedName := "web.View" },
    { sampleTarget with qualifiedName := "app.Card" }]

theorem read_sampleOverloads :
    read (Text.Utf8.encode sampleOverloads.toJson.pretty) = .ok sampleOverloads := by
  refine read_of_pretty ⟨?version, ?named, ?distinct⟩ ?shallow
  case version => decide +kernel
  case named => decide +kernel
  case distinct =>
    change (List.map _ _).Nodup
    decide +kernel
  case shallow => decide +kernel

theorem nodup_sampleOverloads :
    ∀ origin ∈ sampleOverloads.declarations, origin.mappers.Nodup := by
  decide +kernel

/-- The function to a record with the properties of `sampleTarget`. -/
def sampleFunction (simpleName qualifiedName : String) : MappingFunction where
  name := "mapTo" ++ simpleName
  receiver := "app.Row"
  parameters := [⟨"id", .transform "kotlin.Int" "kotlin.Int" true⟩,
    ⟨"label", .value "kotlin.String?"⟩]
  returnType := qualifiedName
  constructorArgs := [⟨"id", "id(this.id)"⟩, ⟨"label", "label"⟩]

theorem outcomes_sampleOverloads :
    sampleOverloads.outcomes false = [.emitted (sampleFunction "View" "app.View"),
      .emitted (sampleFunction "View" "web.View"), .emitted (sampleFunction "Card" "app.Card")] := by
  decide +kernel

/-- The first two targets are an overload, but not the first and the third. -/
theorem conflict_iff_overload_sample :
    sampleOverloads.Overload false ⟨sampleMarked, "app.View"⟩ ⟨sampleMarked, "web.View"⟩ ∧
      ¬ sampleOverloads.Overload false ⟨sampleMarked, "app.View"⟩ ⟨sampleMarked, "app.Card"⟩ := by
  obtain ⟨-, overloads, -⟩ :=
    conflict_iff_overload read_sampleOverloads nodup_sampleOverloads .default
  obtain ⟨first, -⟩ := List.pairwise_cons.mp overloads
  obtain ⟨view, others⟩ := List.cons.inj outcomes_sampleOverloads
  obtain ⟨web, others⟩ := List.cons.inj others
  obtain ⟨card, -⟩ := List.cons.inj others
  constructor
  · exact (first _ (.head _) _ _ view web).mp ⟨rfl, rfl, rfl⟩
  · intro overload
    have conflict := (first _ (.tail _ (.head _)) _ _ view card).mpr overload
    have names : "mapToView" = "mapToCard" := conflict.name
    exact absurd names (by decide)

/-- A manifest that is read, that lists no target twice, and for which nothing is reported can have
functions that conflict. -/
theorem overloads_conflict :
    read (Text.Utf8.encode sampleOverloads.toJson.pretty) = .ok sampleOverloads ∧
      (∀ origin ∈ sampleOverloads.declarations, origin.mappers.Nodup) ∧
      Options.default.Reachable ∧
      sampleOverloads.diagnostics Options.default.eraseGenerics = [] ∧
      ¬ (sampleOverloads.functions Options.default.eraseGenerics).Pairwise fun function other =>
        ¬ function.ConflictsWith other := by
  have told : sampleOverloads.outcomes Options.default.eraseGenerics = _ :=
    outcomes_sampleOverloads
  refine ⟨read_sampleOverloads, nodup_sampleOverloads, .default, ?_, ?_⟩
  · rw [diagnostics, told]
    rfl
  · intro apart
    rw [functions, told] at apart
    obtain ⟨first, -⟩ := List.pairwise_cons.mp apart
    exact first _ (.head _) ⟨rfl, rfl, rfl⟩

end RecordMapper.Manifest
