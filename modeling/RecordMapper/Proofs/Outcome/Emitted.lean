import RecordMapper.Outcome
import RecordMapper.Proofs.Schema.Fields

/-!
# Emitted functions

A candidate has a function exactly if its origin and the declaration found for its target describe
schemas, and the function is the one between these two (`Manifest.outcome_eq_emitted_iff`).
-/

namespace RecordMapper

theorem Outcome.function?_eq_some_iff {outcome : Outcome} {function : MappingFunction} :
    outcome.function? = some function ↔ outcome = .emitted function := by
  cases outcome <;> simp

namespace Manifest

/-- A candidate has schemas exactly if both its sides describe one. -/
theorem schemas_eq_ok_iff {manifest : Manifest} {candidate : Candidate} {origin target : Schema} :
    manifest.schemas candidate = .ok (origin, target) ↔
      candidate.origin.Describes origin ∧
        ∃ declaration, manifest.find? candidate.target = some declaration ∧
          declaration.Describes target := by
  simp only [schemas, ← Schema.ofDeclaration_eq_ok_iff]
  cases Schema.ofDeclaration candidate.origin with
  | error rejection => simp
  | ok first =>
      cases manifest.find? candidate.target with
      | none => simp
      | some declaration =>
          cases valid : Schema.ofDeclaration declaration with
          | error rejection => simp [valid]
          | ok second => simp [valid]

/-- **A candidate is emitted** exactly if both its sides describe a schema; the function is the one
between them. -/
theorem outcome_eq_emitted_iff {manifest : Manifest} {erase : Bool} {candidate : Candidate}
    {function : MappingFunction} :
    manifest.outcome erase candidate = .emitted function ↔
      ∃ origin declaration target, candidate.origin.Describes origin ∧
        manifest.find? candidate.target = some declaration ∧ declaration.Describes target ∧
          function = .between erase origin target := by
  unfold outcome
  constructor
  · intro emitted
    cases found : manifest.schemas candidate with
    | error diagnostic => simp [found] at emitted
    | ok pair =>
        obtain ⟨origin, target⟩ := pair
        obtain ⟨describes, declaration, present, describesTarget⟩ := schemas_eq_ok_iff.mp found
        simp only [found, Outcome.emitted.injEq] at emitted
        exact ⟨origin, declaration, target, describes, present, describesTarget, emitted.symm⟩
  · intro described
    obtain ⟨origin, declaration, target, describes, present, describesTarget, rfl⟩ := described
    rw [schemas_eq_ok_iff.mpr ⟨describes, declaration, present, describesTarget⟩]

theorem find?_qualifiedName {manifest : Manifest} {target : String} {declaration : Declaration}
    (found : manifest.find? target = some declaration) : declaration.qualifiedName = target := by
  simpa using List.find?_some found

/-- A function of the manifest is the outcome of one of its candidates. -/
theorem mem_functions_iff {manifest : Manifest} {erase : Bool} {function : MappingFunction} :
    function ∈ manifest.functions erase ↔
      ∃ candidate ∈ manifest.candidates, manifest.outcome erase candidate = .emitted function := by
  simp only [functions, outcomes, List.mem_filterMap, List.mem_map, Outcome.function?_eq_some_iff]
  constructor
  · intro member
    obtain ⟨outcome, ⟨candidate, listed, rfl⟩, emitted⟩ := member
    exact ⟨candidate, listed, emitted⟩
  · intro member
    obtain ⟨candidate, listed, emitted⟩ := member
    exact ⟨_, ⟨candidate, listed, rfl⟩, emitted⟩

/-! ## A small manifest -/

/-- A record that is mapped to `sampleTarget` and to a record that is not there. -/
def sampleOrigin : Declaration where
  qualifiedName := "app.Row"
  simpleName? := none
  kind := .plainClass
  modifiers := ["data"]
  typeParams := []
  properties := [⟨"id", some ⟨"kotlin.Int", [], false⟩, none, false⟩]
  mappers := ["app.View", "app.Missing"]

/-- A record with the property of `sampleOrigin` and one of its own. -/
def sampleTarget : Declaration where
  qualifiedName := "app.View"
  simpleName? := none
  kind := .plainClass
  modifiers := ["data"]
  typeParams := []
  properties := sampleOrigin.properties ++
    [⟨"label", some ⟨"kotlin.String", [], true⟩, none, false⟩]
  mappers := []

/-- The target record with a marker, and with accessors that have no name, a repeated name and no
types. -/
def sampleGuarded : Declaration :=
  { sampleTarget with
    properties :=
      [⟨"", none, none, true⟩, ⟨"id", some ⟨"kotlin.Int", [], false⟩, none, false⟩,
        ⟨"id", none, some ⟨"kotlin.Any", [], false⟩, false⟩,
        ⟨"label", some ⟨"kotlin.String", [], true⟩, none, false⟩]
    mappers := ["app.Missing"] }

/-- The manifest of the two records. One of its markers has a function, the other a diagnostic. -/
def sample : Manifest :=
  .ofDeclarations [sampleOrigin, sampleTarget]

theorem candidates_sample : sample.candidates ≠ [] := by
  simp [sample, candidates, Declaration.candidates, ofDeclarations, sampleOrigin]

end Manifest

end RecordMapper
