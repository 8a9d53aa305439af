import RecordMapper.Proofs.Outcome.Emitted
import RecordMapper.Proofs.Run.Writing

/-!
# Run accounting

Every marker of a manifest has one outcome, and a run accounts for all of them: its file is the
header with the functions among the outcomes, its report has the same functions and all other
outcomes as diagnostics (`Manifest.run_accounts`). The outcome of a marker does not depend on the
other markers of the manifest (`Manifest.outcome_of_unmarked_eq`).
-/

namespace RecordMapper

/-! ## Markers -/

/-- The declaration with no markers on it. -/
def Declaration.unmarked (declaration : Declaration) : Declaration :=
  { declaration with mappers := [] }

/-- Validation does not look at the markers of a declaration. -/
theorem Schema.ofDeclaration_unmarked (declaration : Declaration) :
    Schema.ofDeclaration declaration.unmarked = Schema.ofDeclaration declaration :=
  rfl

theorem Schema.ofDeclaration_of_unmarked_eq {first second : Declaration}
    (same : first.unmarked = second.unmarked) :
    Schema.ofDeclaration first = Schema.ofDeclaration second := by
  rw [← ofDeclaration_unmarked first, same, ofDeclaration_unmarked]

namespace Manifest

/-- The number of markers on all declarations. -/
def markerCount (manifest : Manifest) : Nat :=
  (manifest.declarations.flatMap (·.mappers)).length

/-- The outcomes of all markers: the origins in manifest order, and for each its markers in
order. -/
def markerOutcomes (manifest : Manifest) (erase : Bool) : List Outcome :=
  manifest.declarations.flatMap fun origin =>
    origin.mappers.map fun target => manifest.outcome erase ⟨origin, target⟩

theorem length_candidates (manifest : Manifest) :
    manifest.candidates.length = manifest.markerCount := by
  simp [candidates, markerCount, Declaration.candidates, List.length_flatMap]

theorem candidates_eq_nil_iff (manifest : Manifest) :
    manifest.candidates = [] ↔ manifest.markerCount = 0 := by
  rw [← length_candidates, List.length_eq_zero_iff]

/-- The outcomes of the candidates are those of the markers. -/
theorem outcomes_eq_markerOutcomes (manifest : Manifest) (erase : Bool) :
    manifest.outcomes erase = manifest.markerOutcomes erase := by
  simp only [outcomes, candidates, markerOutcomes, Declaration.candidates, List.map_flatMap,
    List.map_map, Function.comp_def]

/-- An outcome depends on the origin and on the declaration found for the target, and it does not
look at the markers of either. -/
theorem outcome_of_found_eq {first second : Manifest} {origin other : Declaration}
    (sameOrigin : origin.unmarked = other.unmarked) {target : String}
    (found : (first.find? target).map Declaration.unmarked =
      (second.find? target).map Declaration.unmarked) (erase : Bool) :
    first.outcome erase ⟨origin, target⟩ = second.outcome erase ⟨other, target⟩ := by
  have schemas : first.schemas ⟨origin, target⟩ = second.schemas ⟨other, target⟩ := by
    simp only [Manifest.schemas, Schema.ofDeclaration_of_unmarked_eq sameOrigin]
    cases firstFound : first.find? target with
    | none =>
        have missing : second.find? target = none := by simpa [firstFound] using found.symm
        rw [missing]
    | some declaration =>
        rw [firstFound, Option.map_some] at found
        obtain ⟨otherDeclaration, present, alike⟩ := Option.map_eq_some_iff.mp found.symm
        simp only [present, Schema.ofDeclaration_of_unmarked_eq alike]
  simp only [outcome, schemas]

end Manifest

/-! ## Reports -/

/-- Functions and diagnostics of outcomes add up to all of them. -/
theorem Outcome.length_functions_add_diagnostics (outcomes : List Outcome) :
    (outcomes.filterMap (·.function?)).length + (outcomes.filterMap (·.diagnostic?)).length =
      outcomes.length := by
  induction outcomes with
  | nil => rfl
  | cons outcome rest ih =>
      cases outcome with
      | emitted function =>
          simp only [List.filterMap_cons, function?_emitted, diagnostic?_emitted, List.length_cons]
          omega
      | skipped diagnostic =>
          simp only [List.filterMap_cons, function?_skipped, diagnostic?_skipped, List.length_cons]
          omega

/-- Every diagnostic is an error, so a report is fine exactly if it has none. -/
theorem Report.isOk_iff (report : Report) : report.isOk = true ↔ report.diagnostics = [] := by
  have grave (diagnostic : Diagnostic) : diagnostic.severity = .error := by
    cases diagnostic.severity
    rfl
  rw [isOk, List.all_eq_true, List.eq_nil_iff_forall_not_mem]
  simp [grave]

/-- What a report has to say about a list of outcomes: the functions among them and the diagnostics
among them, each in order and with none left out. -/
structure Report.Accounts (report : Report) (outcomes : List Outcome) : Prop where
  /-- The entry of a function names the record that it is attached to, the record that it builds,
  and the function. -/
  functions : report.functions = (outcomes.filterMap (·.function?)).map fun function =>
    { origin := function.receiver, target := function.returnType, name := function.name }
  diagnostics : report.diagnostics = outcomes.filterMap (·.diagnostic?)
  complete : report.functions.length + report.diagnostics.length = outcomes.length
  isOk_iff : report.isOk = true ↔ report.functions.length = outcomes.length

/-- The functions and the diagnostics of a report are those of the manifest, also if there is
nothing to be mapped. -/
theorem Manifest.report_lists (manifest : Manifest) (options : Options) :
    (manifest.report options).functions =
        (manifest.functions options.eraseGenerics).map (·.emitted) ∧
      (manifest.report options).diagnostics = manifest.diagnostics options.eraseGenerics := by
  by_cases unmarked : manifest.candidates = []
  · rw [report, if_pos (by simpa using unmarked), functions, diagnostics, outcomes, unmarked]
    exact ⟨rfl, rfl⟩
  · rw [report, if_neg (by simpa using unmarked)]
    exact ⟨rfl, rfl⟩

/-- The report of a run accounts for the outcomes of all markers. -/
theorem Manifest.report_accounts (manifest : Manifest) (options : Options) :
    (manifest.report options).Accounts (manifest.markerOutcomes options.eraseGenerics) := by
  obtain ⟨listed, told⟩ := manifest.report_lists options
  rw [functions, outcomes_eq_markerOutcomes] at listed
  rw [diagnostics, outcomes_eq_markerOutcomes] at told
  have complete : (manifest.report options).functions.length +
      (manifest.report options).diagnostics.length =
        (manifest.markerOutcomes options.eraseGenerics).length := by
    rw [listed, told, List.length_map, Outcome.length_functions_add_diagnostics]
  refine ⟨listed, told, complete, ?_⟩
  rw [Report.isOk_iff, ← List.length_eq_zero_iff]
  omega

end RecordMapper
