import RecordMapper.Run
import RecordMapper.Sink.Unfailing

/-!
# What a run writes

A run takes one candidate after the other, and each of them moves the sink and the report forward.
Taken together, the run is the writing of all chunks, followed by the report of all outcomes
(`Manifest.writeOutput_eq`, `Manifest.run_eq_deliver`), whatever the sink does. On a sink that never
fails the run is nothing but these writes (`Manifest.run_ofActions`).
-/

namespace RecordMapper

/-- The texts of the functions among some outcomes, in order. -/
def Outcome.texts (outcomes : List Outcome) : List String :=
  (outcomes.filterMap (·.function?)).map (·.text)

/-- The report with the functions and the diagnostics of some more outcomes. -/
def Report.addOutcomes (report : Report) (outcomes : List Outcome) : Report :=
  { report with
    functions := report.functions ++ (outcomes.filterMap (·.function?)).map (·.emitted)
    diagnostics := report.diagnostics ++ outcomes.filterMap (·.diagnostic?) }

/-- Adding a function and then other outcomes is adding all of them. -/
theorem Report.addOutcomes_addFunction (report : Report) (function : MappingFunction)
    (outcomes : List Outcome) :
    (report.addFunction function).addOutcomes outcomes =
      report.addOutcomes (.emitted function :: outcomes) := by
  simp [addOutcomes, addFunction, List.filterMap_cons]

theorem Report.addOutcomes_addDiagnostic (report : Report) (diagnostic : Diagnostic)
    (outcomes : List Outcome) :
    (report.addDiagnostic diagnostic).addOutcomes outcomes =
      report.addOutcomes (.skipped diagnostic :: outcomes) := by
  simp [addOutcomes, addDiagnostic, List.filterMap_cons]

/-- Creates the output file in the sink and writes chunks into it. If all of it succeeds, the report
is `report`. -/
def Sink.deliver {m : Type → Type} [Monad m] (sink : Sink m) (options : Options)
    (chunks : List String) (report : Report) : m (Except RunFault Report) := do
  match ← sink.create options.package options.fileName with
  | .error cause => pure (.error ⟨.create, options.outputPath.text, cause⟩)
  | .ok handle =>
    match ← sink.writeFile handle chunks with
    | .error cause => pure (.error ⟨.write, options.outputPath.text, cause⟩)
    | .ok () => pure (.ok report)

namespace Manifest

variable {m : Type → Type} [Monad m] [LawfulMonad m]

/-- Taking the candidates one by one writes the texts of their functions, up to the first write
that fails, and adds all their outcomes to the report. -/
theorem writeCandidates_eq (manifest : Manifest) (erase : Bool) (sink : Sink m)
    (handle : sink.Handle) (report : Report) (candidates : List Candidate) :
    manifest.writeCandidates erase sink handle report candidates =
      Except.map (fun _ => report.addOutcomes (candidates.map (manifest.outcome erase))) <$>
        sink.writeAll handle (Outcome.texts (candidates.map (manifest.outcome erase))) := by
  -- Each candidate adds to the report before the rest is taken, so the induction is for any report.
  induction candidates generalizing report with
  | nil =>
      simp [writeCandidates, Outcome.texts, Sink.writeAll, Report.addOutcomes, Except.map]
  | cons candidate rest ih =>
      rw [writeCandidates, List.map_cons]
      cases manifest.outcome erase candidate with
      | skipped diagnostic =>
          simp only [ih, Report.addOutcomes_addDiagnostic]
          rfl
      | emitted function =>
          have texts : Outcome.texts (.emitted function :: rest.map (manifest.outcome erase)) =
              function.text :: Outcome.texts (rest.map (manifest.outcome erase)) := rfl
          rw [texts, Sink.writeAll, map_bind]
          apply bind_congr
          intro written
          cases written with
          | error cause => simp [Except.map]
          | ok done => simp only [ih, Report.addOutcomes_addFunction]

/-- The outcomes of all candidates, added to the report of an opened file, are the report. -/
theorem addOutcomes_opened (manifest : Manifest) (options : Options)
    (marked : manifest.candidates ≠ []) :
    (Report.opened options.outputFile).addOutcomes
        (manifest.candidates.map (manifest.outcome options.eraseGenerics)) =
      manifest.report options := by
  rw [report, if_neg (by simpa using marked)]
  simp [Report.addOutcomes, Report.opened, functions, diagnostics, outcomes]

/-- **A run writes all chunks and reports all outcomes.** A sink that fails at some chunk is left
with the chunks before it. -/
theorem writeOutput_eq (manifest : Manifest) (options : Options) (sink : Sink m)
    (handle : sink.Handle) (marked : manifest.candidates ≠ []) :
    manifest.writeOutput options sink handle =
      Except.map (fun _ => manifest.report options) <$>
        sink.writeFile handle (manifest.chunks options) := by
  have texts : Outcome.texts (manifest.candidates.map (manifest.outcome options.eraseGenerics)) =
      (manifest.functions options.eraseGenerics).map (·.text) := rfl
  simp only [writeOutput, writeCandidates_eq, manifest.addOutcomes_opened options marked, texts,
    Sink.writeFile, chunks, Sink.writeAll, bind_assoc, map_bind, bind_map_left]
  apply bind_congr
  intro written
  cases written with
  | error cause => simp [Except.map]
  | ok done =>
      apply bind_congr
      intro rest
      cases rest with
      | error cause => simp [Except.map]
      | ok done =>
          rw [map_eq_pure_bind]
          apply bind_congr
          intro flushed
          cases flushed <;> rfl

omit [LawfulMonad m] in
/-- A manifest without candidates leaves every sink alone. -/
theorem run_unmarked (manifest : Manifest) (options : Options) (sink : Sink m)
    (unmarked : manifest.candidates = []) :
    manifest.run options sink = pure (.ok .empty) := by
  rw [run, if_pos (by simp [unmarked])]

omit [LawfulMonad m] in
/-- With candidates, a run creates its file and then writes its output. -/
theorem run_marked (manifest : Manifest) (options : Options) (sink : Sink m)
    (marked : manifest.candidates ≠ []) :
    manifest.run options sink = (do
      match ← sink.create options.package options.fileName with
      | .error cause => pure (.error ⟨.create, options.outputPath.text, cause⟩)
      | .ok handle =>
        match ← manifest.writeOutput options sink handle with
        | .error cause => pure (.error ⟨.write, options.outputPath.text, cause⟩)
        | .ok report => pure (.ok report)) := by
  have hasCandidates : ¬manifest.candidates.isEmpty = true := by simpa using marked
  unfold run
  exact if_neg hasCandidates

/-- A run with candidates delivers its chunks and its report. -/
theorem run_eq_deliver (manifest : Manifest) (options : Options) (sink : Sink m)
    (marked : manifest.candidates ≠ []) :
    manifest.run options sink =
      sink.deliver options (manifest.chunks options) (manifest.report options) := by
  rw [manifest.run_marked options sink marked, Sink.deliver]
  apply bind_congr
  intro created
  cases created with
  | error cause => rfl
  | ok handle =>
      dsimp only
      rw [manifest.writeOutput_eq options sink handle marked, bind_map_left]
      apply bind_congr
      intro written
      cases written <;> rfl

/-- What a run does is decided by its options and its outcomes. -/
theorem run_of_outcomes_eq {first second : Manifest} {options : Options}
    (same : first.outcomes options.eraseGenerics = second.outcomes options.eraseGenerics)
    (sink : Sink m) : first.run options sink = second.run options sink := by
  have idle (manifest : Manifest) :
      manifest.outcomes options.eraseGenerics = [] ↔ manifest.candidates = [] := by
    rw [outcomes, List.map_eq_nil_iff]
  by_cases unmarked : first.candidates = []
  · have otherUnmarked : second.candidates = [] := by rwa [← idle, ← same, idle]
    rw [first.run_unmarked options sink unmarked, second.run_unmarked options sink otherUnmarked]
  · have otherMarked : second.candidates ≠ [] := by rwa [ne_eq, ← idle, ← same, idle]
    have chunks : first.chunks options = second.chunks options := by
      simp only [chunks, functions, same]
    have report : first.report options = second.report options := by
      rw [report, report, if_neg (by simpa using unmarked), if_neg (by simpa using otherMarked)]
      simp only [functions, diagnostics, same]
    rw [first.run_eq_deliver options sink unmarked, second.run_eq_deliver options sink otherMarked,
      chunks, report]

end Manifest

/-! ## Sinks that never fail -/

section

variable {m : Type → Type} [Monad m] [LawfulMonad m]

theorem Sink.writeAll_ofActions (actions : SinkActions m) (handle : actions.Handle)
    (chunks : List String) :
    (Sink.ofActions actions).writeAll handle chunks =
      Except.ok <$> forM chunks (actions.write handle) := by
  induction chunks with
  | nil => simp [Sink.writeAll]
  | cons chunk rest ih => simp only [Sink.writeAll, bind_map_left, List.forM_cons, map_bind, ih]

/-- The recording sink keeps the chunks of a file after those it has. -/
theorem SinkActions.run_recording (package fileName : String) (chunks before : List String) :
    (recording.writeFile package fileName chunks).run before = ((), before ++ chunks) := by
  have all : (forM chunks (recording.write ())).run before = ((), before ++ chunks) := by
    induction chunks generalizing before with
    | nil => rw [List.append_nil]; rfl
    | cons chunk rest ih =>
        rw [List.forM_cons]
        change (forM rest (recording.write ())).run (before ++ [chunk]) = _
        rw [ih, List.append_assoc, List.singleton_append]
  rw [← all]
  rfl

/-- **A run on a sink that never fails** creates the file, writes the chunks in order, flushes, and
does nothing else. -/
theorem Manifest.run_ofActions (manifest : Manifest) (options : Options) (actions : SinkActions m)
    (marked : manifest.candidates ≠ []) :
    manifest.run options (.ofActions actions) = (do
      actions.writeFile options.package options.fileName (manifest.chunks options)
      pure (.ok (manifest.report options))) := by
  rw [manifest.run_eq_deliver options _ marked, Sink.deliver, SinkActions.writeFile, bind_assoc,
    bind_map_left]
  apply bind_congr
  intro handle
  simp only [Sink.writeFile, Sink.writeAll_ofActions, bind_map_left, bind_assoc]

end

end RecordMapper
