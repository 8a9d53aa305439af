import RecordMapper.Proofs.CommandLine.Options
import RecordMapper.Proofs.CommandLine.Running

/-!
# Checking and generating

The two modes of a generation find their output file in different ways, one in memory and one in the
tree, and agree about it (`check_agrees_with_generate`). After a generation a check finds no
difference, and where a check finds none there is nothing to generate.
-/

namespace RecordMapper.CommandLine

open FileTree RecordMapper.Text

/-- **Checking and generating agree.** For a manifest that is accepted, and without a report file:

* after a generation whose run succeeds, a check finds no difference, and both a check and another
  generation end like the first one and change nothing, provided that the output file is not the
  manifest's own;
* where a check finds no difference, a generation changes nothing;
* without candidates a generation changes nothing, and a check finds no difference exactly if
  nothing is at the output path. -/
theorem check_agrees_with_generate {arguments : GenerateArguments} {options : Options}
    {manifest : Manifest} {bytes : List UInt8} {tree : FileTree}
    (settled : arguments.runOptions = .ok options) (noReport : arguments.report? = none)
    (read : tree.readBytes arguments.input = .ok bytes)
    (accepted : Manifest.read bytes = .ok manifest) :
    (manifest.candidates ≠ [] →
      tree.destination arguments.input ≠ tree.destination (options.outputBelow arguments.out) →
      ∀ (report : Report) (after : FileTree),
        (manifest.run options (Sink.directory (m := StateM FileTree) arguments.out)).run tree =
          (.ok report, after) →
        ∃ ending : Ending,
          (generate (m := StateM FileTree) { arguments with check := false } options).run tree =
            (ending, after) ∧
          (checkRun (m := StateM FileTree) manifest options arguments.out).run after =
            (.ok report, after) ∧
          (generate (m := StateM FileTree) { arguments with check := true } options).run after =
            (ending, after) ∧
          (generate (m := StateM FileTree) { arguments with check := false } options).run after =
            (ending, after)) ∧
    (∀ (report : Report) (after : FileTree),
      (checkRun (m := StateM FileTree) manifest options arguments.out).run tree =
        (.ok report, after) →
      ∃ ending : Ending,
        (generate (m := StateM FileTree) { arguments with check := false } options).run tree =
          (ending, tree)) ∧
    (manifest.candidates = [] →
      (∃ ending : Ending,
        (generate (m := StateM FileTree) { arguments with check := false } options).run tree =
          (ending, tree)) ∧
      ((∃ (report : Report) (after : FileTree),
        (checkRun (m := StateM FileTree) manifest options arguments.out).run tree =
          (.ok report, after)) ↔
        ∀ location, tree.locate (options.outputBelow arguments.out) = .ok location →
          tree.entryAt? location = none)) := by
  have valid := (GenerateArguments.valid_of_runOptions settled).fileName
  refine ⟨?afterwards, ?nothingToDo, ?unmarked⟩
  case afterwards =>
    intro marked apart report after ran
    -- Both modes are told by what the file holds: the run leaves its text there, which is what a
    -- check asks for and what lets another run change nothing.
    have holds := Manifest.holds_of_run_directory marked valid ran
    obtain ⟨same, -⟩ := Manifest.exists_of_run_directory marked valid ran
    have readAfter := Manifest.readBytes_of_run_directory marked valid read apart ran
    have checked : (checkRun (m := StateM FileTree) manifest options arguments.out).run after =
        (.ok report, after) := (run_checkRun_eq_ok_iff marked).mpr ⟨holds, same, rfl⟩
    have again := Manifest.run_directory_of_holds marked valid holds
    rw [← same] at again
    exact ⟨_, run_generate_write read accepted noReport ran, checked,
      run_generate_check readAfter accepted noReport checked,
      run_generate_write readAfter accepted noReport again⟩
  case nothingToDo =>
    intro report after checked
    by_cases marked : manifest.candidates = []
    · exact ⟨_, run_generate_write read accepted noReport
        (Manifest.run_directory_unmarked marked options arguments.out tree)⟩
    · obtain ⟨holds, -⟩ := (run_checkRun_eq_ok_iff marked).mp checked
      exact ⟨_, run_generate_write read accepted noReport
        (Manifest.run_directory_of_holds marked valid holds)⟩
  case unmarked =>
    intro unmarked
    refine ⟨⟨_, run_generate_write read accepted noReport
      (Manifest.run_directory_unmarked unmarked options arguments.out tree)⟩, ?_⟩
    simp only [run_checkRun_unmarked unmarked]
    constructor
    · intro checked
      obtain ⟨_, _, absent, -, -⟩ := checked
      exact absent
    · intro absent
      exact ⟨.empty, tree, absent, rfl, rfl⟩

/-- A manifest with one marker, whose target is not there. -/
def sampleManifest : List UInt8 :=
  Utf8.encode <| "\x7b\"schema_version\":\"modelmap.declarations@0.1.0\",\"declarations\":[\x7b" ++
    "\"qualified_name\":\"a.B\",\"kind\":\"class\"," ++
    "\"mappers\":[\x7b\"target\":\"a.C\"\x7d]\x7d]\x7d"

/-- A tree with the manifest `sampleManifest` and an output file that is out of date. -/
def sampleTree : FileTree where
  entries := [(["work"], .directory), (["work", "rows.json"], .file sampleManifest),
    (["work", "ron"], .directory),
    (["work", "ron", "GeneratedMapperFunctions.kt"], .file (Utf8.encode "package old"))]
  workingDirectory := ["work"]
  limits? := none

/-- Arguments that ask for the output file of `sampleTree`. -/
def sampleArguments : GenerateArguments where
  input := ⟨"rows.json"⟩
  out := ⟨"."⟩
  package? := none
  fileName? := none
  eraseGenerics := false
  options := []
  check := false
  report? := none

/-- In the sample tree a generation writes the file anew, and then a check finds no difference. -/
theorem check_agrees_with_generate_sample :
    ∃ (manifest : Manifest) (report : Report) (after : FileTree) (ending : Ending),
      Manifest.read sampleManifest = .ok manifest ∧
      (checkRun (m := StateM FileTree) manifest .default ⟨"."⟩).run after =
        (.ok report, after) ∧
      (generate (m := StateM FileTree) sampleArguments .default).run sampleTree =
        (ending, after) ∧
      (generate (m := StateM FileTree) { sampleArguments with check := true } .default).run after =
        (ending, after) := by
  have settled : sampleArguments.runOptions = .ok .default := by rfl
  have read : sampleTree.readBytes sampleArguments.input = .ok sampleManifest := by rfl
  have apart : sampleTree.destination sampleArguments.input ≠
      sampleTree.destination (Options.default.outputBelow sampleArguments.out) := by
    decide +kernel
  have ready : (Manifest.read sampleManifest).toOption.map (fun manifest =>
      (manifest.candidates.isEmpty, ((manifest.run .default
        (Sink.directory (m := StateM FileTree) ⟨"."⟩)).run sampleTree).1.toBool)) =
      some (false, true) := by
    decide +kernel
  cases accepted : Manifest.read sampleManifest with
  | error fault => simp [accepted, Except.toOption] at ready
  | ok manifest =>
      simp only [accepted, Except.toOption, Option.map_some, Option.some.injEq,
        Prod.mk.injEq] at ready
      have marked : manifest.candidates ≠ [] := by simpa using ready.1
      cases ran : (manifest.run .default
          (Sink.directory (m := StateM FileTree) ⟨"."⟩)).run sampleTree with
      | mk result after =>
          cases result with
          | error fault => simp [ran, Except.toBool] at ready
          | ok report =>
              obtain ⟨afterwards, -, -⟩ := check_agrees_with_generate settled rfl read accepted
              obtain ⟨ending, written, checked, again, -⟩ :=
                afterwards marked apart report after ran
              exact ⟨manifest, report, after, ending, rfl, checked, written, again⟩

end RecordMapper.CommandLine
