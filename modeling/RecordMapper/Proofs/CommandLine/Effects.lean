import RecordMapper.Proofs.CommandLine.CheckMode
import RecordMapper.Proofs.Digest.Sha256
import RecordMapper.Proofs.FileTree.Writing
import RecordMapper.Proofs.Report.Reading
import RecordMapper.Proofs.Sink.Failing

/-!
# Effects of a generation

A generation settles its options, reads and accepts its manifest, runs, and writes its report. Where
one of these fails, the later ones do not happen (`CommandLine.ends_of_run`). So a tree changes only
by what the stages before the failure write, and the exit status tells whether all of them succeeded
and no marker was skipped (`CommandLine.effects_of_generate`).
-/

namespace RecordMapper

open RecordMapper.Text

/-! ## Files that are written with their directories -/

namespace FileTree

variable {tree : FileTree} {path : Path}

/-- Writing a text puts a file where its path leads, or changes nothing. -/
theorem run_writeText (path : Path) (text : String) (tree : FileTree) :
    (FileAccess.writeText (m := StateM FileTree) path text).run tree =
      match tree.createFile path with
      | .error fault => (.error fault, tree)
      | .ok _ => (.ok (), tree.put (tree.destination path) (.file (Utf8.encode text))) := by
  have created := run_createFile path tree
  cases result : tree.createFile path with
  | error fault =>
      rw [result] at created
      rw [FileAccess.writeText, run_bind_eq created]
      rfl
  | ok fresh =>
      obtain ⟨noSlash, -, location, located, free, rfl⟩ := createFile_eq_ok_iff.mp result
      have holds := holdsAt_put located free []
      have appended : (tree.put location (.file [])).appendBytes path (Utf8.encode text) =
          .ok (tree.put location (.file (Utf8.encode text))) := by
        rw [← put_put (.file []) (.file (Utf8.encode text))]
        exact appendBytes_eq_ok_iff.mpr ⟨location, [], holds.located, holds.held, noSlash, rfl⟩
      rw [result] at created
      rw [FileAccess.writeText, run_bind_eq created]
      dsimp only
      rw [run_appendBytes, appended, ← eq_destination located]

/-- A file that is put where it can be created is found and read there. -/
theorem holds_put_of_createFile {fresh : FileTree} (created : tree.createFile path = .ok fresh)
    (text : String) :
    (tree.put (tree.destination path) (.file (Utf8.encode text))).Holds path text ∧
      (tree.put (tree.destination path) (.file (Utf8.encode text))).readBytes path =
        .ok (Utf8.encode text) := by
  obtain ⟨noSlash, -, location, located, free, -⟩ := createFile_eq_ok_iff.mp created
  rw [← eq_destination located]
  have holds := holdsAt_put located free (Utf8.encode text)
  exact ⟨⟨location, holds⟩, readBytes_eq_ok_iff.mpr ⟨location, holds.located, holds.held, noSlash⟩⟩

end FileTree

open FileTree

/-- **A run into a directory writes its output file only**, however it ends. -/
theorem Manifest.writes_of_run_directory (manifest : Manifest) {options : Options}
    (valid : FileName.fault? options.fileName = none) (root : Path) (tree : FileTree) :
    tree.Writes [options.outputBelow root]
      ((manifest.run options (Sink.directory (m := StateM FileTree) root)).run tree).2 := by
  by_cases unmarked : manifest.candidates = []
  · rw [run_directory_unmarked unmarked]
    exact .refl _ _
  · have gains := gainsDirectories_makeParents (options.outputBelow root) tree
    rw [run_directory unmarked valid]
    revert gains
    rcases (FileAccess.makeParents (m := StateM FileTree) (options.outputBelow root)).run tree with
      ⟨fault | done, middle⟩
    · exact .of_gainsDirectories
    · intro gains
      dsimp only at gains ⊢
      split
      · exact .of_gainsDirectories gains
      · next created => exact writes_put_of_createFile gains created _

namespace CommandLine

variable {arguments : GenerateArguments} {options : Options} {manifest : Manifest}
  {bytes : List UInt8} {report : Report} {tree middle after : FileTree} {path : Path} {exit : Exit}

/-! ## The report file -/

/-- Writing a report makes the directories above its file and then the file. -/
theorem run_writeReport (path : Path) (report : Report) (tree : FileTree) :
    (writeReport (m := StateM FileTree) path report).run tree =
      match (FileAccess.makeParents (m := StateM FileTree) path).run tree with
      | (.error fault, middle) =>
        (.error (.ofFault "create report dir" (path.parent?.getD ⟨""⟩) fault), middle)
      | (.ok (), middle) =>
        match middle.createFile path with
        | .error fault => (.error (.ofFault "write report" path fault), middle)
        | .ok _ =>
          (.ok (), middle.put (middle.destination path) (.file (Utf8.encode report.fileText))) := by
  rw [writeReport, StateT.run_bind]
  rcases (FileAccess.makeParents (m := StateM FileTree) path).run tree with ⟨fault | done, middle⟩
  · rfl
  · change StateT.run (FileAccess.writeText path report.fileText >>= _) middle = _
    rw [StateT.run_bind, run_writeText]
    dsimp only
    cases middle.createFile path <;> rfl

/-- **A report changes its own file only**, and it is read back from there if that could be
written. -/
theorem writes_of_writeReport {result : Except Failure Unit}
    (ran : (writeReport (m := StateM FileTree) path report).run tree = (result, after)) :
    tree.Writes [path] after ∧
      (result = .ok () → after.Holds path report.fileText ∧
        ∃ held, after.readBytes path = .ok held ∧ Report.read? held = some report) := by
  have gains := gainsDirectories_makeParents path tree
  rw [run_writeReport] at ran
  revert ran gains
  rcases (FileAccess.makeParents (m := StateM FileTree) path).run tree with ⟨fault | done, middle⟩
  · intro ran gains
    cases ran
    exact ⟨.of_gainsDirectories gains, nofun⟩
  · intro ran gains
    dsimp only at ran
    split at ran
    · cases ran
      exact ⟨.of_gainsDirectories gains, nofun⟩
    · next created =>
        cases ran
        obtain ⟨holds, read⟩ := holds_put_of_createFile created report.fileText
        exact ⟨writes_put_of_createFile gains created _, fun _ =>
          ⟨holds, _, read, report.read?_fileText⟩⟩

/-- A report is written to its own file only, or nowhere. -/
theorem writes_of_writeReportIfAsked {path? : Option Path} {result : Except Failure Unit}
    (ran : (writeReportIfAsked (m := StateM FileTree) path? report).run tree = (result, after)) :
    tree.Writes path?.toList after := by
  cases path? with
  | none =>
      cases ran
      exact .refl tree _
  | some path => exact (writes_of_writeReport ran).1

/-! ## The stages -/

/-- The stages before the run: the options are settled, and the manifest is read and accepted. -/
structure GenerateArguments.Opens (arguments : GenerateArguments) (tree : FileTree)
    (options : Options) (bytes : List UInt8) (manifest : Manifest) : Prop where
  settled : arguments.runOptions = .ok options
  read : tree.readBytes arguments.input = .ok bytes
  accepted : Manifest.read bytes = .ok manifest

/-- A run that comes to its report: it has written its output file or, in a check, what it has
generated in memory compares well with the file that is there. -/
inductive GenerateArguments.Runs (arguments : GenerateArguments) (options : Options)
    (manifest : Manifest) (tree : FileTree) : Report → FileTree → Prop
  | writes {report : Report} {after : FileTree} : arguments.check = false →
      (manifest.run options (Sink.directory (m := StateM FileTree) arguments.out)).run tree =
        (.ok report, after) →
      Runs arguments options manifest tree report after
  | compares {report : Report} {store : MemoryStore} : arguments.check = true →
      (manifest.run options Sink.memory).run .empty = (.ok report, store) →
      (compareOutput (m := StateM FileTree) (options.outputBelow arguments.out)
        (store.text? options.package options.fileName)).run tree = (.ok (), tree) →
      Runs arguments options manifest tree report tree

theorem GenerateArguments.Opens.unique {otherOptions : Options} {otherBytes : List UInt8}
    {other : Manifest} (first : arguments.Opens tree options bytes manifest)
    (second : arguments.Opens tree otherOptions otherBytes other) :
    options = otherOptions ∧ bytes = otherBytes ∧ manifest = other := by
  obtain rfl := Except.ok.inj (first.settled.symm.trans second.settled)
  obtain rfl := Except.ok.inj (first.read.symm.trans second.read)
  exact ⟨rfl, rfl, Except.ok.inj (first.accepted.symm.trans second.accepted)⟩

/-- A check leaves the tree alone. -/
theorem run_checkRun_tree (manifest : Manifest) (options : Options) (root : Path)
    (tree : FileTree) :
    ((checkRun (m := StateM FileTree) manifest options root).run tree).2 = tree := by
  rcases ran : (manifest.run options Sink.memory).run .empty with ⟨fault | report, store⟩
  · rw [checkRun, ran]
    rfl
  · rw [run_checkRun ran]

/-- A check comes to its report exactly if the run in memory does and compares well. -/
theorem run_checkRun_iff {root : Path} :
    (checkRun (m := StateM FileTree) manifest options root).run tree = (.ok report, after) ↔
      after = tree ∧ ∃ store,
        (manifest.run options Sink.memory).run .empty = (.ok report, store) ∧
        (compareOutput (m := StateM FileTree) (options.outputBelow root)
          (store.text? options.package options.fileName)).run tree = (.ok (), tree) := by
  simp only [run_compareOutput]
  constructor
  · intro checked
    obtain rfl : after = tree := by rw [← run_checkRun_tree manifest options root tree, checked]
    refine ⟨rfl, ?_⟩
    rcases ran : (manifest.run options Sink.memory).run .empty with ⟨fault | found, store⟩
    · rw [checkRun, ran] at checked
      cases checked
    · rw [run_checkRun ran] at checked
      cases same : compared after (options.outputBelow root)
          (store.text? options.package options.fileName) with
      | error failure =>
          rw [same] at checked
          cases checked
      | ok done =>
          rw [same] at checked
          cases checked
          exact ⟨store, rfl, by rw [same]⟩
  · rintro ⟨rfl, store, ran, same⟩
    rw [run_checkRun ran, (Prod.mk.inj same).1]
    rfl

/-- The stage of the run comes to a report exactly if the run does. -/
theorem run_stage_iff :
    (arguments.stage options manifest).run tree = (.ok report, after) ↔
      arguments.Runs options manifest tree report after := by
  unfold GenerateArguments.stage
  constructor
  · intro ran
    cases check : arguments.check with
    | true =>
        rw [check, if_pos rfl] at ran
        obtain ⟨rfl, store, inMemory, same⟩ := run_checkRun_iff.mp ran
        exact .compares check inMemory same
    | false =>
        rw [check, if_neg Bool.false_ne_true, run_writeRun] at ran
        rcases written : (manifest.run options
            (Sink.directory (m := StateM FileTree) arguments.out)).run tree with ⟨_ | found, last⟩
        · rw [written] at ran
          cases ran
        · rw [written] at ran
          cases ran
          exact .writes check written
  · intro runs
    cases runs with
    | writes check written => rw [check, if_neg Bool.false_ne_true, run_writeRun, written]
    | compares check inMemory same =>
        rw [check, if_pos rfl]
        exact run_checkRun_iff.mpr ⟨rfl, _, inMemory, same⟩

/-- The paths that the run of a generation writes. -/
def GenerateArguments.outputs (arguments : GenerateArguments) (options : Options) : List Path :=
  if arguments.check then [] else [options.outputBelow arguments.out]

/-- A check leaves the tree alone, and any other run writes its output file only. -/
theorem writes_of_stage {result : Except Failure Report}
    (settled : arguments.runOptions = .ok options)
    (ran : (arguments.stage options manifest).run tree = (result, after)) :
    (arguments.check = true → after = tree) ∧ tree.Writes (arguments.outputs options) after := by
  obtain rfl : ((arguments.stage options manifest).run tree).2 = after := by rw [ran]
  unfold GenerateArguments.stage GenerateArguments.outputs
  cases check : arguments.check with
  | true =>
      have same := run_checkRun_tree manifest options arguments.out tree
      rw [if_pos rfl, if_pos rfl]
      refine ⟨fun _ => same, ?_⟩
      rw [same]
      exact .refl tree _
  | false =>
      refine ⟨nofun, ?_⟩
      have writes := manifest.writes_of_run_directory
        (GenerateArguments.valid_of_runOptions settled).fileName arguments.out tree
      rw [if_neg Bool.false_ne_true, if_neg Bool.false_ne_true, run_writeRun]
      revert writes
      rcases (manifest.run options (Sink.directory (m := StateM FileTree) arguments.out)).run tree
        with ⟨fault | report, after⟩
      · exact id
      · exact id

/-- A run comes to one report. -/
theorem GenerateArguments.Runs.unique {other : Report} {otherAfter : FileTree}
    (first : arguments.Runs options manifest tree report after)
    (second : arguments.Runs options manifest tree other otherAfter) :
    report = other ∧ after = otherAfter := by
  have same := (run_stage_iff.mpr first).symm.trans (run_stage_iff.mpr second)
  rw [Prod.mk.injEq, Except.ok.injEq] at same
  exact same

/-- A run comes to the report of its manifest, in a check as well. -/
theorem GenerateArguments.Runs.eq_report
    (runs : arguments.Runs options manifest tree report after) :
    report = manifest.report options := by
  cases runs with
  | writes _ ran => exact Manifest.eq_report_of_run ran
  | compares _ ran _ => exact Manifest.eq_report_of_run ran

/-- The report of a run is fine exactly if every marker is emitted. -/
theorem GenerateArguments.Runs.isOk_iff
    (runs : arguments.Runs options manifest tree report after) :
    report.isOk = true ↔ ∀ outcome ∈ manifest.markerOutcomes options.eraseGenerics,
      ∃ function, outcome = .emitted function := by
  obtain rfl := runs.eq_report
  rw [Report.isOk_iff, (manifest.report_accounts options).diagnostics, List.filterMap_eq_nil_iff]
  refine forall₂_congr fun outcome _ => ?_
  cases outcome <;> simp

/-! ## How a generation ends -/

/-- The exit status is 0 exactly if there is no failure. -/
theorem Ending.status_exit {ending : Ending} :
    ending.exit.status = 0 ↔ ending.failure? = none := by
  unfold Ending.exit
  cases ending.failure? with
  | none => simp
  | some failure => simp [Exit.failed]

/-- What the words that ask for a generation do: they settle the options and generate. -/
theorem run_of_request {words : List String}
    (requested : Request.read words = .ok (.generate arguments)) (tree : FileTree) :
    (run (m := StateM FileTree) words).run tree =
      match arguments.runOptions with
      | .error fault => (.failed [] (.plain fault.message), tree)
      | .ok options =>
        match (generate (m := StateM FileTree) arguments options).run tree with
        | (ending, after) => (ending.exit, after) := by
  rw [run, requested]
  dsimp only
  cases arguments.runOptions <;> rfl

/-- How a generation ends: before it runs, without having changed anything; with a run that comes to
no report; or with a report, after writing it if that was asked for. -/
inductive GenerateArguments.Ends (arguments : GenerateArguments) (tree : FileTree) :
    Exit → FileTree → Prop
  | unopened {exit : Exit} :
      (∀ options bytes manifest, ¬arguments.Opens tree options bytes manifest) →
      exit.status ≠ 0 → Ends arguments tree exit tree
  | stopped {options : Options} {bytes : List UInt8} {manifest : Manifest} {failure : Failure}
      {exit : Exit} {after : FileTree} : arguments.Opens tree options bytes manifest →
      (arguments.stage options manifest).run tree = (.error failure, after) →
      exit.status ≠ 0 → Ends arguments tree exit after
  | reported {options : Options} {bytes : List UInt8} {manifest : Manifest} {report : Report}
      {result : Except Failure Unit} {exit : Exit} {middle after : FileTree} :
      arguments.Opens tree options bytes manifest →
      arguments.Runs options manifest tree report middle →
      (writeReportIfAsked (m := StateM FileTree) arguments.report?
        (report.withSource (Sha256.digest bytes))).run middle = (result, after) →
      (exit.status = 0 ↔ result = .ok () ∧ report.isOk = true) → Ends arguments tree exit after

/-- **How a generation ends** is told by its stages. -/
theorem ends_of_run {words : List String}
    (requested : Request.read words = .ok (.generate arguments)) (tree : FileTree) :
    arguments.Ends tree ((run (m := StateM FileTree) words).run tree).1
      ((run (m := StateM FileTree) words).run tree).2 := by
  rw [run_of_request requested]
  cases settled : arguments.runOptions with
  | error fault =>
      refine .unopened ?_ Nat.one_ne_zero
      intro options _ _ opens
      simp [opens.settled] at settled
  | ok options =>
      dsimp only
      cases read : tree.readBytes arguments.input with
      | error fault =>
          rw [run_generate_of_unread read]
          refine .unopened ?_ Nat.one_ne_zero
          intro _ bytes _ opens
          simp [opens.read] at read
      | ok bytes =>
          rw [run_generate_of_read read]
          cases accepted : Manifest.read bytes with
          | error fault =>
              refine .unopened ?_ Nat.one_ne_zero
              intro _ other manifest opens
              obtain rfl := Except.ok.inj (read.symm.trans opens.read)
              simp [opens.accepted] at accepted
          | ok manifest =>
              have opens : arguments.Opens tree options bytes manifest := ⟨settled, read, accepted⟩
              dsimp only
              rcases ran : (arguments.stage options manifest).run tree with
                ⟨failure | report, middle⟩
              · exact .stopped opens ran Nat.one_ne_zero
              · dsimp only
                rcases wrote : (writeReportIfAsked (m := StateM FileTree) arguments.report?
                    (report.withSource (Sha256.digest bytes))).run middle with
                  ⟨failure | done, after⟩
                · refine .reported opens (run_stage_iff.mp ran) wrote (iff_of_false ?_ nofun)
                  exact Nat.one_ne_zero
                · refine .reported opens (run_stage_iff.mp ran) wrote ?_
                  have kept : (report.withSource (Sha256.digest bytes)).isOk = report.isOk := rfl
                  rw [Ending.status_exit, Ending.ofReport, kept]
                  exact ⟨fun fine => ⟨rfl, by simpa using fine⟩, fun fine => if_pos fine.2⟩

/-- Once the run has come to its report, only the report file is left to be written. -/
theorem GenerateArguments.Ends.of_runs (ends : arguments.Ends tree exit after)
    (opens : arguments.Opens tree options bytes manifest)
    (runs : arguments.Runs options manifest tree report middle) :
    ∃ result, (writeReportIfAsked (m := StateM FileTree) arguments.report?
        (report.withSource (Sha256.digest bytes))).run middle = (result, after) ∧
      (exit.status = 0 ↔ result = .ok () ∧ report.isOk = true) := by
  cases ends with
  | unopened closed _ => exact absurd opens (closed _ _ _)
  | stopped other stopped _ =>
      obtain ⟨rfl, rfl, rfl⟩ := opens.unique other
      rw [run_stage_iff.mpr runs] at stopped
      cases stopped
  | reported other ran wrote status =>
      obtain ⟨rfl, rfl, rfl⟩ := opens.unique other
      obtain ⟨rfl, rfl⟩ := runs.unique ran
      exact ⟨_, wrote, status⟩

/-- A generation whose run comes to no report does not look at the report that is asked for. -/
theorem run_generate_report?_eq {other : GenerateArguments} {report? : Option Path}
    (alike : other = { arguments with report? := report? })
    (settled : arguments.runOptions = .ok options)
    (unreached : ¬∃ options bytes manifest report middle,
      arguments.Opens tree options bytes manifest ∧
      arguments.Runs options manifest tree report middle) :
    (generate (m := StateM FileTree) other options).run tree =
      (generate (m := StateM FileTree) arguments options).run tree := by
  have input : other.input = arguments.input := by rw [alike]
  have stage : other.stage = arguments.stage := by rw [alike]
  cases read : tree.readBytes arguments.input with
  | error fault =>
      have otherRead := read
      rw [← input] at otherRead
      rw [run_generate_of_unread otherRead, run_generate_of_unread read, input]
  | ok bytes =>
      have otherRead := read
      rw [← input] at otherRead
      rw [run_generate_of_read otherRead, run_generate_of_read read, input]
      cases accepted : Manifest.read bytes with
      | error fault => rfl
      | ok manifest =>
          dsimp only
          rw [stage]
          rcases ran : (arguments.stage options manifest).run tree with ⟨failure | report, middle⟩
          · rfl
          · exact absurd ⟨options, bytes, manifest, report, middle, ⟨settled, read, accepted⟩,
              run_stage_iff.mp ran⟩ unreached

/-- Words that differ in their report only do the same if the run comes to no report. -/
theorem run_report?_eq {words otherWords : List String} {report? : Option Path}
    (requested : Request.read words = .ok (.generate arguments))
    (other : Request.read otherWords = .ok (.generate { arguments with report? := report? }))
    (unreached : ¬∃ options bytes manifest report middle,
      arguments.Opens tree options bytes manifest ∧
      arguments.Runs options manifest tree report middle) :
    (run (m := StateM FileTree) otherWords).run tree =
      (run (m := StateM FileTree) words).run tree := by
  have alike : { arguments with report? := report? }.runOptions = arguments.runOptions := rfl
  rw [run_of_request requested, run_of_request other, alike]
  cases settled : arguments.runOptions with
  | error fault => rfl
  | ok options =>
      dsimp only
      rw [run_generate_report?_eq rfl settled unreached]

/-- **Effects and exit status of a generation.** For every tree and all words that ask for a
generation:

* if the options cannot be settled, or the manifest cannot be read or is not accepted, nothing
  changes, and the exit status is not 0;
* a check without a report file changes nothing;
* with settled options, nothing changes but the output file, unless it is a check, and the report
  file, if one is asked for, and the directories that were missing above these;
* if the run comes to its report, and in a check the comparison succeeds, this report is written
  with the digest of the manifest, if it is asked for, and changes its own file only; who reads the
  file finds the functions and the diagnostics of the run in it, and the SHA-256 digest of the bytes
  that were read at the start;
* if not, all is as if no report, or another one, was asked for;
* the exit status is 0 exactly if the run comes to its report, the report is written, if it is asked
  for, and every marker is emitted. -/
theorem effects_of_generate {words : List String}
    (requested : Request.read words = .ok (.generate arguments))
    (ran : (run (m := StateM FileTree) words).run tree = (exit, after)) :
    ((∀ options bytes manifest, ¬arguments.Opens tree options bytes manifest) →
      after = tree ∧ exit.status ≠ 0) ∧
    (arguments.check = true → arguments.report? = none → after = tree) ∧
    (∀ options, arguments.runOptions = .ok options →
      tree.Writes (arguments.outputs options ++ arguments.report?.toList) after) ∧
    (∀ options bytes manifest report middle, arguments.Opens tree options bytes manifest →
      arguments.Runs options manifest tree report middle →
      report.Accounts (manifest.markerOutcomes options.eraseGenerics) ∧
      Sha256.Digests bytes (Sha256.digest bytes) ∧
      (arguments.report? = none → after = middle) ∧
      ∀ path, arguments.report? = some path → ∃ result,
        (writeReport (m := StateM FileTree) path
          { report with sourceDigest? := some (Sha256.digest bytes) }).run middle =
            (result, after) ∧
        middle.Writes [path] after ∧
        (result = .ok () →
          after.Holds path { report with sourceDigest? := some (Sha256.digest bytes) }.fileText ∧
          ∃ held, after.readBytes path = .ok held ∧ Report.read? held =
            some { report with sourceDigest? := some (Sha256.digest bytes) })) ∧
    ((¬∃ options bytes manifest report middle, arguments.Opens tree options bytes manifest ∧
        arguments.Runs options manifest tree report middle) →
      ∀ otherWords report?,
        Request.read otherWords = .ok (.generate { arguments with report? := report? }) →
        (run (m := StateM FileTree) otherWords).run tree = (exit, after)) ∧
    (exit.status = 0 ↔ ∃ options bytes manifest report middle,
      arguments.Opens tree options bytes manifest ∧
      arguments.Runs options manifest tree report middle ∧
      (∀ path, arguments.report? = some path →
        ((writeReport (m := StateM FileTree) path
          { report with sourceDigest? := some (Sha256.digest bytes) }).run middle).1 = .ok ()) ∧
      ∀ outcome ∈ manifest.markerOutcomes options.eraseGenerics,
        ∃ function, outcome = .emitted function) := by
  have ends : arguments.Ends tree exit after := by
    have told := ends_of_run requested tree
    rwa [ran] at told
  refine ⟨?unopened, ?check, ?frame, ?reported, ?unreached, ?status⟩
  case unopened =>
    intro closed
    cases ends with
    | unopened _ failed => exact ⟨rfl, failed⟩
    | stopped opens _ _ => exact absurd opens (closed _ _ _)
    | reported opens _ _ _ => exact absurd opens (closed _ _ _)
  case check =>
    intro check noReport
    cases ends with
    | unopened _ _ => rfl
    | stopped opens stopped _ => exact (writes_of_stage opens.settled stopped).1 check
    | reported opens runs wrote _ =>
        rw [noReport] at wrote
        cases wrote
        exact (writes_of_stage opens.settled (run_stage_iff.mpr runs)).1 check
  case frame =>
    intro options settled
    cases ends with
    | unopened _ _ => exact .refl tree _
    | stopped opens stopped _ =>
        obtain rfl := Except.ok.inj (settled.symm.trans opens.settled)
        exact (writes_of_stage settled stopped).2.mono (List.subset_append_left _ _)
    | reported opens runs wrote _ =>
        obtain rfl := Except.ok.inj (settled.symm.trans opens.settled)
        have first := (writes_of_stage settled (run_stage_iff.mpr runs)).2
        have second := writes_of_writeReportIfAsked wrote
        exact (first.mono (List.subset_append_left _ _)).trans
          (second.mono (List.subset_append_right _ _))
  case reported =>
    intro options bytes manifest report middle opens runs
    obtain ⟨result, wrote, -⟩ := ends.of_runs opens runs
    have accounts : report.Accounts (manifest.markerOutcomes options.eraseGenerics) := by
      rw [runs.eq_report]
      exact manifest.report_accounts options
    refine ⟨accounts, Sha256.digests_digest bytes, ?_, ?_⟩
    · intro noReport
      rw [noReport] at wrote
      cases wrote
      rfl
    · intro path asked
      rw [asked] at wrote
      exact ⟨result, wrote, writes_of_writeReport wrote⟩
  case unreached =>
    intro unreached otherWords report? other
    rw [run_report?_eq requested other unreached, ran]
  case status =>
    constructor
    · intro zero
      cases ends with
      | unopened _ failed => exact absurd zero failed
      | stopped _ _ failed => exact absurd zero failed
      | @reported options bytes manifest report _ _ middle _ opens runs wrote status =>
          obtain ⟨rfl, fine⟩ := status.mp zero
          refine ⟨options, bytes, manifest, report, middle, opens, runs, ?_, runs.isOk_iff.mp fine⟩
          intro path asked
          rw [asked] at wrote
          exact congrArg Prod.fst wrote
    · rintro ⟨options, bytes, manifest, report, middle, opens, runs, written, emitted⟩
      obtain ⟨result, wrote, status⟩ := ends.of_runs opens runs
      refine status.mpr ⟨?_, runs.isOk_iff.mpr emitted⟩
      cases asked : arguments.report? with
      | none =>
          rw [asked] at wrote
          cases wrote
          rfl
      | some path =>
          rw [asked] at wrote
          rw [← written path asked]
          exact (congrArg Prod.fst wrote).symm

/-- Words that ask for functions and for a report. -/
def sampleWords : List String :=
  ["generate", "--in", "rows.json", "--out", ".", "--report", "logs/run.json"]

/-- A manifest with two markers: one leads to a record, and one to nothing. -/
def sampleRows : List UInt8 :=
  List.flatMap Utf8.encode
    ["\x7b\"schema_version\":\"modelmap.declarations@0.1.0\",\"declarations\":[",
      "\x7b\"qualified_name\":\"a.Row\",\"kind\":\"class\",\"modifiers\":[\"data\"],",
      "\"mappers\":[\x7b\"target\":\"a.View\"\x7d,\x7b\"target\":\"a.Lost\"\x7d]\x7d,",
      "\x7b\"qualified_name\":\"a.View\",\"kind\":\"class\",\"modifiers\":[\"data\"]\x7d]\x7d"]

/-- A tree with the manifest `sampleRows` and nothing else. -/
def sampleProject : FileTree where
  entries := [(["work"], .directory), (["work", "rows.json"], .file sampleRows)]
  workingDirectory := ["work"]
  limits? := none

/-- The report on the markers of `sampleRows`. -/
def sampleReport : Report where
  sourceDigest? := some "9eba9c66491dc81eabef1576b3ea54bd56f55a0b28fe0a655109725727b79516"
  output? := some
    { package := "ron"
      fileName := "GeneratedMapperFunctions"
      path := "ron/GeneratedMapperFunctions.kt" }
  functions := [{ origin := "a.Row", target := "a.View", name := "mapToView" }]
  diagnostics :=
    [{ code := .unknownDeclaration
       phase := .resolve
       severity := .error
       subject := "a.Lost"
       message := "declaration a.Lost not found"
       help? := some "Include the target declaration in the manifest passed to modelmap." }]

/-- In the sample project one marker is emitted and one is skipped. The report is written all the
same and says so, nothing but the two files and the directories above them changes, and the exit
status is not 0. -/
theorem effects_of_generate_sample :
    ∃ (exit : Exit) (after : FileTree) (held : List UInt8),
      (run (m := StateM FileTree) sampleWords).run sampleProject = (exit, after) ∧
      exit.status ≠ 0 ∧
      sampleProject.Writes [Options.default.outputBelow ⟨"."⟩, ⟨"logs/run.json"⟩] after ∧
      after.Holds ⟨"logs/run.json"⟩ sampleReport.fileText ∧
      after.readBytes ⟨"logs/run.json"⟩ = .ok held ∧ Report.read? held = some sampleReport := by
  have requested : Request.read sampleWords = .ok (.generate
      { sampleArguments with report? := some ⟨"logs/run.json"⟩ }) := by rfl
  have ready : (Manifest.read sampleRows).toOption.map (fun manifest =>
      let ran := (manifest.run .default
        (Sink.directory (m := StateM FileTree) ⟨"."⟩)).run sampleProject
      (ran.1.toBool, (manifest.report .default).withSource (Sha256.digest sampleRows),
        ((writeReport (m := StateM FileTree) ⟨"logs/run.json"⟩ sampleReport).run
          ran.2).1.toBool)) = some (true, sampleReport, true) := by
    decide +kernel
  rcases done : (run (m := StateM FileTree) sampleWords).run sampleProject with ⟨exit, after⟩
  obtain ⟨-, -, frame, reported, -, status⟩ := effects_of_generate requested done
  cases accepted : Manifest.read sampleRows with
  | error fault => simp [accepted, Except.toOption] at ready
  | ok manifest =>
      simp only [accepted, Except.toOption, Option.map_some, Option.some.injEq,
        Prod.mk.injEq] at ready
      obtain ⟨success, told, written⟩ := ready
      rcases ran : (manifest.run .default
          (Sink.directory (m := StateM FileTree) ⟨"."⟩)).run sampleProject with ⟨_ | report, middle⟩
      · simp [ran, Except.toBool] at success
      · have opens : { sampleArguments with report? := some ⟨"logs/run.json"⟩ }.Opens sampleProject
            .default sampleRows manifest := ⟨rfl, rfl, accepted⟩
        have runs := @GenerateArguments.Runs.writes
          { sampleArguments with report? := some ⟨"logs/run.json"⟩ } .default manifest sampleProject
          report middle rfl ran
        obtain rfl := runs.eq_report
        obtain ⟨-, -, -, asked⟩ := reported .default _ manifest _ middle opens runs
        obtain ⟨result, wrote, -, complete⟩ := asked ⟨"logs/run.json"⟩ rfl
        rw [Report.withSource] at told
        rw [told] at wrote complete
        have finished : result = .ok () := by
          rw [ran, wrote] at written
          cases result with
          | error failure => cases written
          | ok found => rfl
        obtain ⟨holds, held, read, readBack⟩ := complete finished
        refine ⟨exit, after, held, rfl, ?failed, frame .default rfl, holds, read, readBack⟩
        intro zero
        obtain ⟨_, _, _, _, _, other, ranOther, -, emitted⟩ := status.mp zero
        obtain ⟨rfl, rfl, rfl⟩ := opens.unique other
        obtain ⟨rfl, rfl⟩ := runs.unique ranOther
        have fine : sampleReport.isOk = true := by
          rw [← told]
          exact runs.isOk_iff.mpr emitted
        cases fine

end CommandLine

end RecordMapper
