import RecordMapper.CommandLine
import RecordMapper.Proofs.Sink.Directory
import RecordMapper.Proofs.Sink.Memory

/-!
# Generations on a file tree

What the two ways to run do on a tree. A run that writes is a run into a directory
(`run_writeRun`). A run that checks changes nothing, and it succeeds exactly if the file holds the
text of the run (`run_checkRun_eq_ok_iff`) or, without candidates, if there is nothing
(`run_checkRun_unmarked`).
-/

namespace RecordMapper

open RecordMapper.Text

/-! ## Reading texts -/

namespace FileTree

variable {tree : FileTree} {path : Path}

/-- The text of the file at a path. -/
def readText (tree : FileTree) (path : Path) : Except FileFault String := do
  match Utf8.decode? (← tree.readBytes path) with
  | some characters => .ok (String.ofList characters)
  | none => .error .notText

theorem run_readText (path : Path) (tree : FileTree) :
    (FileAccess.readText (m := StateM FileTree) path).run tree = (tree.readText path, tree) := by
  have read : (FileAccess.readBytes (m := StateM FileTree) path).run tree =
      (tree.readBytes path, tree) := rfl
  unfold FileAccess.readText readText
  rw [run_bind_eq read]
  cases tree.readBytes path with
  | error fault => rfl
  | ok bytes =>
      dsimp only [bind, Except.bind]
      cases Utf8.decode? bytes <;> rfl

/-- A text is read exactly from its encoding. -/
theorem readText_eq_ok_iff {text : String} :
    tree.readText path = .ok text ↔ tree.readBytes path = .ok (Utf8.encode text) := by
  rw [readText, bind_eq_ok_iff]
  constructor
  · intro steps
    obtain ⟨bytes, read, success⟩ := steps
    cases decoded : Utf8.decode? bytes with
    | none => simp [decoded] at success
    | some characters =>
        simp only [decoded, Except.ok.injEq] at success
        rw [read, ← success, Utf8.encode_of_decode? decoded]
  · intro read
    refine ⟨_, read, ?_⟩
    rw [Utf8.decode?_encode]
    dsimp only
    rw [String.ofList_toList]

theorem holds_iff_readText {text : String} (noSlash : endsInSlash path = false) :
    tree.Holds path text ↔ tree.readText path = .ok text := by
  rw [readText_eq_ok_iff, readBytes_eq_ok_iff]
  constructor
  · intro found
    obtain ⟨location, holds⟩ := found
    exact ⟨location, holds.located, holds.held, noSlash⟩
  · intro found
    obtain ⟨location, located, held, -⟩ := found
    exact ⟨location, located, held⟩

end FileTree

namespace CommandLine

open FileTree

variable {manifest : Manifest} {options : Options} {root : Path} {tree after : FileTree}

/-! ## The two ways to run -/

/-- A run that writes is a run into a directory. -/
theorem run_writeRun (manifest : Manifest) (options : Options) (root : Path) (tree : FileTree) :
    (writeRun (m := StateM FileTree) manifest options root).run tree =
      match (manifest.run options (Sink.directory (m := StateM FileTree) root)).run tree with
      | (.error fault, after) => (.error (RunFault.failure fault), after)
      | (.ok report, after) => (.ok report, after) := by
  rw [writeRun, StateT.run_bind]
  rcases (manifest.run options (Sink.directory (m := StateM FileTree) root)).run tree with
    ⟨fault | report, after⟩
  · rfl
  · rfl

/-- What comparing a path with what was generated finds. -/
def compared (tree : FileTree) (path : Path) (generated? : Option String) : Except Failure Unit :=
  match generated? with
  | none =>
    if tree.isPresent path then
      .error (.plain ("stale generated output (no mappers remain): " ++ path.text))
    else .ok ()
  | some generated =>
    match tree.readText path with
    | .error fault => .error (.ofFault "read existing output" path fault)
    | .ok current =>
      if current = generated then .ok ()
      else .error (.plain ("generated output differs: " ++ path.text))

theorem run_compareOutput (path : Path) (generated? : Option String) (tree : FileTree) :
    (compareOutput (m := StateM FileTree) path generated?).run tree =
      (compared tree path generated?, tree) := by
  cases generated? with
  | none =>
      change StateT.run (if tree.isPresent path then
        (return .error (.plain _) : StateM FileTree (Except Failure Unit))
        else return .ok ()) tree = _
      unfold compared
      by_cases present : tree.isPresent path = true
      · rw [if_pos present, if_pos present]
        rfl
      · rw [if_neg present, if_neg present]
        rfl
  | some generated =>
      rw [compareOutput, StateT.run_bind, run_readText, compared]
      cases tree.readText path with
      | error fault => rfl
      | ok current =>
          change StateT.run (if current = generated then
            (return .ok () : StateM FileTree (Except Failure Unit))
            else return .error (.plain _)) tree = _
          dsimp only
          by_cases same : current = generated
          · rw [if_pos same, if_pos same]
            rfl
          · rw [if_neg same, if_neg same]
            rfl

theorem compared_some_eq_ok_iff {path : Path} {generated : String} :
    compared tree path (some generated) = .ok () ↔ tree.readText path = .ok generated := by
  unfold compared
  cases tree.readText path with
  | error fault => simp
  | ok current =>
      by_cases same : current = generated
      · simp [same]
      · simp [same]

/-- A run that checks compares what a run in memory generated with what is there. -/
theorem run_checkRun {report : Report} {store : MemoryStore}
    (ran : (manifest.run options Sink.memory).run .empty = (.ok report, store)) (root : Path)
    (tree : FileTree) :
    (checkRun (m := StateM FileTree) manifest options root).run tree =
      ((compared tree (options.outputBelow root) (store.text? options.package options.fileName)).map
        fun _ => report, tree) := by
  rw [checkRun, ran]
  change StateT.run (compareOutput _ _ >>= _) tree = _
  rw [run_bind_eq (run_compareOutput _ _ tree)]
  cases compared tree (options.outputBelow root) (store.text? options.package options.fileName) <;>
    rfl

/-- **A check succeeds exactly if the file holds the text of the run.** It changes nothing. -/
theorem run_checkRun_eq_ok_iff (marked : manifest.candidates ≠ []) {report : Report} :
    (checkRun (m := StateM FileTree) manifest options root).run tree = (.ok report, after) ↔
      tree.Holds (options.outputBelow root) (manifest.fileText options) ∧
        report = manifest.report options ∧ after = tree := by
  have noSlash := endsInSlash_outputPathBelow root options.package options.fileName
  have text := Manifest.text?_run_memory marked options
  rw [Manifest.run_memory marked options] at text
  rw [run_checkRun (Manifest.run_memory marked options), text, holds_iff_readText noSlash,
    ← compared_some_eq_ok_iff, Prod.mk.injEq]
  cases compared tree (options.outputBelow root) (some (manifest.fileText options)) with
  | error failure => simp [Except.map]
  | ok done => simp [Except.map, eq_comm]

/-- **Without candidates a check succeeds exactly if the path leads to nothing.** -/
theorem run_checkRun_unmarked (unmarked : manifest.candidates = []) {report : Report} :
    (checkRun (m := StateM FileTree) manifest options root).run tree = (.ok report, after) ↔
      (∀ location, tree.locate (options.outputBelow root) = .ok location →
        tree.entryAt? location = none) ∧ report = .empty ∧ after = tree := by
  have noSlash := endsInSlash_outputPathBelow root options.package options.fileName
  have ran : (manifest.run options Sink.memory).run .empty = (.ok .empty, .empty) := by
    rw [manifest.run_unmarked options .memory unmarked]
    rfl
  have absent : (∀ location, tree.locate (options.outputBelow root) = .ok location →
      tree.entryAt? location = none) ↔ ¬tree.isPresent (options.outputBelow root) = true := by
    rw [isPresent_iff noSlash]
    constructor
    · rintro vacant ⟨location, entry, located, held⟩
      rw [vacant location located] at held
      cases held
    · intro absent location located
      cases held : tree.entryAt? location with
      | none => rfl
      | some entry => exact absurd ⟨location, entry, located, held⟩ absent
  have nothing : MemoryStore.empty.text? options.package options.fileName = none := rfl
  rw [run_checkRun ran, nothing, absent, compared, Prod.mk.injEq]
  by_cases present : tree.isPresent (options.outputBelow root) = true
  · rw [if_pos present]
    simp [Except.map, present]
  · rw [if_neg present]
    simp [Except.map, present, eq_comm]

/-! ## Generations -/

variable {arguments : GenerateArguments} {bytes : List UInt8}

/-- The run of a generation, which comes to a report or fails. -/
abbrev GenerateArguments.stage (arguments : GenerateArguments) (options : Options)
    (manifest : Manifest) : StateM FileTree (Except Failure Report) :=
  (if arguments.check then checkRun else writeRun) manifest options arguments.out

/-- A generation whose manifest cannot be read changes nothing. -/
theorem run_generate_of_unread {fault : FileFault}
    (unread : tree.readBytes arguments.input = .error fault) (options : Options) :
    (generate (m := StateM FileTree) arguments options).run tree =
      (⟨[], some (.ofFault "read manifest" arguments.input fault)⟩, tree) := by
  have readRun : (FileAccess.readBytes (m := StateM FileTree) arguments.input).run tree =
      (.error fault, tree) := by
    change (tree.readBytes arguments.input, tree) = _
    rw [unread]
  rw [generate, run_bind_eq readRun]
  rfl

/-- A generation whose manifest is read goes on with what was read. -/
theorem run_generate_of_read (read : tree.readBytes arguments.input = .ok bytes)
    (options : Options) :
    (generate (m := StateM FileTree) arguments options).run tree =
      match Manifest.read bytes with
      | .error fault => (⟨[fault.diagnostic arguments.input.text],
          some (.plain ("parse manifest JSON: " ++ arguments.input.text))⟩, tree)
      | .ok manifest =>
        match (arguments.stage options manifest).run tree with
        | (.error failure, after) => (⟨[], some failure⟩, after)
        | (.ok report, middle) =>
          match (writeReportIfAsked (m := StateM FileTree) arguments.report?
              (report.withSource (Sha256.digest bytes))).run middle with
          | (.error failure, after) => (⟨[], some failure⟩, after)
          | (.ok (), after) => (.ofReport (report.withSource (Sha256.digest bytes)), after) := by
  have readRun : (FileAccess.readBytes (m := StateM FileTree) arguments.input).run tree =
      (.ok bytes, tree) := by
    change (tree.readBytes arguments.input, tree) = _
    rw [read]
  rw [generate, run_bind_eq readRun]
  dsimp only
  cases Manifest.read bytes with
  | error fault => rfl
  | ok manifest =>
      dsimp only
      rw [StateT.run_bind]
      rcases (arguments.stage options manifest).run tree with ⟨failure | report, middle⟩
      · rfl
      · change StateT.run (writeReportIfAsked _ _ >>= _) middle = _
        rw [StateT.run_bind]
        dsimp only
        rcases (writeReportIfAsked (m := StateM FileTree) arguments.report?
          (report.withSource (Sha256.digest bytes))).run middle with ⟨failure | done, after⟩
        · rfl
        · rfl

/-- A generation without a report file, of a manifest that is accepted. -/
theorem run_generate (read : tree.readBytes arguments.input = .ok bytes)
    (accepted : Manifest.read bytes = .ok manifest) (noReport : arguments.report? = none)
    (options : Options) :
    (generate (m := StateM FileTree) arguments options).run tree =
      match (arguments.stage options manifest).run tree with
      | (.error failure, after) => (⟨[], some failure⟩, after)
      | (.ok report, after) => (.ofReport (report.withSource (Sha256.digest bytes)), after) := by
  rw [run_generate_of_read read, accepted, noReport]
  dsimp only
  rcases (arguments.stage options manifest).run tree with ⟨failure | report, after⟩
  · rfl
  · rfl

/-- A generation that writes ends with the report of its run. -/
theorem run_generate_write {report : Report}
    (read : tree.readBytes arguments.input = .ok bytes)
    (accepted : Manifest.read bytes = .ok manifest) (noReport : arguments.report? = none)
    (ran : (manifest.run options (Sink.directory (m := StateM FileTree) arguments.out)).run tree =
      (.ok report, after)) :
    (generate (m := StateM FileTree) { arguments with check := false } options).run tree =
      (.ofReport (report.withSource (Sha256.digest bytes)), after) := by
  rw [@run_generate _ _ { arguments with check := false } _ read accepted noReport]
  change (match (writeRun (m := StateM FileTree) manifest options arguments.out).run tree with
    | (.error failure, after) => (_, after)
    | (.ok report, after) => (_, after)) = _
  rw [run_writeRun, ran]

theorem run_generate_check {report : Report}
    (read : tree.readBytes arguments.input = .ok bytes)
    (accepted : Manifest.read bytes = .ok manifest) (noReport : arguments.report? = none)
    (checked : (checkRun (m := StateM FileTree) manifest options arguments.out).run tree =
      (.ok report, after)) :
    (generate (m := StateM FileTree) { arguments with check := true } options).run tree =
      (.ofReport (report.withSource (Sha256.digest bytes)), after) := by
  rw [@run_generate _ _ { arguments with check := true } _ read accepted noReport]
  change (match (checkRun (m := StateM FileTree) manifest options arguments.out).run tree with
    | (.error failure, after) => (_, after)
    | (.ok report, after) => (_, after)) = _
  rw [checked]

end CommandLine

end RecordMapper
