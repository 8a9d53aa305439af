import RecordMapper.Proofs.FileTree.Directories
import RecordMapper.Proofs.Path.Output
import RecordMapper.Proofs.Run.Writing
import RecordMapper.Proofs.Text.Utf8

/-!
# Runs into a directory

A run that writes below a directory makes the directories above its file, then the file, and then
appends its chunks to it. Only the first two can fail (`Manifest.run_directory`), and a run that
succeeds leaves the whole text in the file (`FileTree.Holds`), whatever was there before
(`Manifest.holds_of_run_directory`). Where the text is already there, a run changes nothing
(`Manifest.run_directory_of_holds`).
-/

namespace RecordMapper

open RecordMapper.Text

namespace FileTree

variable {tree after : FileTree} {path : Path} {location : Location} {bytes : List UInt8}

theorem run_createFile (path : Path) (tree : FileTree) :
    (FileAccess.createFile (m := StateM FileTree) path).run tree =
      match tree.createFile path with
      | .error fault => (.error fault, tree)
      | .ok after => (.ok (), after) :=
  run_change _ tree

theorem run_appendBytes (path : Path) (added : List UInt8) (tree : FileTree) :
    (FileAccess.appendBytes (m := StateM FileTree) path added).run tree =
      match tree.appendBytes path added with
      | .error fault => (.error fault, tree)
      | .ok after => (.ok (), after) :=
  run_change _ tree

/-- There is a file with these bytes at the location that the path leads to. -/
structure HoldsAt (tree : FileTree) (path : Path) (location : Location) (bytes : List UInt8) :
    Prop where
  located : tree.locate path = .ok location
  held : tree.entryAt? location = some (.file bytes)

/-- The path leads to a file with this text. -/
def Holds (tree : FileTree) (path : Path) (text : String) : Prop :=
  ∃ location, tree.HoldsAt path location (Utf8.encode text)

theorem HoldsAt.deep (holds : tree.HoldsAt path location bytes) : location ≠ [] := by
  have free : tree.entryAt? location ≠ some .directory := by simp [holds.held]
  exact ne_nil_of_entryAt? free

/-- A file that is put where no directory is is found there by every path that leads there. -/
theorem holdsAt_put (located : tree.locate path = .ok location)
    (free : tree.entryAt? location ≠ some .directory) (bytes : List UInt8) :
    (tree.put location (.file bytes)).HoldsAt path location bytes := by
  refine ⟨(keepsDirectories_put free).locate located, ?_⟩
  rw [entryAt?_put (ne_nil_of_entryAt? free), if_pos rfl]

end FileTree

open FileTree

namespace Sink

/-- Chunks that are written to a file stand behind what it holds. -/
theorem run_writeAll_directory (root : Path) {path : Path} {tree : FileTree} {location : Location}
    {bytes : List UInt8} (noSlash : endsInSlash path = false)
    (holds : tree.HoldsAt path location bytes) (chunks : List String) :
    ((Sink.directory (m := StateM FileTree) root).writeAll path chunks).run tree =
      (.ok (), tree.put location (.file (bytes ++ chunks.flatMap Utf8.encode))) := by
  induction chunks generalizing tree bytes with
  | nil =>
      rw [List.flatMap_nil, List.append_nil, put_eq_self holds.deep holds.held]
      rfl
  | cons chunk rest ih =>
      have free : tree.entryAt? location ≠ some .directory := by simp [holds.held]
      have appended : tree.appendBytes path (Utf8.encode chunk) =
          .ok (tree.put location (.file (bytes ++ Utf8.encode chunk))) :=
        appendBytes_eq_ok_iff.mpr ⟨location, bytes, holds.located, holds.held, noSlash, rfl⟩
      have written := run_appendBytes path (Utf8.encode chunk) tree
      rw [appended] at written
      have others := ih (holdsAt_put holds.located free (bytes ++ Utf8.encode chunk))
      rw [put_put, List.append_assoc, ← List.flatMap_cons] at others
      change StateT.run (FileAccess.appendBytes path (Utf8.encode chunk) >>= _) tree = _
      rw [run_bind_eq written]
      exact others

/-- What is written into a fresh file and flushed. -/
theorem run_writeFile_directory (root : Path) {path : Path} {tree : FileTree} {location : Location}
    (noSlash : endsInSlash path = false) (holds : tree.HoldsAt path location [])
    (chunks : List String) :
    ((Sink.directory (m := StateM FileTree) root).writeFile path chunks).run tree =
      (.ok (), tree.put location (.file (Utf8.encode (String.join chunks)))) := by
  have written := run_writeAll_directory root noSlash holds chunks
  rw [List.nil_append, ← Utf8.encode_join] at written
  change StateT.run ((Sink.directory (m := StateM FileTree) root).writeAll path chunks >>= _)
    tree = _
  rw [run_bind_eq written]
  rfl

/-- A file is created once the directories above it are there. -/
theorem run_create_directory {root : Path} {package fileName : String}
    (valid : FileName.fault? fileName = none) (tree : FileTree) :
    ((Sink.directory (m := StateM FileTree) root).create package fileName).run tree =
      match (FileAccess.makeParents (m := StateM FileTree)
          (outputPathBelow root package fileName)).run tree with
      | (.error fault, middle) => (.error fault, middle)
      | (.ok (), middle) =>
        match middle.createFile (outputPathBelow root package fileName) with
        | .error fault => (.error fault, middle)
        | .ok after => (.ok (outputPathBelow root package fileName), after) := by
  simp only [Sink.directory, valid]
  rw [StateT.run_bind]
  rcases (FileAccess.makeParents (m := StateM FileTree)
    (outputPathBelow root package fileName)).run tree with ⟨fault | done, middle⟩
  · rfl
  · change StateT.run (FileAccess.createFile _ >>= _) middle = _
    rw [StateT.run_bind, run_createFile]
    dsimp only
    cases middle.createFile (outputPathBelow root package fileName) <;> rfl

end Sink

namespace Manifest

variable {manifest : Manifest} {options : Options} {root : Path} {tree after : FileTree}

/-- **A run into a directory** makes the directories above the output file and then the file. If
both succeed, the file has the whole text; if not, the run fails for that reason. -/
theorem run_directory (marked : manifest.candidates ≠ [])
    (valid : FileName.fault? options.fileName = none) (root : Path) (tree : FileTree) :
    (manifest.run options (Sink.directory (m := StateM FileTree) root)).run tree =
      match (FileAccess.makeParents (m := StateM FileTree) (options.outputBelow root)).run tree with
      | (.error cause, middle) => (.error ⟨.create, options.outputPath.text, cause⟩, middle)
      | (.ok (), middle) =>
        match middle.createFile (options.outputBelow root) with
        | .error cause => (.error ⟨.create, options.outputPath.text, cause⟩, middle)
        | .ok _ =>
          (.ok (manifest.report options),
            middle.put (middle.destination (options.outputBelow root))
              (.file (Utf8.encode (manifest.fileText options)))) := by
  rw [manifest.run_eq_deliver options _ marked, Sink.deliver, StateT.run_bind,
    Sink.run_create_directory valid]
  rcases (FileAccess.makeParents (m := StateM FileTree) (options.outputBelow root)).run tree with
    ⟨fault | done, middle⟩
  · rfl
  · dsimp only
    cases created : middle.createFile (options.outputBelow root) with
    | error fault => rfl
    | ok fresh =>
        obtain ⟨noSlash, -, location, located, free, rfl⟩ := createFile_eq_ok_iff.mp created
        have written := Sink.run_writeFile_directory root noSlash (holdsAt_put located free [])
          (manifest.chunks options)
        rw [put_put] at written
        rw [← eq_destination located]
        change StateT.run ((Sink.directory root).writeFile _ (manifest.chunks options) >>= _) _ = _
        rw [run_bind_eq written]
        rfl

/-- A run that succeeds has gained directories above its file, and then put its text where the path
of the file leads. -/
theorem exists_of_run_directory (marked : manifest.candidates ≠ [])
    (valid : FileName.fault? options.fileName = none) {report : Report}
    (ran : (manifest.run options (Sink.directory (m := StateM FileTree) root)).run tree =
      (.ok report, after)) :
    report = manifest.report options ∧ ∃ middle location,
      GainsDirectories (tree.LiesAbove (options.outputBelow root)) tree middle ∧
      middle.locate (options.outputBelow root) = .ok location ∧
      middle.entryAt? location ≠ some .directory ∧
      after = middle.put location (.file (Utf8.encode (manifest.fileText options))) := by
  have gains := gainsDirectories_makeParents (options.outputBelow root) tree
  rw [run_directory marked valid] at ran
  revert ran gains
  rcases (FileAccess.makeParents (m := StateM FileTree) (options.outputBelow root)).run tree with
    ⟨fault | done, middle⟩
  · intro ran
    cases ran
  · intro ran gains
    dsimp only at ran
    split at ran
    · cases ran
    · next fresh created =>
        cases ran
        obtain ⟨-, -, location, located, free, -⟩ := createFile_eq_ok_iff.mp created
        refine ⟨rfl, middle, location, gains, located, free, ?_⟩
        rw [eq_destination located]

/-- **A run that succeeds leaves its text in the file**, whatever was there before. -/
theorem holds_of_run_directory (marked : manifest.candidates ≠ [])
    (valid : FileName.fault? options.fileName = none) {report : Report}
    (ran : (manifest.run options (Sink.directory (m := StateM FileTree) root)).run tree =
      (.ok report, after)) :
    after.Holds (options.outputBelow root) (manifest.fileText options) := by
  obtain ⟨-, middle, location, -, located, free, rfl⟩ := exists_of_run_directory marked valid ran
  exact ⟨location, holdsAt_put located free _⟩

/-- **Where the text is already there, a run changes nothing.** -/
theorem run_directory_of_holds (marked : manifest.candidates ≠ [])
    (valid : FileName.fault? options.fileName = none)
    (holds : tree.Holds (options.outputBelow root) (manifest.fileText options)) :
    (manifest.run options (Sink.directory (m := StateM FileTree) root)).run tree =
      (.ok (manifest.report options), tree) := by
  obtain ⟨location, holds⟩ := holds
  have created : tree.createFile (options.outputBelow root) =
      .ok (tree.put location (.file [])) :=
    createFile_eq_ok_iff.mpr ⟨endsInSlash_outputPathBelow root options.package options.fileName,
      endsInName_outputPathBelow valid root options.package, location, holds.located,
      by simp [holds.held], rfl⟩
  rw [run_directory marked valid, run_makeParents holds.located]
  dsimp only
  rw [created, ← eq_destination holds.located]
  dsimp only
  rw [put_eq_self holds.deep holds.held]

/-- A run that succeeds leaves every file but its own as it was. -/
theorem readBytes_of_run_directory (marked : manifest.candidates ≠ [])
    (valid : FileName.fault? options.fileName = none) {path : Path} {bytes : List UInt8}
    {report : Report} (read : tree.readBytes path = .ok bytes)
    (apart : tree.destination path ≠ tree.destination (options.outputBelow root))
    (ran : (manifest.run options (Sink.directory (m := StateM FileTree) root)).run tree =
      (.ok report, after)) : after.readBytes path = .ok bytes := by
  obtain ⟨-, middle, location, gains, located, free, rfl⟩ :=
    exists_of_run_directory marked valid ran
  obtain ⟨place, found, held, noSlash⟩ := readBytes_eq_ok_iff.mp read
  have keeps := gains.keepsDirectories
  have other : place ≠ location := by
    rw [eq_destination found, eq_destination located, keeps.destination]
    exact apart
  refine readBytes_eq_ok_iff.mpr ⟨place, ?_, ?_, noSlash⟩
  · exact (keepsDirectories_put free).locate (keeps.locate found)
  · rw [entryAt?_put (ne_nil_of_entryAt? free), if_neg other]
    exact gains.kept place _ held

theorem run_directory_unmarked (unmarked : manifest.candidates = []) (options : Options)
    (root : Path) (tree : FileTree) :
    (manifest.run options (Sink.directory (m := StateM FileTree) root)).run tree =
      (.ok .empty, tree) := by
  rw [manifest.run_unmarked options _ unmarked]
  rfl

end Manifest

end RecordMapper
