import RecordMapper.Proofs.FileTree.Below
import RecordMapper.Proofs.Options.Reachable
import RecordMapper.Proofs.Outcome.Emitted
import RecordMapper.Proofs.Sink.Directory
import RecordMapper.Proofs.Sink.Memory

/-!
# Runs into a directory and into memory

A run into a directory does what a run into memory does, for every tree that it can meet. Either
both have the same report and the same text, and the tree gains the directories of the package and
the file, or something is in the way and the tree stays as it was
(`Manifest.run_directory_refines_memory`).
-/

namespace RecordMapper

open FileTree RecordMapper.Text

namespace FileTree

/-- Something of the wrong kind is where the output file belongs: a file in the place of a directory
of the package, or a directory in the place of the file. -/
def Blocks (tree : FileTree) (base : Location) (options : Options) : Prop :=
  tree.Obstructed base (QualifiedName.segments options.package) ∨
    tree.entryAt? (base ++ outputNames options.package options.fileName) = some .directory

/-- A tree that has received an output file with this text below the directory at `base`: it has the
directories of the package and the file, and what else was there. -/
structure Receives (before after : FileTree) (base : Location) (options : Options)
    (text : String) : Prop where
  file : after.entryAt? (base ++ outputNames options.package options.fileName) =
    some (.file (Utf8.encode text))
  directories : ∀ front, front <+: QualifiedName.segments options.package →
    after.entryAt? (base ++ front) = some .directory
  kept : ∀ location, location ≠ base ++ outputNames options.package options.fileName →
    (∀ front, front <+: QualifiedName.segments options.package → location ≠ base ++ front) →
    after.entryAt? location = before.entryAt? location
  workingDirectory : after.workingDirectory = before.workingDirectory
  limits : after.limits? = before.limits?

/-- A tree is one whose entries all lie in directories. -/
theorem closed_of_entries {tree : FileTree}
    (above : ∀ entry ∈ tree.entries, tree.entryAt? entry.1.dropLast = some .directory) :
    tree.Closed := by
  intro location name held
  rw [entryAt?, if_neg (by simp)] at held
  obtain ⟨entry, found⟩ := Option.ne_none_iff_exists'.mp held
  obtain ⟨before, after, split, -⟩ := List.lookup_eq_some_iff.mp found
  have listed := above (location ++ [name], entry) (by simp [split])
  rwa [List.dropLast_concat] at listed

section

variable {tree : FileTree} {root : Path} {base : Location} {options : Options}
  (valid : options.Valid)
include valid

theorem outputBelow_eq (root : Path) :
    options.outputBelow root = root.below (outputNames options.package options.fileName) :=
  outputPathBelow_eq valid.package valid.fileName root

theorem plainName_of_mem_segments :
    ∀ name ∈ QualifiedName.segments options.package, PlainName name := fun name member =>
  plainName_of_mem_outputNames valid.package valid.fileName name (List.mem_append_left _ member)

/-- The directories above an output file are those of the package, below the root. -/
theorem makeParents_outputBelow (root : Path) :
    FileAccess.makeParents (m := StateM FileTree) (options.outputBelow root) =
      FileAccess.makeDirectories (root.below (QualifiedName.segments options.package)) := by
  have plain := plainName_of_mem_outputNames valid.package valid.fileName
  rw [FileAccess.makeParents, outputBelow_eq valid, outputNames,
    Path.parent?_below plain (QualifiedName.segments_ne_nil options.package)]

variable (closed : tree.Closed) (hosts : tree.Hosts root base)
include closed hosts

/-- **A blocked output file** cannot be created, and the attempt changes nothing. -/
theorem run_makeParents_of_blocks (blocked : tree.Blocks base options) :
    (∃ fault, (FileAccess.makeParents (m := StateM FileTree) (options.outputBelow root)).run tree =
      (.error fault, tree)) ∨
    (FileAccess.makeParents (m := StateM FileTree) (options.outputBelow root)).run tree =
        (.ok (), tree) ∧
      tree.createFile (options.outputBelow root) = .error .isADirectory := by
  have plain := plainName_of_mem_segments valid
  rw [makeParents_outputBelow valid]
  rcases blocked with obstructed | directory
  · exact .inl (run_makeDirectories_of_obstructed closed hosts plain obstructed)
  · -- Where a directory is in the place of the file, all directories above it are there.
    have above : tree.entryAt? (base ++ QualifiedName.segments options.package) =
        some .directory := by
      rw [outputNames, ← List.append_assoc] at directory
      exact closed _ _ (by rw [directory]; simp)
    have directories := closed.directories above
    have free : ¬tree.Obstructed base (QualifiedName.segments options.package) := by
      rintro ⟨front, bytes, part, file⟩
      rw [directories front part] at file
      cases file
    have noSlash := endsInSlash_outputPathBelow root options.package options.fileName
    have allPlain := plainName_of_mem_outputNames valid.package valid.fileName
    rw [outputPathBelow_eq valid.package valid.fileName] at noSlash
    rw [run_makeDirectories_of_free closed hosts plain (QualifiedName.segments_ne_nil _) free,
      putDirectories_eq_self plain directories, outputBelow_eq valid]
    refine .inr ⟨rfl, ?_⟩
    rw [outputNames] at directory allPlain noSlash ⊢
    rw [createFile_of_directories hosts allPlain directories noSlash, if_pos directory]

/-- **A free place for an output file** is found in the tree with the directories of the package. -/
theorem run_makeParents_of_free (free : ¬tree.Blocks base options) :
    ∃ middle, (FileAccess.makeParents (m := StateM FileTree) (options.outputBelow root)).run tree =
        (.ok (), middle) ∧
      middle.createFile (options.outputBelow root) = .ok (middle.put
        (base ++ outputNames options.package options.fileName) (.file [])) ∧
      middle.locate (options.outputBelow root) =
        .ok (base ++ outputNames options.package options.fileName) ∧
      ∀ text, tree.Receives (middle.put (base ++ outputNames options.package options.fileName)
        (.file (Utf8.encode text))) base options text := by
  have plain := plainName_of_mem_segments valid
  have allPlain := plainName_of_mem_outputNames valid.package valid.fileName
  have gains := gainsDirectories_makeParents (options.outputBelow root) tree
  have made := run_makeDirectories_of_free closed hosts plain (QualifiedName.segments_ne_nil _)
    (not_or.mp free).1
  rw [← makeParents_outputBelow valid] at made
  rw [made] at gains
  have directories := fun front => @entryAt?_putDirectories_front tree base _
    hosts.directory plain front
  have hostsThen := hosts.gains gains
  have apart : ∀ front, front <+: QualifiedName.segments options.package →
      base ++ outputNames options.package options.fileName ≠ base ++ front :=
    fun front => ne_append_concat
  have noDirectory := (not_or.mp free).2
  rw [← entryAt?_putDirectories_of_ne plain apart] at noDirectory
  have located : (tree.putDirectories base (QualifiedName.segments options.package)).locate
      (options.outputBelow root) =
        .ok (base ++ outputNames options.package options.fileName) := by
    rw [outputBelow_eq valid, outputNames, locate_below hostsThen.unlimited hostsThen.located
      allPlain, foldlM_descend_of_directories hostsThen.unlimited allPlain directories]
  have created : (tree.putDirectories base (QualifiedName.segments options.package)).createFile
      (options.outputBelow root) = .ok ((tree.putDirectories base
        (QualifiedName.segments options.package)).put
          (base ++ outputNames options.package options.fileName) (.file [])) :=
    createFile_eq_ok_iff.mpr ⟨endsInSlash_outputPathBelow root options.package options.fileName,
      endsInName_outputPathBelow valid.fileName root options.package, _, located, noDirectory, rfl⟩
  refine ⟨_, made, created, located, ?_⟩
  intro text
  have deep := ne_nil_of_entryAt? noDirectory
  refine ⟨?_, ?_, ?_, gains.workingDirectory, gains.limits⟩
  · rw [entryAt?_put deep, if_pos rfl]
  · intro front part
    rw [entryAt?_put deep, if_neg (apart front part).symm]
    exact directories front part
  · intro location noFile noPackage
    rw [entryAt?_put deep, if_neg noFile]
    exact entryAt?_putDirectories_of_ne plain noPackage

end

end FileTree

namespace Manifest

/-- **A run into a directory refines a run into memory.** Below an existing root directory of a tree
without length limits, and with any options that the setters lead to:

* without candidates both runs have an empty report and create nothing;
* if nothing blocks the output file, both have the same report; the file at its path has the text
  that the store has, whatever was there before, the directories of the package are there, and
  everything else is as it was;
* if something blocks the output file, the run into the directory ends for want of its file and
  leaves the tree as it was. -/
theorem run_directory_refines_memory {manifest : Manifest} {options : Options} {root : Path}
    {tree : FileTree} (reachable : options.Reachable) (closed : tree.Closed)
    (unlimited : tree.limits? = none) (existing : tree.isDirectory root = true) :
    (manifest.candidates = [] →
      (manifest.run options (Sink.directory (m := StateM FileTree) root)).run tree =
        (.ok .empty, tree) ∧
      (manifest.run options Sink.memory).run .empty = (.ok .empty, .empty)) ∧
    (manifest.candidates ≠ [] → ¬tree.Blocks (tree.destination root) options →
      ∃ report text store after,
        (manifest.run options Sink.memory).run .empty = (.ok report, store) ∧
        store.text? options.package options.fileName = some text ∧
        (manifest.run options (Sink.directory (m := StateM FileTree) root)).run tree =
          (.ok report, after) ∧
        after.readBytes (options.outputBelow root) = .ok (Utf8.encode text) ∧
        tree.Receives after (tree.destination root) options text) ∧
    (manifest.candidates ≠ [] → tree.Blocks (tree.destination root) options →
      ∃ cause, (manifest.run options (Sink.directory (m := StateM FileTree) root)).run tree =
        (.error ⟨.create, options.outputPath.text, cause⟩, tree)) := by
  have valid := reachable.valid
  obtain ⟨base, located, directory⟩ := isDirectory_iff.mp existing
  have hosts : tree.Hosts root base := ⟨unlimited, located, directory⟩
  rw [← eq_destination located]
  refine ⟨?unmarked, ?free, ?blocked⟩
  case unmarked =>
    intro unmarked
    refine ⟨run_directory_unmarked unmarked options root tree, ?_⟩
    rw [manifest.run_unmarked options .memory unmarked]
    rfl
  case free =>
    intro marked free
    obtain ⟨middle, made, created, followed, receives⟩ :=
      run_makeParents_of_free valid closed hosts free
    have stored := text?_run_memory marked options
    rw [run_memory marked options] at stored
    refine ⟨manifest.report options, manifest.fileText options, _, _,
      run_memory marked options, stored, ?_, ?_, receives _⟩
    · rw [run_directory marked valid.fileName, made]
      dsimp only
      rw [created, ← eq_destination followed]
    · obtain ⟨noSlash, -, location, found, noDirectory, -⟩ := createFile_eq_ok_iff.mp created
      obtain rfl := Except.ok.inj (found.symm.trans followed)
      have holds := holdsAt_put found noDirectory (Utf8.encode (manifest.fileText options))
      exact readBytes_eq_ok_iff.mpr ⟨_, holds.located, holds.held, noSlash⟩
  case blocked =>
    intro marked blocked
    rw [run_directory marked valid.fileName]
    rcases run_makeParents_of_blocks valid closed hosts blocked with ⟨fault, made⟩ | ⟨made, refused⟩
    · rw [made]
      exact ⟨fault, rfl⟩
    · rw [made]
      dsimp only
      rw [refused]
      exact ⟨.isADirectory, rfl⟩

/-- A tree with an output file from an earlier run and a file beside it. -/
def workTree : FileTree where
  entries := [(["work"], .directory), (["work", "out"], .directory),
    (["work", "out", "ron"], .directory),
    (["work", "out", "ron", "GeneratedMapperFunctions.kt"], .file (Utf8.encode "package old")),
    (["work", "out", "ron", "notes"], .file [0x2A])]
  workingDirectory := ["work"]
  limits? := none

/-- In the tree with an older output, a run into the directory replaces it with the text of the run
into memory and keeps the file beside it. -/
theorem run_directory_refines_memory_sample :
    ∃ report text store after,
      (sample.run .default Sink.memory).run .empty = (.ok report, store) ∧
      store.text? "ron" "GeneratedMapperFunctions" = some text ∧
      (sample.run .default (Sink.directory (m := StateM FileTree) ⟨"out"⟩)).run workTree =
        (.ok report, after) ∧
      after.readBytes ⟨"out/ron/GeneratedMapperFunctions.kt"⟩ = .ok (Utf8.encode text) ∧
      after.entryAt? ["work", "out", "ron", "notes"] = some (.file [0x2A]) := by
  have closed : workTree.Closed := closed_of_entries (by decide)
  have existing : workTree.isDirectory ⟨"out"⟩ = true := by decide
  have base : workTree.destination ⟨"out"⟩ = ["work", "out"] := by decide
  have fronts : ∀ front, front <+: QualifiedName.segments "ron" → front = [] ∨ front = ["ron"] := by
    have segments : QualifiedName.segments "ron" = ["ron"] := by decide
    intro front part
    rw [segments, List.prefix_cons_iff] at part
    rcases part with rfl | ⟨rest, rfl, last⟩
    · exact .inl rfl
    · exact .inr (by rw [List.prefix_nil.mp last])
  have free : ¬workTree.Blocks (workTree.destination ⟨"out"⟩) .default := by
    rw [base]
    rintro (⟨front, bytes, part, file⟩ | directory)
    · have there : workTree.entryAt? (["work", "out"] ++ front) = some .directory := by
        rcases fronts front part with rfl | rfl <;> decide
      rw [there] at file
      cases file
    · exact absurd directory (by decide)
  obtain ⟨-, run, -⟩ := @run_directory_refines_memory sample .default ⟨"out"⟩ workTree .default
    closed rfl existing
  obtain ⟨report, text, store, after, inMemory, stored, ran, read, receives⟩ :=
    run candidates_sample free
  refine ⟨report, text, store, after, inMemory, stored, ran, read, ?_⟩
  rw [receives.kept]
  · decide
  · rw [base]
    decide
  · rw [base]
    intro front part
    rcases fronts front part with rfl | rfl <;> decide

end Manifest

end RecordMapper
