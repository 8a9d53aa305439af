import RecordMapper.Proofs.FileTree.Directories

/-!
# Writing files only

The program changes a tree by making the directories above a path and writing the file that the path
leads to. `FileTree.Writes` says that nothing else has changed, for any number of such paths. It
holds along a sequence of changes (`FileTree.Writes.trans`), since a file never takes the place of a
directory.
-/

namespace RecordMapper.FileTree

variable {paths others : List Path} {path : Path} {before middle after : FileTree}

/-- A tree that differs from another one at most in files that some paths lead to, and in
directories above these paths that were missing. -/
structure Writes (before : FileTree) (paths : List Path) (after : FileTree) : Prop where
  workingDirectory : after.workingDirectory = before.workingDirectory
  limits : after.limits? = before.limits?
  entries : ∀ location, after.entryAt? location = before.entryAt? location ∨ ∃ path ∈ paths,
    (location = before.destination path ∧ before.entryAt? location ≠ some .directory ∧
      ∃ bytes, after.entryAt? location = some (.file bytes)) ∨
    (before.LiesAbove path location ∧ before.entryAt? location = none ∧
      after.entryAt? location = some .directory)

theorem KeepsDirectories.liesAbove_iff (keeps : KeepsDirectories before after)
    {location : Location} : after.LiesAbove path location ↔ before.LiesAbove path location := by
  simp only [LiesAbove, keeps.destination]

namespace Writes

protected theorem refl (tree : FileTree) (paths : List Path) : tree.Writes paths tree :=
  ⟨rfl, rfl, fun _ => .inl rfl⟩

theorem mono (writes : before.Writes paths after) (more : paths ⊆ others) :
    before.Writes others after := by
  refine ⟨writes.workingDirectory, writes.limits, fun location => ?_⟩
  exact (writes.entries location).imp_right fun ⟨path, listed, change⟩ =>
    ⟨path, more listed, change⟩

/-- No directory is lost. -/
theorem keepsDirectories (writes : before.Writes paths after) : KeepsDirectories before after := by
  refine ⟨writes.workingDirectory, writes.limits, ?_⟩
  intro location directory
  rcases writes.entries location with same | ⟨path, -, ⟨-, free, -⟩ | ⟨-, vacant, -⟩⟩
  · rw [same, directory]
  · exact absurd directory free
  · simp [vacant] at directory

/-- Changes after changes are changes. -/
theorem trans (first : before.Writes paths middle) (second : middle.Writes paths after) :
    before.Writes paths after := by
  have keeps := first.keepsDirectories
  refine ⟨second.workingDirectory.trans first.workingDirectory,
    second.limits.trans first.limits, fun location => ?_⟩
  -- The later change counts, unless there is none. It has found in the middle what was there
  -- before, or a file that the earlier change left.
  rcases second.entries location with same | ⟨path, listed, ⟨here, free, written⟩ | made⟩
  · rw [same]
    exact first.entries location
  · refine .inr ⟨path, listed, .inl ⟨?_, mt (keeps.directories location) free, written⟩⟩
    rw [here, keeps.destination]
  · obtain ⟨above, vacant, directory⟩ := made
    rcases first.entries location with same | ⟨_, -, ⟨-, -, _, file⟩ | ⟨-, -, there⟩⟩
    · exact .inr ⟨path, listed, .inr ⟨keeps.liesAbove_iff.mp above, same ▸ vacant, directory⟩⟩
    · simp [vacant] at file
    · simp [vacant] at there

/-- Gaining directories above a path is part of writing its file. -/
theorem of_gainsDirectories (gains : GainsDirectories (before.LiesAbove path) before after) :
    before.Writes [path] after := by
  refine ⟨gains.workingDirectory, gains.limits, fun location => ?_⟩
  cases held : before.entryAt? location with
  | some entry => exact .inl (gains.kept location entry held)
  | none =>
      rcases gains.gained location held with vacant | ⟨above, directory⟩
      · exact .inl vacant
      · exact .inr ⟨path, List.mem_singleton_self path, .inr ⟨above, rfl, directory⟩⟩

/-- A file is written where its path leads, unless there is a directory. -/
theorem put {location : Location} (located : before.locate path = .ok location)
    (free : before.entryAt? location ≠ some .directory) (bytes : List UInt8) :
    before.Writes [path] (before.put location (.file bytes)) := by
  refine ⟨rfl, rfl, fun other => ?_⟩
  rw [entryAt?_put (ne_nil_of_entryAt? free)]
  by_cases here : other = location
  · subst here
    refine .inr ⟨path, List.mem_singleton_self path, .inl ⟨eq_destination located, free, bytes, ?_⟩⟩
    rw [if_pos rfl]
  · rw [if_neg here]
    exact .inl rfl

end Writes

/-! ## Writing with the directories above -/

/-- Where a file is created below directories that were gained above it, its bytes may be put. -/
theorem writes_put_of_createFile {fresh : FileTree}
    (gains : GainsDirectories (before.LiesAbove path) before middle)
    (created : middle.createFile path = .ok fresh) (bytes : List UInt8) :
    before.Writes [path] (middle.put (middle.destination path) (.file bytes)) := by
  obtain ⟨-, -, location, located, free, -⟩ := createFile_eq_ok_iff.mp created
  rw [← eq_destination located]
  exact (Writes.of_gainsDirectories gains).trans (.put located free bytes)

end RecordMapper.FileTree
