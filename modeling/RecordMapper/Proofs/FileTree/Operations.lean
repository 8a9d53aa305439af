import RecordMapper.Proofs.FileTree.Walking

/-!
# What file operations do

Each operation on a tree succeeds exactly if its path leads to a location with a fitting entry, and
then changes that location only.
-/

namespace RecordMapper.FileTree

variable {tree after : FileTree} {path : Path} {location : Location}

/-- An entry is found exactly if the path leads to it; a file is not found by a path with a slash at
its end. -/
theorem find_eq_ok_iff {entry : Entry} :
    tree.find path = .ok (location, entry) ↔
      tree.locate path = .ok location ∧ tree.entryAt? location = some entry ∧
        (entry = .directory ∨ endsInSlash path = false) := by
  rw [find, bind_eq_ok_iff]
  constructor
  · intro steps
    obtain ⟨place, located, success⟩ := steps
    cases held : tree.entryAt? place with
    | none => simp [held] at success
    | some found =>
        cases found with
        | directory =>
            simp only [held, Except.ok.injEq, Prod.mk.injEq] at success
            obtain ⟨rfl, rfl⟩ := success
            exact ⟨located, held, .inl rfl⟩
        | file bytes =>
            by_cases slash : endsInSlash path = true
            · simp [held, slash] at success
            · simp only [held, slash, Bool.false_eq_true, ↓reduceIte, Except.ok.injEq,
                Prod.mk.injEq] at success
              obtain ⟨rfl, rfl⟩ := success
              exact ⟨located, held, .inr (by simpa using slash)⟩
  · intro found
    obtain ⟨located, held, fits⟩ := found
    refine ⟨location, located, ?_⟩
    cases entry with
    | directory => rw [held]
    | file bytes =>
        have noSlash : endsInSlash path = false := by simpa using fits
        simp [held, noSlash]

theorem readBytes_eq_ok_iff {bytes : List UInt8} :
    tree.readBytes path = .ok bytes ↔
      ∃ location, tree.locate path = .ok location ∧ tree.entryAt? location = some (.file bytes) ∧
        endsInSlash path = false := by
  rw [readBytes, bind_eq_ok_iff]
  constructor
  · intro steps
    obtain ⟨⟨location, entry⟩, found, success⟩ := steps
    cases entry with
    | directory => cases success
    | file held =>
        obtain rfl : held = bytes := Except.ok.inj success
        obtain ⟨located, present, fits⟩ := find_eq_ok_iff.mp found
        exact ⟨location, located, present, by simpa using fits⟩
  · intro found
    obtain ⟨location, located, present, noSlash⟩ := found
    exact ⟨(location, .file bytes), find_eq_ok_iff.mpr ⟨located, present, .inr noSlash⟩, rfl⟩

theorem isDirectory_iff :
    tree.isDirectory path = true ↔
      ∃ location, tree.locate path = .ok location ∧ tree.entryAt? location = some .directory := by
  have found (place : Location) : tree.find path = .ok (place, .directory) ↔
      tree.locate path = .ok place ∧ tree.entryAt? place = some .directory := by
    simp [find_eq_ok_iff]
  simp only [← found]
  unfold isDirectory
  cases tree.find path with
  | error fault => simp
  | ok pair =>
      obtain ⟨place, entry⟩ := pair
      cases entry <;> simp

/-- Without a slash at the end, something is present where a path leads to an entry. -/
theorem isPresent_iff (noSlash : endsInSlash path = false) :
    tree.isPresent path = true ↔
      ∃ location entry, tree.locate path = .ok location ∧ tree.entryAt? location = some entry := by
  have found (place : Location) (entry : Entry) : tree.find path = .ok (place, entry) ↔
      tree.locate path = .ok place ∧ tree.entryAt? place = some entry := by
    simp [find_eq_ok_iff, noSlash]
  simp only [← found]
  unfold isPresent
  cases tree.find path with
  | error fault => simp [Except.toBool]
  | ok pair => exact iff_of_true rfl ⟨pair.1, pair.2, rfl⟩

/-- A directory is made where nothing is, by a path that ends in a name. -/
theorem makeDirectory_eq_ok_iff :
    tree.makeDirectory path = .ok after ↔
      endsInName path = true ∧ ∃ location, tree.locate path = .ok location ∧
        tree.entryAt? location = none ∧ tree.put location .directory = after := by
  rw [makeDirectory, bind_eq_ok_iff]
  constructor
  · intro steps
    obtain ⟨location, located, success⟩ := steps
    by_cases fits : (endsInName path && (tree.entryAt? location).isNone) = true
    · rw [if_pos fits] at success
      rw [Bool.and_eq_true, Option.isNone_iff_eq_none] at fits
      exact ⟨fits.1, location, located, fits.2, Except.ok.inj success⟩
    · rw [if_neg fits] at success
      cases success
  · intro found
    obtain ⟨name, location, located, free, same⟩ := found
    refine ⟨location, located, ?_⟩
    rw [if_pos (by simp [name, free]), same]

/-- A file is made or emptied where no directory is, by a path that ends in a name. -/
theorem createFile_eq_ok_iff :
    tree.createFile path = .ok after ↔
      endsInSlash path = false ∧ endsInName path = true ∧
        ∃ location, tree.locate path = .ok location ∧ tree.entryAt? location ≠ some .directory ∧
          tree.put location (.file []) = after := by
  unfold createFile
  by_cases slash : endsInSlash path = true
  · simp [slash, bind_eq_ok_iff]
  · rw [if_neg slash, bind_eq_ok_iff]
    constructor
    · intro steps
      obtain ⟨location, located, success⟩ := steps
      by_cases blocked : (!endsInName path || tree.entryAt? location = some .directory) = true
      · rw [if_pos blocked] at success
        cases success
      · rw [if_neg blocked] at success
        rw [Bool.or_eq_true, not_or, decide_eq_true_eq] at blocked
        exact ⟨by simpa using slash, by simpa using blocked.1, location, located, blocked.2,
          Except.ok.inj success⟩
    · intro found
      obtain ⟨-, name, location, located, free, same⟩ := found
      refine ⟨location, located, ?_⟩
      rw [if_neg (by simp [name, free]), same]

theorem appendBytes_eq_ok_iff {added : List UInt8} :
    tree.appendBytes path added = .ok after ↔
      ∃ location bytes, tree.locate path = .ok location ∧
        tree.entryAt? location = some (.file bytes) ∧ endsInSlash path = false ∧
        tree.put location (.file (bytes ++ added)) = after := by
  rw [appendBytes, bind_eq_ok_iff]
  constructor
  · intro steps
    obtain ⟨⟨location, entry⟩, found, success⟩ := steps
    cases entry with
    | directory => cases success
    | file bytes =>
        obtain ⟨located, present, fits⟩ := find_eq_ok_iff.mp found
        exact ⟨location, bytes, located, present, by simpa using fits, Except.ok.inj success⟩
  · intro found
    obtain ⟨location, bytes, located, present, noSlash, rfl⟩ := found
    exact ⟨(location, .file bytes), find_eq_ok_iff.mpr ⟨located, present, .inr noSlash⟩, rfl⟩

end RecordMapper.FileTree
