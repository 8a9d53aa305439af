import RecordMapper.Proofs.Steps
import RecordMapper.Proofs.Path.Prefixes

/-!
# Following paths in file trees

A path leads to one location, its destination, whether or not the tree lets it through
(`FileTree.eq_destination`). What a path needs on its way are directories, so it still leads there
in a tree that has the same directories and more (`FileTree.KeepsDirectories.locate`). Where a path
leads through, each initial part of it leads through too (`FileTree.locate_initialPart`).
-/

namespace RecordMapper.FileTree

/-! ## Entries -/

variable {tree : FileTree} {location other : Location} {entry : Entry}

theorem lookup_cons (held : Location × Entry) (rest : List (Location × Entry)) :
    (held :: rest).lookup location =
      if location = held.1 then some held.2 else rest.lookup location := by
  obtain ⟨place, found⟩ := held
  by_cases here : location = place
  · simp [here]
  · have apart : (location == place) = false := beq_false_of_ne here
    simp only [List.lookup_cons, apart, here, ↓reduceIte]

/-- Looking up a location in a list of entries after an entry was put there. -/
theorem lookup_putIn (entries : List (Location × Entry)) :
    (putIn location entry entries).lookup other =
      if other = location then some entry else entries.lookup other := by
  induction entries with
  | nil => rw [putIn, lookup_cons]
  | cons held rest ih =>
      obtain ⟨place, found⟩ := held
      unfold putIn
      by_cases here : place = location
      · subst here
        rw [if_pos rfl, lookup_cons, lookup_cons]
        by_cases same : other = place <;> simp [same]
      · rw [if_neg here, lookup_cons, lookup_cons, ih]
        by_cases same : other = place
        · simp [same, here]
        · simp [same]

/-- Putting an entry changes that location and no other. -/
theorem entryAt?_put (deep : location ≠ []) :
    (tree.put location entry).entryAt? other =
      if other = location then some entry else tree.entryAt? other := by
  rw [entryAt?, entryAt?, put, lookup_putIn]
  by_cases root : other = []
  · simp [root, Ne.symm deep]
  · simp [root]

/-- Putting an entry in the place of another leaves nothing of the other. -/
theorem put_put (first second : Entry) :
    (tree.put location first).put location second = tree.put location second := by
  have entries (entries : List (Location × Entry)) :
      putIn location second (putIn location first entries) = putIn location second entries := by
    induction entries with
    | nil => simp [putIn]
    | cons held rest ih =>
        obtain ⟨place, found⟩ := held
        by_cases here : place = location
        · simp [putIn, here]
        · simp [putIn, here, ih]
  rw [put, put, put]
  simp only [entries]

/-- Putting the entry that is there changes nothing. -/
theorem put_eq_self (deep : location ≠ []) (held : tree.entryAt? location = some entry) :
    tree.put location entry = tree := by
  have entries {entries : List (Location × Entry)} (held : entries.lookup location = some entry) :
      putIn location entry entries = entries := by
    induction entries with
    | nil => simp at held
    | cons first rest ih =>
        obtain ⟨place, found⟩ := first
        rw [lookup_cons] at held
        by_cases here : place = location
        · subst here
          obtain rfl : found = entry := by simpa using held
          simp [putIn]
        · rw [if_neg (Ne.symm here)] at held
          simp [putIn, here, ih held]
  rw [entryAt?, if_neg deep] at held
  rw [put, entries held]

/-- Something that is no directory does not lie at the root. -/
theorem ne_nil_of_entryAt? (noDirectory : tree.entryAt? location ≠ some .directory) :
    location ≠ [] := by
  intro same
  subst same
  exact noDirectory (by rw [entryAt?, if_pos rfl])

/-! ## Following -/

/-- The location that a path leads to if every step of it can be taken. -/
def destination (tree : FileTree) (path : Path) : Location :=
  (steps path).foldl advance (tree.startOf path)

/-- A step is taken from a directory to the next location, unless its name is too long. -/
theorem descend_eq_ok_iff {step : String} :
    tree.descend location step = .ok other ↔
      tree.entryAt? location = some .directory ∧ (isName step && tree.nameTooLong step) = false ∧
        other = advance location step := by
  unfold descend
  cases tree.entryAt? location with
  | none => simp
  | some entry =>
      cases entry with
      | file bytes => simp
      | directory =>
          by_cases long : (isName step && tree.nameTooLong step) = true
          · simp [long]
          · simp [long, eq_comm]

theorem eq_foldl_of_foldlM_descend {steps : List String}
    (success : steps.foldlM tree.descend location = .ok other) :
    other = steps.foldl advance location := by
  induction steps generalizing location with
  | nil => exact (Except.ok.inj success).symm
  | cons step rest ih =>
      rw [List.foldlM_cons, bind_eq_ok_iff] at success
      obtain ⟨next, first, success⟩ := success
      obtain ⟨-, -, rfl⟩ := descend_eq_ok_iff.mp first
      exact ih success

/-- A path is followed to a location exactly if it has no fault and its steps can be taken. -/
theorem locate_eq_ok_iff {path : Path} :
    tree.locate path = .ok location ↔ tree.pathFault? path = none ∧
      (steps path).foldlM tree.descend (tree.startOf path) = .ok location := by
  rw [locate, follow]
  cases tree.pathFault? path <;> simp

/-- **A path leads to its destination**, or nowhere. -/
theorem eq_destination {path : Path} (located : tree.locate path = .ok location) :
    location = tree.destination path :=
  eq_foldl_of_foldlM_descend (locate_eq_ok_iff.mp located).2

/-! ## More directories -/

/-- A tree in which all directories of another one are still there. -/
structure KeepsDirectories (before after : FileTree) : Prop where
  workingDirectory : after.workingDirectory = before.workingDirectory
  limits : after.limits? = before.limits?
  directories : ∀ location, before.entryAt? location = some .directory →
    after.entryAt? location = some .directory

namespace KeepsDirectories

variable {before after : FileTree} {path : Path}

theorem startOf (keeps : KeepsDirectories before after) (path : Path) :
    after.startOf path = before.startOf path := by
  rw [FileTree.startOf, FileTree.startOf, keeps.workingDirectory]

theorem destination (keeps : KeepsDirectories before after) (path : Path) :
    after.destination path = before.destination path := by
  rw [FileTree.destination, FileTree.destination, keeps.startOf]

theorem pathFault? (keeps : KeepsDirectories before after) (path : Path) :
    after.pathFault? path = before.pathFault? path := by
  rw [FileTree.pathFault?, FileTree.pathFault?, pathTooLong, pathTooLong, keeps.limits]

theorem foldlM_descend (keeps : KeepsDirectories before after) {steps : List String}
    {location other : Location} (success : steps.foldlM before.descend location = .ok other) :
    steps.foldlM after.descend location = .ok other := by
  induction steps generalizing location with
  | nil => exact success
  | cons step rest ih =>
      rw [List.foldlM_cons, bind_eq_ok_iff] at success ⊢
      obtain ⟨next, first, success⟩ := success
      obtain ⟨directory, short, same⟩ := descend_eq_ok_iff.mp first
      refine ⟨next, descend_eq_ok_iff.mpr ⟨keeps.directories location directory, ?_, same⟩,
        ih success⟩
      rw [nameTooLong, keeps.limits]
      exact short

/-- **A path still leads where it led.** -/
theorem locate (keeps : KeepsDirectories before after) {location : Location}
    (located : before.locate path = .ok location) : after.locate path = .ok location := by
  obtain ⟨fine, success⟩ := locate_eq_ok_iff.mp located
  refine locate_eq_ok_iff.mpr ⟨?_, ?_⟩
  · rw [keeps.pathFault?, fine]
  · rw [keeps.startOf]
    exact keeps.foldlM_descend success

end KeepsDirectories

theorem keepsDirectories_put (free : tree.entryAt? location ≠ some .directory) :
    KeepsDirectories tree (tree.put location entry) := by
  refine ⟨rfl, rfl, ?_⟩
  intro other directory
  have apart : other ≠ location := by
    intro same
    subst same
    exact free directory
  rw [entryAt?_put (ne_nil_of_entryAt? free), if_neg apart, directory]

/-! ## Initial parts -/

/-- The first part of a path without faults has no faults. -/
theorem pathFault?_initialPart {upper lower : Path} {more : List String}
    (part : upper.InitialPart lower more) (nonempty : upper.text ≠ "")
    (fine : tree.pathFault? lower = none) : tree.pathFault? upper = none := by
  obtain ⟨rest, text⟩ := part.text
  have size : upper.text.utf8ByteSize ≤ lower.text.utf8ByteSize := by
    rw [text, String.utf8ByteSize_append]
    exact Nat.le_add_right _ _
  rw [pathFault?] at fine ⊢
  split at fine
  · cases fine
  · next noNul =>
      split at fine
      · cases fine
      · split at fine
        · cases fine
        · next short =>
            have upperNoNul : ¬upper.text.toList.contains '\x00' = true := by
              rw [text, String.toList_append] at noNul
              simp only [List.contains_eq_mem, List.mem_append, decide_eq_true_eq] at noNul ⊢
              exact fun member => noNul (.inl member)
            have upperShort : ¬tree.pathTooLong upper = true := by
              rw [pathTooLong] at short ⊢
              cases limits : tree.limits? with
              | none => simp
              | some limits =>
                  simp only [limits, Option.any_some, decide_eq_true_eq] at short ⊢
                  omega
            rw [if_neg upperNoNul, if_neg (by simpa using nonempty), if_neg upperShort]

/-- **Where a path leads through, its initial parts lead through.** -/
theorem locate_initialPart {upper lower : Path} {more : List String}
    (part : upper.InitialPart lower more) (nonempty : upper.text ≠ "")
    (located : tree.locate lower = .ok location) :
    ∃ place, tree.locate upper = .ok place ∧ more.foldlM tree.descend place = .ok location := by
  obtain ⟨fine, success⟩ := locate_eq_ok_iff.mp located
  have start : tree.startOf upper = tree.startOf lower := by
    rw [startOf, startOf, part.isAbsolute]
  rw [part.steps, List.foldlM_append, ← start, bind_eq_ok_iff] at success
  obtain ⟨place, first, success⟩ := success
  exact ⟨place, locate_eq_ok_iff.mpr ⟨pathFault?_initialPart part nonempty fine, first⟩, success⟩

end RecordMapper.FileTree
