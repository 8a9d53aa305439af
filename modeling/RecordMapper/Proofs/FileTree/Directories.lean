import RecordMapper.Proofs.FileTree.Operations

/-!
# Making directories

Making the directories above a path adds directories on its way and changes nothing else, whether or
not it succeeds (`FileTree.gainsDirectories_makeParents`). If the path already leads somewhere,
there is nothing to make (`FileTree.run_makeParents`).
-/

namespace RecordMapper.FileTree

variable {tree : FileTree} {path : Path}

/-! ## Operations in the state -/

theorem run_change (operation : FileTree → Except FileFault FileTree) (tree : FileTree) :
    (change operation).run tree =
      match operation tree with
      | .error fault => (.error fault, tree)
      | .ok after => (.ok (), after) := by
  change (match operation tree with
    | .error fault => (return .error fault : StateM FileTree (Except FileFault Unit))
    | .ok after => (do set after; return .ok ())).run tree = _
  cases operation tree <;> rfl

theorem run_makeDirectory (path : Path) (tree : FileTree) :
    (FileAccess.makeDirectory (m := StateM FileTree) path).run tree =
      match tree.makeDirectory path with
      | .error fault => (.error fault, tree)
      | .ok after => (.ok (), after) :=
  run_change _ tree

/-- The run of making a directory and, if need be, its ancestors. -/
theorem run_makeDirectoriesFrom_cons (path : Path) (ancestors : List Path) (tree : FileTree) :
    (FileAccess.makeDirectoriesFrom (m := StateM FileTree) (path :: ancestors)).run tree =
      match tree.makeDirectory path with
      | .ok after => (.ok (), after)
      | .error .notFound =>
        match (FileAccess.makeDirectoriesFrom (m := StateM FileTree) ancestors).run tree with
        | (.error fault, middle) => (.error fault, middle)
        | (.ok (), middle) =>
          match middle.makeDirectory path with
          | .ok after => (.ok (), after)
          | .error fault => (if middle.isDirectory path then .ok () else .error fault, middle)
      | .error fault => (if tree.isDirectory path then .ok () else .error fault, tree) := by
  rw [FileAccess.makeDirectoriesFrom, StateT.run_bind, run_makeDirectory]
  cases tree.makeDirectory path with
  | ok after => rfl
  | error fault =>
      cases fault with
      | notFound =>
          change StateT.run (FileAccess.makeDirectoriesFrom ancestors >>= _) tree = _
          rw [StateT.run_bind]
          rcases (FileAccess.makeDirectoriesFrom (m := StateM FileTree) ancestors).run tree with
            ⟨fault | done, middle⟩
          · rfl
          · change StateT.run (FileAccess.makeDirectory path >>= _) middle = _
            rw [StateT.run_bind, run_makeDirectory]
            dsimp only
            cases middle.makeDirectory path <;> rfl
      | _ => rfl

/-! ## Gaining directories -/

/-- A tree that has what another one has, and otherwise only directories at allowed locations. -/
structure GainsDirectories (allowed : Location → Prop) (before after : FileTree) : Prop where
  workingDirectory : after.workingDirectory = before.workingDirectory
  limits : after.limits? = before.limits?
  kept : ∀ location entry, before.entryAt? location = some entry →
    after.entryAt? location = some entry
  gained : ∀ location, before.entryAt? location = none →
    after.entryAt? location = none ∨ allowed location ∧ after.entryAt? location = some .directory

namespace GainsDirectories

variable {allowed : Location → Prop} {before middle after : FileTree}

theorem refl (allowed : Location → Prop) (tree : FileTree) : GainsDirectories allowed tree tree :=
  ⟨rfl, rfl, fun _ _ held => held, fun _ absent => .inl absent⟩

theorem trans (first : GainsDirectories allowed before middle)
    (second : GainsDirectories allowed middle after) : GainsDirectories allowed before after := by
  refine ⟨second.workingDirectory.trans first.workingDirectory, second.limits.trans first.limits,
    fun location entry held => second.kept location entry (first.kept location entry held), ?_⟩
  intro location absent
  rcases first.gained location absent with still | ⟨here, directory⟩
  · exact second.gained location still
  · exact .inr ⟨here, second.kept location _ directory⟩

/-- A tree with more directories keeps those of the other. -/
theorem keepsDirectories (gains : GainsDirectories allowed before after) :
    KeepsDirectories before after :=
  ⟨gains.workingDirectory, gains.limits, fun location => gains.kept location .directory⟩

/-- One directory is gained where nothing was. -/
theorem put {location : Location} (here : allowed location)
    (free : before.entryAt? location = none) :
    GainsDirectories allowed before (before.put location .directory) := by
  have noDirectory : before.entryAt? location ≠ some .directory := by simp [free]
  have deep := ne_nil_of_entryAt? noDirectory
  refine ⟨rfl, rfl, ?_, ?_⟩
  · intro other entry held
    have apart : other ≠ location := by
      intro same
      subst same
      simp [free] at held
    rw [entryAt?_put deep, if_neg apart, held]
  · intro other absent
    rw [entryAt?_put deep]
    by_cases same : other = location
    · subst same
      exact .inr ⟨here, if_pos rfl⟩
    · rw [if_neg same]
      exact .inl absent

end GainsDirectories

theorem gainsDirectories_makeDirectory {allowed : Location → Prop} {after : FileTree}
    (here : allowed (tree.destination path)) (made : tree.makeDirectory path = .ok after) :
    GainsDirectories allowed tree after := by
  obtain ⟨-, location, located, free, rfl⟩ := makeDirectory_eq_ok_iff.mp made
  rw [← eq_destination located] at here
  exact .put here free

/-- **Making directories gains them**, as many as could be made. -/
theorem gainsDirectories_makeDirectoriesFrom {allowed : Location → Prop} {paths : List Path}
    (here : ∀ path ∈ paths, allowed (tree.destination path)) :
    GainsDirectories allowed tree
      ((FileAccess.makeDirectoriesFrom (m := StateM FileTree) paths).run tree).2 := by
  induction paths generalizing tree with
  | nil => exact .refl allowed tree
  | cons path ancestors ih =>
      have above := @ih tree fun ancestor member => here ancestor (List.mem_cons_of_mem _ member)
      rw [run_makeDirectoriesFrom_cons]
      split
      · next made => exact gainsDirectories_makeDirectory (here path List.mem_cons_self) made
      -- The parent was missing: the ancestors are made, and then the path is tried again.
      · revert above
        rcases (FileAccess.makeDirectoriesFrom (m := StateM FileTree) ancestors).run tree with
          ⟨fault | done, middle⟩
        · exact id
        · intro above
          dsimp only at above ⊢
          split
          · next made =>
              refine above.trans (gainsDirectories_makeDirectory ?_ made)
              rw [above.keepsDirectories.destination]
              exact here path List.mem_cons_self
          · exact above
      · exact .refl allowed tree

/-! ## The directories above a path -/

/-- A location that the path comes past before it takes its last step. -/
def LiesAbove (tree : FileTree) (path : Path) (location : Location) : Prop :=
  ∃ upper more, more ≠ [] ∧ upper.InitialPart path more ∧ location = tree.destination upper

/-- **Making the directories above a path** gains directories above it and changes nothing else. -/
theorem gainsDirectories_makeParents (path : Path) (tree : FileTree) :
    GainsDirectories (tree.LiesAbove path) tree
      ((FileAccess.makeParents (m := StateM FileTree) path).run tree).2 := by
  unfold FileAccess.makeParents
  cases found : path.parent? with
  | none => exact .refl _ tree
  | some parent =>
      rcases Path.initialPart_of_parent? found with rfl | ⟨-, more, goesOn, part⟩
      · exact .refl _ tree
      · apply gainsDirectories_makeDirectoriesFrom
        intro upper member
        obtain ⟨further, above⟩ := Path.initialPart_of_mem_prefixes (List.mem_reverse.mp member)
        exact ⟨upper, further ++ more, by simp [goesOn], above.trans part, rfl⟩

/-- What a path that leads through comes past is a directory. -/
theorem isDirectory_initialPart {upper lower : Path} {more : List String} {location : Location}
    (part : upper.InitialPart lower more) (text : upper.text ≠ "") (further : more ≠ [])
    (located : tree.locate lower = .ok location) : tree.isDirectory upper = true := by
  obtain ⟨place, found, goesOn⟩ := locate_initialPart part text located
  obtain ⟨step, rest, rfl⟩ := List.exists_cons_of_ne_nil further
  rw [List.foldlM_cons, bind_eq_ok_iff] at goesOn
  obtain ⟨next, taken, -⟩ := goesOn
  exact isDirectory_iff.mpr ⟨place, found, (descend_eq_ok_iff.mp taken).1⟩

/-- Making a directory that is there changes nothing. -/
theorem run_makeDirectoriesFrom_of_isDirectory (directory : tree.isDirectory path = true)
    (ancestors : List Path) :
    (FileAccess.makeDirectoriesFrom (m := StateM FileTree) (path :: ancestors)).run tree =
      (.ok (), tree) := by
  have refused : tree.makeDirectory path = .error .alreadyExists := by
    -- Whether the path ends in a name or not, an entry that is there is in the way.
    obtain ⟨location, located, held⟩ := isDirectory_iff.mp directory
    simp [makeDirectory, located, held, bind, Except.bind]
  rw [run_makeDirectoriesFrom_cons, refused]
  simp only [directory, ↓reduceIte]

/-- **Above a path that leads through there is nothing to make.** -/
theorem run_makeParents {location : Location} (located : tree.locate path = .ok location) :
    (FileAccess.makeParents (m := StateM FileTree) path).run tree = (.ok (), tree) := by
  unfold FileAccess.makeParents
  cases found : path.parent? with
  | none => rfl
  | some parent =>
      rcases Path.initialPart_of_parent? found with rfl | ⟨-, more, goesOn, part⟩
      · rfl
      · change (FileAccess.makeDirectoriesFrom (m := StateM FileTree) parent.prefixes.reverse).run
          tree = _
        cases prefixes : parent.prefixes.reverse with
        | nil => rfl
        | cons upper ancestors =>
            have member : upper ∈ parent.prefixes := by
              rw [← List.mem_reverse, prefixes]
              exact List.mem_cons_self
            obtain ⟨further, above⟩ := Path.initialPart_of_mem_prefixes member
            refine run_makeDirectoriesFrom_of_isDirectory ?_ ancestors
            exact isDirectory_initialPart (above.trans part) (Path.ne_empty_of_mem_prefixes member)
              (by simp [goesOn]) located

end RecordMapper.FileTree
