import Mathlib.Data.List.Induction
import RecordMapper.Proofs.FileTree.Directories
import RecordMapper.Proofs.Path.Below

/-!
# Directories below a root

Names are followed from a root directory as far as they lead through directories. Making the
directories along the way either comes to a file and changes nothing
(`FileTree.run_makeDirectories_of_obstructed`), or puts every one that is missing
(`FileTree.run_makeDirectories_of_free`), because a tree has nothing below what is missing.
-/

namespace RecordMapper.FileTree

variable {tree : FileTree} {root : Path} {base : Location} {names : List String} {name : String}

/-! ## Trees -/

/-- Everything in the tree lies in a directory of the tree. -/
def Closed (tree : FileTree) : Prop :=
  ∀ location name, tree.entryAt? (location ++ [name]) ≠ none →
    tree.entryAt? location = some .directory

/-- Above an entry there are directories only. -/
theorem Closed.directory (closed : tree.Closed) {location : Location} {more : List String}
    (below : more ≠ []) (held : tree.entryAt? (location ++ more) ≠ none) :
    tree.entryAt? location = some .directory := by
  induction more generalizing location with
  | nil => exact absurd rfl below
  | cons name rest ih =>
      rw [List.append_cons] at held
      by_cases last : rest = []
      · subst last
        rw [List.append_nil] at held
        exact closed location name held
      · have next := ih last held
        exact closed location name (by simp [next])

/-- A tree without length limits in which the path `root` leads to the directory at `base`. -/
structure Hosts (tree : FileTree) (root : Path) (base : Location) : Prop where
  unlimited : tree.limits? = none
  located : tree.locate root = .ok base
  directory : tree.entryAt? base = some .directory

/-- A directory keeps its place when a tree gains others. -/
theorem Hosts.gains (hosts : tree.Hosts root base) {place : Location → Prop} {next : FileTree}
    (gains : GainsDirectories place tree next) : next.Hosts root base where
  unlimited := gains.limits.trans hosts.unlimited
  located := gains.keepsDirectories.locate hosts.located
  directory := gains.kept base _ hosts.directory

/-- There is a file on the way from a location along some names. -/
def Obstructed (tree : FileTree) (base : Location) (names : List String) : Prop :=
  ∃ front bytes, front <+: names ∧ tree.entryAt? (base ++ front) = some (.file bytes)

/-! ## Following names -/

theorem advance_plain (plain : PlainName name) (location : Location) :
    advance location name = location ++ [name] := by
  obtain ⟨noDot, noDots⟩ : name ≠ "." ∧ name ≠ ".." := by simpa [isName] using plain.isName
  rw [advance, if_neg noDot, if_neg noDots]

theorem foldl_advance (plain : ∀ name ∈ names, PlainName name) (location : Location) :
    names.foldl advance location = location ++ names := by
  induction names generalizing location with
  | nil => rw [List.foldl_nil, List.append_nil]
  | cons first rest ih =>
      rw [List.foldl_cons, advance_plain (plain first List.mem_cons_self),
        ih fun name member => plain name (List.mem_cons_of_mem _ member), List.append_assoc,
        List.singleton_append]

/-- A name is followed from a directory only. -/
theorem descend_plain (unlimited : tree.limits? = none) (plain : PlainName name)
    (location : Location) :
    tree.descend location name =
      match tree.entryAt? location with
      | none => .error .notFound
      | some (.file _) => .error .notADirectory
      | some .directory => .ok (location ++ [name]) := by
  have short : tree.nameTooLong name = false := by rw [nameTooLong, unlimited, Option.any_none]
  unfold descend
  cases tree.entryAt? location with
  | none => rfl
  | some entry =>
      cases entry with
      | file bytes => rfl
      | directory => simp [short, advance_plain plain]

/-- Names are followed all the way if only directories lie before the last of them. -/
theorem foldlM_descend_of_directories (unlimited : tree.limits? = none)
    (plain : ∀ other ∈ names ++ [name], PlainName other)
    (directories : ∀ front, front <+: names → tree.entryAt? (base ++ front) = some .directory) :
    (names ++ [name]).foldlM tree.descend base = .ok (base ++ (names ++ [name])) := by
  have here := directories [] List.nil_prefix
  rw [List.append_nil] at here
  induction names generalizing base with
  | nil =>
      have last : PlainName name := plain name (by simp)
      rw [List.nil_append, List.foldlM_cons, descend_plain unlimited last, here]
      rfl
  | cons first rest ih =>
      have fine : PlainName first := plain first (by simp)
      have next := directories [first] ⟨rest, rfl⟩
      rw [List.cons_append, List.foldlM_cons, descend_plain unlimited fine, here]
      change (rest ++ [name]).foldlM tree.descend (base ++ [first]) = _
      rw [ih (fun other member => plain other (List.mem_cons_of_mem _ member)) ?_ next,
        List.append_assoc, List.singleton_append]
      intro front part
      rw [List.append_assoc, List.singleton_append]
      exact directories (first :: front) (by simpa using part)

/-- Names are not followed from where the first of them is not. -/
theorem foldlM_descend_eq_error {fault : FileFault}
    (stops : ∀ first ∈ names ++ [name], tree.descend base first = .error fault) :
    (names ++ [name]).foldlM tree.descend base = .error fault := by
  cases names with
  | nil =>
      rw [List.nil_append, List.foldlM_cons, stops name (by simp)]
      rfl
  | cons first rest =>
      rw [List.cons_append, List.foldlM_cons, stops first (by simp)]
      rfl

/-- From a file no name is followed. -/
theorem foldlM_descend_of_file (unlimited : tree.limits? = none) {bytes : List UInt8}
    (plain : ∀ other ∈ names ++ [name], PlainName other)
    (file : tree.entryAt? base = some (.file bytes)) :
    (names ++ [name]).foldlM tree.descend base = .error .notADirectory := by
  apply foldlM_descend_eq_error
  intro first member
  rw [descend_plain unlimited (plain first member), file]

theorem foldlM_descend_of_missing (unlimited : tree.limits? = none)
    (plain : ∀ other ∈ names ++ [name], PlainName other) (missing : tree.entryAt? base = none) :
    (names ++ [name]).foldlM tree.descend base = .error .notFound := by
  apply foldlM_descend_eq_error
  intro first member
  rw [descend_plain unlimited (plain first member), missing]

/-- In a tree, a file on the way before the last name lets no name be followed past it. -/
theorem foldlM_descend_of_obstructed (closed : tree.Closed) (unlimited : tree.limits? = none)
    (plain : ∀ other ∈ names ++ [name], PlainName other) (obstructed : tree.Obstructed base names) :
    (names ++ [name]).foldlM tree.descend base = .error .notADirectory := by
  obtain ⟨front, bytes, ⟨rest, rfl⟩, file⟩ := obstructed
  induction front generalizing base with
  | nil =>
      rw [List.append_nil] at file
      exact foldlM_descend_of_file unlimited plain file
  | cons first front ih =>
      have above : tree.entryAt? base = some .directory :=
        closed.directory (List.cons_ne_nil first front) (by rw [file]; simp)
      rw [List.append_cons] at file
      rw [List.cons_append, List.cons_append, List.foldlM_cons,
        descend_plain unlimited (plain first (by simp)), above]
      exact ih file fun other member => plain other (List.mem_cons_of_mem _ member)

/-- Without a file on the way, names are followed until a directory is missing. -/
theorem foldlM_descend_of_free (unlimited : tree.limits? = none)
    (plain : ∀ other ∈ names ++ [name], PlainName other)
    (free : ¬tree.Obstructed base names) (missing : tree.entryAt? (base ++ names) = none) :
    (names ++ [name]).foldlM tree.descend base = .error .notFound := by
  induction names generalizing base with
  | nil =>
      rw [List.append_nil] at missing
      exact foldlM_descend_of_missing unlimited plain missing
  | cons first rest ih =>
      cases here : tree.entryAt? base with
      | none => exact foldlM_descend_of_missing unlimited plain here
      | some entry =>
          cases entry with
          | file bytes =>
              refine absurd ⟨[], bytes, List.nil_prefix, ?_⟩ free
              rw [List.append_nil, here]
          | directory =>
              rw [List.cons_append, List.foldlM_cons,
                descend_plain unlimited (plain first (by simp)), here]
              rw [List.append_cons] at missing
              refine ih (fun other member => plain other (List.mem_cons_of_mem _ member)) ?_ missing
              intro obstructed
              obtain ⟨front, bytes, part, file⟩ := obstructed
              rw [List.append_assoc, List.singleton_append] at file
              exact free ⟨first :: front, bytes, by simpa using part, file⟩

/-- A path below a root is followed from the root along its names. -/
theorem locate_below (unlimited : tree.limits? = none) (located : tree.locate root = .ok base)
    (plain : ∀ other ∈ names ++ [name], PlainName other) :
    tree.locate (root.below (names ++ [name])) = (names ++ [name]).foldlM tree.descend base := by
  obtain ⟨fine, followed⟩ := locate_eq_ok_iff.mp located
  have noNul : '\x00' ∉ root.text.toList := by
    intro member
    simp [pathFault?, member] at fine
  have noFault : tree.pathFault? (root.below (names ++ [name])) = none := by
    have nonempty := @Path.below_concat_ne_empty root _ _ plain
    simp [pathFault?, pathTooLong, unlimited, Path.noNul_below plain noNul, nonempty]
  rw [locate, follow, noFault]
  dsimp only
  rw [Path.steps_below plain, startOf, Path.isAbsolute_below plain, List.foldlM_append]
  rw [startOf] at followed
  rw [followed]
  rfl

/-! ## Putting directories -/

theorem putDirectories_append (tree : FileTree) (location : Location) (first second : List String) :
    tree.putDirectories location (first ++ second) =
      (tree.putDirectories location first).putDirectories (first.foldl advance location)
        second := by
  induction first generalizing tree location with
  | nil => rfl
  | cons step rest ih =>
      rw [List.cons_append, putDirectories, putDirectories, List.foldl_cons]
      split
      · exact ih tree _
      · exact ih _ _

theorem putDirectories_plain_cons (plain : PlainName name) (rest : List String) :
    tree.putDirectories base (name :: rest) =
      if tree.entryAt? (base ++ [name]) = some .directory then
        tree.putDirectories (base ++ [name]) rest
      else (tree.put (base ++ [name]) .directory).putDirectories (base ++ [name]) rest := by
  rw [putDirectories, advance_plain plain]

/-- Directories are put along the names and nowhere else. -/
theorem entryAt?_putDirectories_of_ne (plain : ∀ name ∈ names, PlainName name) {other : Location}
    (apart : ∀ front, front <+: names → other ≠ base ++ front) :
    (tree.putDirectories base names).entryAt? other = tree.entryAt? other := by
  induction names generalizing tree base with
  | nil => rfl
  | cons first rest ih =>
      have others := fun name member => plain name (List.mem_cons_of_mem first member)
      have further : ∀ front, front <+: rest → other ≠ base ++ [first] ++ front := by
        intro front part
        rw [List.append_assoc, List.singleton_append]
        exact apart (first :: front) (by simpa using part)
      rw [putDirectories_plain_cons (plain first List.mem_cons_self)]
      split
      · exact ih others further
      · rw [ih others further, entryAt?_put (by simp), if_neg (apart [first] ⟨rest, rfl⟩)]

/-- Along the names there are directories afterwards. -/
theorem entryAt?_putDirectories_front (directory : tree.entryAt? base = some .directory)
    (plain : ∀ name ∈ names, PlainName name) {front : List String} (part : front <+: names) :
    (tree.putDirectories base names).entryAt? (base ++ front) = some .directory := by
  induction names generalizing tree base front with
  | nil =>
      obtain rfl := List.prefix_nil.mp part
      rwa [List.append_nil]
  | cons first rest ih =>
      have others := fun name member => plain name (List.mem_cons_of_mem first member)
      have next : (tree.put (base ++ [first]) .directory).entryAt? (base ++ [first]) =
          some .directory := by
        rw [entryAt?_put (by simp), if_pos rfl]
      rcases List.prefix_cons_iff.mp part with rfl | ⟨front, rfl, inner⟩
      · have above : ∀ part, part <+: rest → base ++ [] ≠ base ++ [first] ++ part := by
          intro part _ same
          simpa using congrArg List.length same
        rw [putDirectories_plain_cons (plain first List.mem_cons_self)]
        split
        · rw [entryAt?_putDirectories_of_ne others above, List.append_nil, directory]
        · rw [entryAt?_putDirectories_of_ne others above, entryAt?_put (by simp),
            if_neg (by simp), List.append_nil, directory]
      · rw [putDirectories_plain_cons (plain first List.mem_cons_self),
          List.append_cons base first front]
        split
        · next held => exact ih held others inner
        · exact ih next others inner

/-- Where all the directories are there, none is put. -/
theorem putDirectories_eq_self (plain : ∀ name ∈ names, PlainName name)
    (directories : ∀ front, front <+: names → tree.entryAt? (base ++ front) = some .directory) :
    tree.putDirectories base names = tree := by
  induction names generalizing base with
  | nil => rfl
  | cons first rest ih =>
      rw [putDirectories_plain_cons (plain first List.mem_cons_self),
        if_pos (directories [first] ⟨rest, rfl⟩)]
      apply ih fun name member => plain name (List.mem_cons_of_mem _ member)
      intro front part
      rw [List.append_assoc, List.singleton_append]
      exact directories (first :: front) (by simpa using part)

/-! ## Making directories -/

theorem endsInName_below (plain : ∀ other ∈ names ++ [name], PlainName other) :
    endsInName (root.below (names ++ [name])) = true := by
  have last : PlainName name := plain name (by simp)
  rw [endsInName, Path.steps_below plain, ← List.append_assoc, List.getLast?_concat]
  exact last.isName

section

variable (hosts : tree.Hosts root base) (plain : ∀ other ∈ names ++ [name], PlainName other)
include hosts plain

/-- Making one directory below a root: if the names are not followed so far, it ends in that fault,
and otherwise the place has to be free. -/
theorem makeDirectory_below :
    tree.makeDirectory (root.below (names ++ [name])) =
      match (names ++ [name]).foldlM tree.descend base with
      | .error fault => .error fault
      | .ok location =>
        if tree.entryAt? location = none then .ok (tree.put location .directory)
        else .error .alreadyExists := by
  rw [makeDirectory, locate_below hosts.unlimited hosts.located plain, endsInName_below plain]
  cases (names ++ [name]).foldlM tree.descend base with
  | error fault => rfl
  | ok location =>
      dsimp only [bind, Except.bind]
      simp

theorem isDirectory_below :
    tree.isDirectory (root.below (names ++ [name])) = true ↔
      ∃ location, (names ++ [name]).foldlM tree.descend base = .ok location ∧
        tree.entryAt? location = some .directory := by
  rw [isDirectory_iff, locate_below hosts.unlimited hosts.located plain]

variable (directories : ∀ front, front <+: names → tree.entryAt? (base ++ front) = some .directory)
include directories

/-- In a directory, another one is made where nothing is. -/
theorem makeDirectory_of_directories :
    tree.makeDirectory (root.below (names ++ [name])) =
      if tree.entryAt? (base ++ (names ++ [name])) = none then
        .ok (tree.put (base ++ (names ++ [name])) .directory)
      else .error .alreadyExists := by
  rw [makeDirectory_below hosts plain,
    foldlM_descend_of_directories hosts.unlimited plain directories]

theorem isDirectory_of_directories :
    tree.isDirectory (root.below (names ++ [name])) = true ↔
      tree.entryAt? (base ++ (names ++ [name])) = some .directory := by
  rw [isDirectory_below hosts plain,
    foldlM_descend_of_directories hosts.unlimited plain directories]
  simp

/-- In a directory, a file is made or emptied where no other directory is. -/
theorem createFile_of_directories (noSlash : endsInSlash (root.below (names ++ [name])) = false) :
    tree.createFile (root.below (names ++ [name])) =
      if tree.entryAt? (base ++ (names ++ [name])) = some .directory then .error .isADirectory
      else .ok (tree.put (base ++ (names ++ [name])) (.file [])) := by
  rw [createFile, noSlash, if_neg (by simp), endsInName_below plain,
    locate_below hosts.unlimited hosts.located plain,
    foldlM_descend_of_directories hosts.unlimited plain directories]
  dsimp only [bind, Except.bind]
  simp

end

/-- An entry that is a directory has directories on the way to it, the root directory included. -/
theorem Closed.directories (closed : tree.Closed)
    (held : tree.entryAt? (base ++ names) = some .directory) :
    ∀ front, front <+: names → tree.entryAt? (base ++ front) = some .directory := by
  rintro front ⟨rest, rfl⟩
  by_cases last : rest = []
  · rwa [last, List.append_nil] at held
  · rw [← List.append_assoc] at held
    exact closed.directory last (by rw [held]; simp)

/-- **A file in the way** keeps every directory from being made. -/
theorem run_makeDirectories_of_obstructed (closed : tree.Closed) (hosts : tree.Hosts root base)
    (plain : ∀ other ∈ names, PlainName other) (obstructed : tree.Obstructed base names) :
    ∃ fault, (FileAccess.makeDirectories (m := StateM FileTree) (root.below names)).run tree =
      (.error fault, tree) := by
  have nonempty : names ≠ [] := by
    rintro rfl
    obtain ⟨front, bytes, part, file⟩ := obstructed
    rw [List.prefix_nil.mp part, List.append_nil, hosts.directory] at file
    cases file
  obtain ⟨names, name, rfl⟩ := (List.eq_nil_or_concat names).resolve_left nonempty
  rw [List.concat_eq_append] at plain obstructed ⊢
  -- The way ends before the last name or there; either way the last directory cannot be made.
  have refused : ∃ fault, tree.makeDirectory (root.below (names ++ [name])) = .error fault ∧
      fault ≠ .notFound ∧ tree.isDirectory (root.below (names ++ [name])) = false := by
    by_cases early : tree.Obstructed base names
    · have stopped := foldlM_descend_of_obstructed closed hosts.unlimited plain early
      refine ⟨.notADirectory, ?_, by simp, ?_⟩
      · rw [makeDirectory_below hosts plain, stopped]
      · rw [Bool.eq_false_iff, ne_eq, isDirectory_below hosts plain, stopped]
        simp
    · obtain ⟨front, bytes, part, file⟩ := obstructed
      rcases List.prefix_concat_iff.mp part with rfl | inner
      · have above : tree.entryAt? (base ++ names) = some .directory :=
          closed.directory (List.cons_ne_nil name []) (by rw [List.append_assoc, file]; simp)
        have directories := closed.directories above
        refine ⟨.alreadyExists, ?_, by simp, ?_⟩
        · rw [makeDirectory_of_directories hosts plain directories, file, if_neg (by simp)]
        · rw [Bool.eq_false_iff, ne_eq, isDirectory_of_directories hosts plain directories, file]
          simp
      · exact absurd ⟨front, bytes, inner, file⟩ early
  obtain ⟨fault, made, found, nothing⟩ := refused
  obtain ⟨shorter, prefixes⟩ := root.exists_prefixes_below plain
  refine ⟨fault, ?_⟩
  rw [FileAccess.makeDirectories, prefixes, List.reverse_concat, run_makeDirectoriesFrom_cons, made]
  cases fault <;> simp_all

/-- The way along some names does not come to a place behind them. -/
theorem ne_append_concat {front : List String} (part : front <+: names) :
    base ++ (names ++ [name]) ≠ base ++ front := by
  intro same
  have shorter := part.length_le
  have equal := congrArg List.length same
  simp only [List.length_append, List.length_singleton] at equal
  omega

/-- After the last directory, the way to a missing one below it is free. -/
theorem entryAt?_putDirectories_concat (closed : tree.Closed)
    (plain : ∀ other ∈ names, PlainName other) (missing : tree.entryAt? (base ++ names) = none) :
    (tree.putDirectories base names).entryAt? (base ++ (names ++ [name])) = none := by
  rw [entryAt?_putDirectories_of_ne plain]
  · by_contra held
    rw [← List.append_assoc] at held
    simp [closed _ _ held] at missing
  · exact fun front => ne_append_concat

/-- The last directory is made where all above it are there. -/
theorem run_makeDirectories_of_directories (hosts : tree.Hosts root base)
    (plain : ∀ other ∈ names ++ [name], PlainName other)
    (directories : ∀ front, front <+: names → tree.entryAt? (base ++ front) = some .directory)
    (free : ¬tree.Obstructed base (names ++ [name])) :
    (FileAccess.makeDirectories (m := StateM FileTree) (root.below (names ++ [name]))).run tree =
      (.ok (), if tree.entryAt? (base ++ (names ++ [name])) = some .directory then tree
        else tree.put (base ++ (names ++ [name])) .directory) := by
  have found := isDirectory_of_directories hosts plain directories
  obtain ⟨shorter, prefixes⟩ := root.exists_prefixes_below plain
  rw [FileAccess.makeDirectories, prefixes, List.reverse_concat, run_makeDirectoriesFrom_cons,
    makeDirectory_of_directories hosts plain directories]
  cases held : tree.entryAt? (base ++ (names ++ [name])) with
  | none => simp
  | some entry =>
      cases entry with
      | file bytes => exact absurd ⟨_, bytes, List.prefix_rfl, held⟩ free
      | directory => simp [found, held]

/-- **With no file in the way** every missing directory is made. -/
theorem run_makeDirectories_of_free (closed : tree.Closed) (hosts : tree.Hosts root base)
    (plain : ∀ other ∈ names, PlainName other) (nonempty : names ≠ [])
    (free : ¬tree.Obstructed base names) :
    (FileAccess.makeDirectories (m := StateM FileTree) (root.below names)).run tree =
      (.ok (), tree.putDirectories base names) := by
  induction names using List.reverseRecOn with
  | nil => exact absurd rfl nonempty
  | append_singleton names name ih =>
      have inner : ∀ other ∈ names, PlainName other := fun other member =>
        plain other (List.mem_append_left _ member)
      have innerFree : ¬tree.Obstructed base names := by
        rintro ⟨front, bytes, part, file⟩
        exact free ⟨front, bytes, part.trans (List.prefix_append _ _), file⟩
      rw [putDirectories_append, foldl_advance inner,
        putDirectories_plain_cons (plain name (by simp)), List.append_assoc]
      cases above : tree.entryAt? (base ++ names) with
      | some entry =>
          cases entry with
          | file bytes => exact absurd ⟨names, bytes, List.prefix_rfl, above⟩ innerFree
          | directory =>
              have directories := closed.directories above
              rw [run_makeDirectories_of_directories hosts plain directories free,
                putDirectories_eq_self inner directories]
              rfl
      | none =>
          -- The walk ends where a directory is missing, so the ones above are made first.
          have missing := makeDirectory_below hosts plain
          rw [foldlM_descend_of_free hosts.unlimited plain innerFree above] at missing
          have nonempty : names ≠ [] := by
            intro unnamed
            rw [unnamed, List.append_nil, hosts.directory] at above
            cases above
          have climbed := ih inner nonempty innerFree
          have gains := @gainsDirectories_makeDirectoriesFrom tree (fun _ => True)
            (root.below names).prefixes.reverse fun _ _ => trivial
          rw [FileAccess.makeDirectories] at climbed
          rw [climbed] at gains
          have made := makeDirectory_of_directories (hosts.gains gains) plain
            fun front => entryAt?_putDirectories_front hosts.directory inner
          have nothing := @entryAt?_putDirectories_concat tree base names name closed inner above
          rw [nothing, if_pos rfl] at made
          rw [FileAccess.makeDirectories, Path.prefixes_below_concat plain nonempty,
            List.reverse_concat, run_makeDirectoriesFrom_cons, missing]
          dsimp only
          rw [climbed]
          dsimp only
          rw [made, nothing, if_neg (by simp), putDirectories]

end RecordMapper.FileTree
