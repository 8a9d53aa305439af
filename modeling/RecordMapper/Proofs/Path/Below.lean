import RecordMapper.Proofs.Path.Output

/-!
# Paths below a root

The path that goes on from a root through some names. Its steps are those of the root and then the
names (`Path.steps_below`), and with each further name it has one more prefix
(`Path.prefixes_below_concat`). An output path is such a path: its names are the segments of the
package and then the name of the file (`outputPathBelow_eq`).
-/

namespace RecordMapper

open FileTree

/-- A name that is one step of a path, whatever stands before and after it. -/
structure PlainName (name : String) : Prop where
  nonempty : name ≠ ""
  noSlash : '/' ∉ name.toList
  noNul : '\x00' ∉ name.toList
  isName : FileTree.isName name = true

namespace Path

/-- The path that goes on from `root` through some names. -/
def below (root : Path) (names : List String) : Path :=
  root.push ("/".intercalate names)

/-- What stands in front of the first name below `root`. -/
def stem (root : Path) : String :=
  (root.push "").text

variable {root : Path} {names : List String} {name : String}

/-! ## Plain names -/

theorem component?_plain (plain : PlainName name) : component? name = some (.name name) := by
  obtain ⟨noDot, noDots⟩ : name ≠ "." ∧ name ≠ ".." := by
    simpa [FileTree.isName] using plain.isName
  simp [component?, plain.nonempty, noDot, noDots]

theorem isSome_component? (plain : PlainName name) : (component? name).isSome = true := by
  rw [component?_plain plain, Option.isSome_some]

theorem pieces_plain (plain : PlainName name) : (⟨name⟩ : Path).pieces = [name] := by
  rw [pieces, List.splitOn_eq_singleton plain.noSlash, List.map_singleton, String.ofList_toList]

theorem head?_plain_ne_slash (plain : PlainName name) : name.toList.head? ≠ some '/' := by
  intro slash
  exact plain.noSlash (List.mem_of_mem_head? slash)

/-- Plain names, with slashes between them, do not begin with a slash. -/
theorem head?_join_ne_slash (plain : ∀ name ∈ names, PlainName name) :
    ("/".intercalate names).toList.head? ≠ some '/' := by
  cases names with
  | nil => simp
  | cons first rest =>
      have fine := plain first List.mem_cons_self
      cases rest with
      | nil =>
          rw [String.intercalate_singleton]
          exact head?_plain_ne_slash fine
      | cons next rest =>
          obtain ⟨c, cs, spelled⟩ := List.exists_cons_of_ne_nil (l := first.toList)
            (by simpa using fine.nonempty)
          have begins := head?_plain_ne_slash fine
          rw [spelled] at begins
          rwa [String.intercalate_cons_cons, String.append_assoc, String.toList_append, spelled]

/-- Plain names, with slashes between them, do not end in a slash. -/
theorem getLast?_join_ne_slash (plain : PlainName name) :
    ("/".intercalate (names ++ [name])).toList.getLast? ≠ some '/' := by
  intro slash
  have inside : '/' ∈ name.toList := by
    by_cases alone : names = []
    · subst alone
      rw [List.nil_append, String.intercalate_singleton] at slash
      exact List.mem_of_getLast? slash
    · have chars : name.toList ≠ [] := by simpa using plain.nonempty
      obtain ⟨c, last⟩ := Option.isSome_iff_exists.mp (List.getLast?_isSome.mpr chars)
      rw [String.intercalate_append_of_ne_nil alone (by simp), String.intercalate_singleton,
        String.toList_append, List.getLast?_append, last, Option.some_or] at slash
      exact List.mem_of_getLast? (last.trans slash)
  exact plain.noSlash inside

theorem join_plain_ne_empty (plain : PlainName name) : "/".intercalate (names ++ [name]) ≠ "" :=
  join_ne_empty (isSome_component? plain)

/-! ## The text of a path below a root -/

theorem leads_stem (root : Path) : Leads root.stem := by
  obtain ⟨before, leads, text⟩ := root.push_text ""
  rw [String.append_empty] at text
  rwa [stem, text]

theorem below_eq (plain : ∀ name ∈ names, PlainName name) :
    root.below names = ⟨root.stem ++ "/".intercalate names⟩ := by
  have empty : ("" : String).toList.head? ≠ some '/' := by simp
  rw [below, stem, push, push, if_neg (head?_join_ne_slash plain), if_neg empty]
  split
  · rw [String.append_empty]
  · rw [String.append_empty]

/-- A further name stands behind a slash. -/
theorem below_concat (plain : ∀ other ∈ names ++ [name], PlainName other) (nonempty : names ≠ []) :
    root.below (names ++ [name]) = ⟨(root.below names).text ++ "/" ++ name⟩ := by
  have front : ∀ other ∈ names, PlainName other := fun other member =>
    plain other (List.mem_append_left _ member)
  rw [below_eq plain, below_eq front, String.intercalate_append_of_ne_nil nonempty (by simp),
    String.intercalate_singleton]
  simp only [String.append_assoc]

theorem below_concat_ne_empty (plain : ∀ other ∈ names ++ [name], PlainName other) :
    (root.below (names ++ [name])).text ≠ "" := by
  rw [below_eq plain]
  simp [join_plain_ne_empty (plain name (by simp))]

/-- Pushing a name onto plain names puts it behind them. -/
theorem push_join (plain : ∀ other ∈ names ++ [name], PlainName other) :
    (⟨"/".intercalate names⟩ : Path).push name = ⟨"/".intercalate (names ++ [name])⟩ := by
  rw [push, if_neg (head?_plain_ne_slash (plain name (by simp)))]
  rcases List.eq_nil_or_concat names with rfl | ⟨front, latest, rfl⟩
  · simp
  · rw [List.concat_eq_append] at plain ⊢
    have last : PlainName latest := plain latest (by simp)
    rw [if_neg (by
      rw [Bool.or_eq_true, not_or, String.isEmpty_iff, decide_eq_true_eq]
      exact ⟨join_plain_ne_empty last, getLast?_join_ne_slash last⟩)]
    rw [String.intercalate_append_of_ne_nil (m := [name]) (by simp) (by simp),
      String.intercalate_singleton]

/-- Pushing names one by one puts all of them behind each other. -/
theorem foldl_push_join {more : List String} (plain : ∀ other ∈ names ++ more, PlainName other) :
    more.foldl push ⟨"/".intercalate names⟩ = ⟨"/".intercalate (names ++ more)⟩ := by
  induction more generalizing names with
  | nil => rw [List.foldl_nil, List.append_nil]
  | cons name rest ih =>
      rw [List.append_cons] at plain
      rw [List.foldl_cons,
        push_join fun other member => plain other (List.mem_append_left _ member), ih plain,
        List.append_assoc, List.singleton_append]

/-! ## Steps -/

/-- Behind the stem the steps of the root are all taken. -/
theorem steps_stem (root : Path) (after : String) :
    steps ⟨root.stem ++ after⟩ = steps root ++ steps ⟨after⟩ := by
  have alone : steps ⟨""⟩ = [] := rfl
  have stem : steps ⟨root.stem⟩ = steps root := by
    rw [Path.stem, push, if_neg (by simp)]
    split
    · rw [String.append_empty]
    · rw [steps_append, alone, List.append_nil]
  rw [← stem]
  rcases root.leads_stem with empty | ⟨front, spelled⟩
  · rw [empty, String.empty_append, alone, List.nil_append]
  · have closed := steps_append front ""
    rw [String.append_empty, alone, List.append_nil] at closed
    rw [spelled, steps_append, closed]

theorem steps_below (plain : ∀ name ∈ names, PlainName name) :
    steps (root.below names) = steps root ++ names := by
  have joined : steps ⟨"/".intercalate names⟩ = names := by
    by_cases unnamed : names = []
    · subst unnamed
      rfl
    · rw [steps_join (fun name member => (plain name member).noSlash) unnamed]
      apply List.filter_eq_self.mpr
      intro name member
      simpa using (plain name member).nonempty
  rw [below_eq plain, steps_stem, joined]

/-- A path below a root is absolute if the root is. -/
theorem isAbsolute_below (plain : ∀ name ∈ names, PlainName name) :
    (root.below names).isAbsolute = root.isAbsolute := by
  have relative := head?_join_ne_slash plain
  rw [below, push, if_neg relative, isAbsolute, isAbsolute]
  by_cases empty : root.text = ""
  · rw [empty, if_pos (by simp), String.empty_append]
    simp only [relative, decide_false]
    rfl
  · split
    · exact isAbsolute_append empty _
    · rw [String.append_assoc]
      exact isAbsolute_append empty _

theorem noNul_below (plain : ∀ name ∈ names, PlainName name) (noNul : '\x00' ∉ root.text.toList) :
    '\x00' ∉ (root.below names).text.toList := by
  have joined : '\x00' ∉ ("/".intercalate names).toList := by
    induction names with
    | nil => simp
    | cons first rest ih =>
        have fine := (plain first List.mem_cons_self).noNul
        have others := ih fun name member => plain name (List.mem_cons_of_mem _ member)
        cases rest with
        | nil => rwa [String.intercalate_singleton]
        | cons next rest =>
            rw [String.intercalate_cons_cons, String.toList_append, String.toList_append]
            simp only [List.mem_append, not_or]
            exact ⟨⟨fine, by decide⟩, others⟩
  rw [below, push, if_neg (head?_join_ne_slash plain)]
  split
  · rw [String.toList_append, List.mem_append, not_or]
    exact ⟨noNul, joined⟩
  · rw [String.toList_append, String.toList_append]
    simp only [List.mem_append, not_or]
    exact ⟨⟨noNul, by decide⟩, joined⟩

/-! ## Prefixes -/

/-- The prefixes after a text grow by the whole path with a last piece that stands for a
component. -/
theorem prefixesAfter_concat {before : String} {pieces : List String} {piece : String}
    (counts : (component? piece).isSome) :
    prefixesAfter before (pieces ++ [piece]) =
      prefixesAfter before pieces ++ [⟨before ++ "/".intercalate (pieces ++ [piece])⟩] := by
  induction pieces generalizing before with
  | nil => simp [prefixesAfter, counts]
  | cons first rest ih =>
      have joined : "/".intercalate (first :: (rest ++ [piece])) =
          first ++ "/" ++ "/".intercalate (rest ++ [piece]) :=
        String.intercalate_cons_of_ne_nil (by simp)
      simp only [List.cons_append, prefixesAfter, ih, joined, String.append_assoc]
      split <;> rfl

/-- The first piece of an absolute path is empty. -/
theorem exists_pieces_of_isAbsolute {path : Path} (absolute : path.isAbsolute = true) :
    ∃ rest, path.pieces = "" :: rest := by
  obtain ⟨rest, spelled⟩ := List.head?_eq_some_iff.mp (of_decide_eq_true absolute)
  rw [pieces, spelled, List.splitOn_cons_eq_if_modifyHead]
  exact ⟨_, rfl⟩

/-- A path has one more prefix with a plain name behind it. -/
theorem prefixes_slash {path : Path} (nonempty : path.text ≠ "") (plain : PlainName name) :
    (⟨path.text ++ "/" ++ name⟩ : Path).prefixes =
      path.prefixes ++ [⟨path.text ++ "/" ++ name⟩] := by
  have counts := isSome_component? plain
  have pieces : (⟨path.text ++ "/" ++ name⟩ : Path).pieces = path.pieces ++ [name] := by
    rw [pieces_append, pieces_plain plain]
  have absolute : (⟨path.text ++ "/" ++ name⟩ : Path).isAbsolute = path.isAbsolute := by
    rw [String.append_assoc, isAbsolute_append nonempty]
  obtain ⟨first, rest, spelled⟩ := List.exists_cons_of_ne_nil path.pieces_ne_nil
  rw [spelled] at pieces
  have text : "/".intercalate (first :: rest ++ [name]) = path.text ++ "/" ++ name := by
    rw [← pieces, join_pieces]
  have whole : first ++ "/" ++ "/".intercalate (rest ++ [name]) = path.text ++ "/" ++ name := by
    rw [← text, List.cons_append, String.intercalate_cons_of_ne_nil (by simp)]
  -- Both paths begin alike: at the root, with a dot, or with their first piece.
  simp only [prefixes, leading, absolute, pieces, spelled, List.cons_append, List.head?_cons,
    List.tail_cons]
  by_cases rooted : path.isAbsolute = true
  · obtain ⟨others, split⟩ := exists_pieces_of_isAbsolute rooted
    obtain rfl : first = "" := by
      rw [spelled] at split
      exact (List.cons.inj split).1
    rw [String.empty_append] at whole
    simp only [rooted, ↓reduceIte, prefixesAfter_concat counts, List.cons_append, whole]
  · by_cases dot : first = "."
    · subst dot
      simp only [rooted, ↓reduceIte, prefixesAfter_concat counts]
      rw [← whole]
      rfl
    · have apart : ¬some first = some "." := by simpa using dot
      simp only [rooted, apart, Bool.false_eq_true, ↓reduceIte]
      rw [← List.cons_append, prefixesAfter_concat counts, String.empty_append, text]

/-- **A path below a root has one more prefix with a further name.** -/
theorem prefixes_below_concat (plain : ∀ other ∈ names ++ [name], PlainName other)
    (nonempty : names ≠ []) :
    (root.below (names ++ [name])).prefixes =
      (root.below names).prefixes ++ [root.below (names ++ [name])] := by
  obtain ⟨front, latest, rfl⟩ := (List.eq_nil_or_concat names).resolve_left nonempty
  rw [List.concat_eq_append] at plain nonempty ⊢
  have inner : ∀ other ∈ front ++ [latest], PlainName other := fun other member =>
    plain other (List.mem_append_left _ member)
  rw [below_concat plain nonempty]
  exact prefixes_slash (below_concat_ne_empty inner) (plain name (by simp))

/-- A plain name is its own only prefix. -/
theorem prefixes_plain (plain : PlainName name) : (⟨name⟩ : Path).prefixes = [⟨name⟩] := by
  have relative : (⟨name⟩ : Path).isAbsolute = false := by
    simpa [isAbsolute] using head?_plain_ne_slash plain
  have noDot : name ≠ "." := by
    intro same
    have dot := plain.isName
    rw [same] at dot
    exact absurd dot (by decide)
  rw [prefixes, leading, relative, pieces_plain plain]
  simp [noDot, prefixesAfter, isSome_component? plain]

theorem prefixes_slash_plain (plain : PlainName name) :
    (⟨"/" ++ name⟩ : Path).prefixes = [⟨"/"⟩, ⟨"/" ++ name⟩] := by
  have absolute : (⟨"/" ++ name⟩ : Path).isAbsolute = true := by
    rw [isAbsolute, String.toList_append]
    rfl
  have split := pieces_append "" name
  rw [String.empty_append, pieces_plain plain] at split
  have tail : (⟨"/" ++ name⟩ : Path).pieces.tail = [name] := by
    rw [split]
    rfl
  rw [prefixes, leading, absolute, tail]
  simp [prefixesAfter, isSome_component? plain]

/-- The last prefix of a path below a root is the path itself. -/
theorem exists_prefixes_below (root : Path) (plain : ∀ other ∈ names ++ [name], PlainName other) :
    ∃ shorter, (root.below (names ++ [name])).prefixes =
      shorter ++ [root.below (names ++ [name])] := by
  by_cases more : names = []
  · subst more
    have fine : PlainName name := plain name (by simp)
    rw [List.nil_append] at plain ⊢
    rw [below_eq plain, String.intercalate_singleton]
    rcases root.leads_stem with empty | ⟨front, spelled⟩
    · rw [empty, String.empty_append]
      exact ⟨[], prefixes_plain fine⟩
    · rw [spelled]
      by_cases top : front = ""
      · rw [top, String.empty_append]
        exact ⟨[⟨"/"⟩], prefixes_slash_plain fine⟩
      · exact ⟨_, @prefixes_slash name ⟨front⟩ top fine⟩
  · exact ⟨_, prefixes_below_concat plain more⟩

/-- The parent of a path below a root is the path without its last name. -/
theorem parent?_below (plain : ∀ other ∈ names ++ [name], PlainName other) (nonempty : names ≠ []) :
    (root.below (names ++ [name])).parent? = some (root.below names) := by
  obtain ⟨front, latest, rfl⟩ := (List.eq_nil_or_concat names).resolve_left nonempty
  rw [List.concat_eq_append] at plain nonempty ⊢
  obtain ⟨shorter, prefixes⟩ := root.exists_prefixes_below fun other member =>
    plain other (List.mem_append_left _ member)
  rw [parent?, prefixes_below_concat plain nonempty, prefixes]
  simp

end Path

/-! ## Output paths -/

theorem plainName_of_identifier {name : String} (valid : Identifier.fault? name = none) :
    PlainName name := by
  have parts {c : Char} (member : c ∈ name.toList) := Identifier.isPart_of_mem valid member
  refine ⟨Identifier.ne_empty valid, Identifier.not_mem valid (by decide), ?_, ?_⟩
  · intro member
    exact absurd (parts member) (by decide +kernel)
  · have noDot := Identifier.not_mem valid (c := '.') (by decide)
    have differs {other : String} (dot : '.' ∈ other.toList) : name ≠ other := by
      intro same
      subst same
      exact noDot dot
    simp [isName, @differs "." (by decide), @differs ".." (by decide)]

theorem plainName_generatedName {fileName : String} (valid : FileName.fault? fileName = none) :
    PlainName (generatedName fileName) := by
  obtain ⟨nonempty, name⟩ := isName_generatedName valid
  refine ⟨nonempty, noSlash_generatedName valid, ?_, name⟩
  have extension : ".".toList ++ generatedExtension.toList = ['.', 'k', 't'] := rfl
  rw [generatedName, String.toList_append, String.toList_append, List.append_assoc, extension,
    List.mem_append, not_or]
  refine ⟨?_, by decide⟩
  intro member
  exact absurd (FileName.isPart_of_mem valid member) (by decide +kernel)

/-- The names on the way from the root of a sink to an output file. -/
def outputNames (package fileName : String) : List String :=
  QualifiedName.segments package ++ [generatedName fileName]

section

variable {package fileName : String} (valid : QualifiedName.fault? package = none)
  (validFile : FileName.fault? fileName = none)
include valid validFile

theorem plainName_of_mem_outputNames :
    ∀ name ∈ outputNames package fileName, PlainName name := by
  intro name member
  rcases List.mem_append.mp member with segment | last
  · exact plainName_of_identifier (QualifiedName.fault?_eq_none_iff.mp valid name segment)
  · rw [List.mem_singleton.mp last]
    exact plainName_generatedName validFile

/-- **An output path consists of the segments of its package and its file name.** -/
theorem outputPath_eq :
    outputPath package fileName = ⟨"/".intercalate (outputNames package fileName)⟩ := by
  have plain := plainName_of_mem_outputNames valid validFile
  have all : (QualifiedName.segments package).filter (fun segment => !segment.isEmpty) =
      QualifiedName.segments package := by
    apply List.filter_eq_self.mpr
    intro segment member
    simpa using (plain segment (List.mem_append_left _ member)).nonempty
  have joined := @Path.foldl_push_join [] (QualifiedName.segments package) (by
    intro segment member
    exact plain segment (List.mem_append_left _ (by simpa using member)))
  rw [String.intercalate_nil, List.nil_append] at joined
  rw [outputPath, all, joined]
  exact Path.push_join plain

/-- **The path of an output file below a root.** -/
theorem outputPathBelow_eq (root : Path) :
    outputPathBelow root package fileName = root.below (outputNames package fileName) := by
  rw [outputPathBelow, outputPath_eq valid validFile, Path.below]

end

end RecordMapper
