import RecordMapper.Proofs.Path.Pieces

/-!
# The prefixes of paths

The prefixes of a path lead part of the way that the path leads: their steps are the first ones of
the path (`Path.initialPart_of_mem_prefixes`), and a longer prefix takes more steps than a shorter
one (`Path.pairwise_prefixes`). So the parent of a path stops before the last step that is a name
(`Path.initialPart_of_parent?`).
-/

namespace RecordMapper.Path

open FileTree

/-- `upper` leads part of the way of `lower`, which takes the steps `more` after it. -/
structure InitialPart (upper lower : Path) (more : List String) : Prop where
  text : ∃ rest, lower.text = upper.text ++ rest
  isAbsolute : upper.isAbsolute = lower.isAbsolute
  steps : steps lower = steps upper ++ more

namespace InitialPart

theorem refl (path : Path) : path.InitialPart path [] :=
  ⟨⟨"", by rw [String.append_empty]⟩, rfl, by rw [List.append_nil]⟩

theorem trans {upper middle lower : Path} {more further : List String}
    (first : upper.InitialPart middle more) (second : middle.InitialPart lower further) :
    upper.InitialPart lower (more ++ further) := by
  obtain ⟨rest, text⟩ := first.text
  obtain ⟨other, otherText⟩ := second.text
  refine ⟨⟨rest ++ other, ?_⟩, first.isAbsolute.trans second.isAbsolute, ?_⟩
  · rw [otherText, text, String.append_assoc]
  · rw [second.steps, first.steps, List.append_assoc]

/-- A path leads part of the way of the same path with a slash and more after it. -/
theorem slash {upper lower : Path} {rest : String} (nonempty : upper.text ≠ "")
    (text : lower.text = upper.text ++ "/" ++ rest) :
    upper.InitialPart lower (FileTree.steps ⟨rest⟩) := by
  obtain ⟨chars⟩ := lower
  obtain rfl : chars = upper.text ++ "/" ++ rest := text
  refine ⟨⟨"/" ++ rest, by rw [String.append_assoc]⟩, ?_, steps_append upper.text rest⟩
  rw [String.append_assoc, isAbsolute_append nonempty]

/-- The root leads part of the way of every absolute path. -/
theorem root {lower : Path} {rest : String} (text : lower.text = "/" ++ rest) :
    InitialPart ⟨"/"⟩ lower (FileTree.steps ⟨rest⟩) := by
  obtain ⟨chars⟩ := lower
  obtain rfl : chars = "/" ++ rest := text
  refine ⟨⟨rest, rfl⟩, ?_, ?_⟩
  · rw [Path.isAbsolute, Path.isAbsolute, String.toList_append]
    rfl
  · have steps := steps_append "" rest
    rw [String.empty_append] at steps
    exact steps

end InitialPart

theorem piece_ne_empty {piece : String} (counts : (component? piece).isSome) : piece ≠ "" := by
  intro same
  subst same
  simp [component?] at counts

/-- A prefix ends with a piece that stands for a component. -/
theorem exists_of_mem_prefixesAfter {before : String} {pieces : List String} {path : Path}
    (member : path ∈ prefixesAfter before pieces) :
    ∃ front piece back, pieces = front ++ piece :: back ∧ (component? piece).isSome ∧
      path.text = before ++ "/".intercalate (front ++ [piece]) := by
  induction pieces generalizing before with
  | nil => simp [prefixesAfter] at member
  | cons first rest ih =>
      have deeper (later : path ∈ prefixesAfter (before ++ first ++ "/") rest) :
          ∃ front piece back, first :: rest = front ++ piece :: back ∧ (component? piece).isSome ∧
            path.text = before ++ "/".intercalate (front ++ [piece]) := by
        obtain ⟨front, piece, back, rfl, counts, text⟩ := ih later
        refine ⟨first :: front, piece, back, rfl, counts, ?_⟩
        rw [text, List.cons_append, String.intercalate_cons_of_ne_nil (by simp)]
        simp only [String.append_assoc]
      unfold prefixesAfter at member
      by_cases counts : (component? first).isSome
      · simp only [counts, ↓reduceIte, List.mem_cons] at member
        rcases member with rfl | later
        · exact ⟨[], first, rest, rfl, counts, by simp⟩
        · exact deeper later
      · simp only [counts] at member
        exact deeper member

/-- Joined pieces take a step if the last of them stands for a component. -/
theorem steps_join_ne_nil {front : List String} {piece : String}
    (noSlash : ∀ other ∈ front ++ [piece], '/' ∉ other.toList)
    (counts : (component? piece).isSome) : steps ⟨"/".intercalate (front ++ [piece])⟩ ≠ [] := by
  rw [steps_join noSlash (by simp), List.filter_append]
  simp [piece_ne_empty counts]

/-- Joined pieces are not empty if the last of them stands for a component. -/
theorem join_ne_empty {front : List String} {piece : String} (counts : (component? piece).isSome) :
    "/".intercalate (front ++ [piece]) ≠ "" := by
  cases front with
  | nil => simpa using piece_ne_empty counts
  | cons first rest =>
      rw [String.intercalate_append_of_ne_nil (by simp) (by simp)]
      simp [piece_ne_empty counts]

/-- The prefixes after a text lead part of the way of the whole path. -/
theorem initialPart_of_mem_prefixesAfter {before : String} {pieces : List String}
    {upper lower : Path} (text : lower.text = before ++ "/".intercalate pieces)
    (member : upper ∈ prefixesAfter before pieces) : ∃ more, upper.InitialPart lower more := by
  obtain ⟨front, piece, back, rfl, counts, upperText⟩ := exists_of_mem_prefixesAfter member
  cases back with
  | nil =>
      obtain rfl : upper = lower := by
        obtain ⟨chars⟩ := lower
        obtain ⟨upperChars⟩ := upper
        rw [Path.mk.injEq]
        exact upperText.trans text.symm
      exact ⟨[], .refl upper⟩
  | cons next back =>
      have nonempty : upper.text ≠ "" := by
        rw [upperText]
        simp [join_ne_empty counts]
      have split : front ++ piece :: next :: back = (front ++ [piece]) ++ next :: back := by simp
      rw [split, String.intercalate_append_of_ne_nil (by simp) (by simp), ← String.append_assoc,
        ← String.append_assoc, ← upperText] at text
      exact ⟨_, .slash nonempty text⟩

/-- Among the prefixes after a text, the later ones take more steps. -/
theorem pairwise_prefixesAfter {before : String} {pieces : List String}
    (noSlash : ∀ piece ∈ pieces, '/' ∉ piece.toList) :
    (prefixesAfter before pieces).Pairwise fun upper lower =>
      ∃ more, more ≠ [] ∧ upper.InitialPart lower more := by
  induction pieces generalizing before with
  | nil => exact .nil
  | cons first rest ih =>
      have deeper := @ih (before ++ first ++ "/")
        fun piece member => noSlash piece (List.mem_cons_of_mem _ member)
      unfold prefixesAfter
      by_cases counts : (component? first).isSome
      · simp only [counts, ↓reduceIte]
        refine .cons ?_ deeper
        intro lower member
        obtain ⟨front, piece, back, rfl, last, text⟩ := exists_of_mem_prefixesAfter member
        have nonempty : before ++ first ≠ "" := by simp [piece_ne_empty counts]
        refine ⟨_, steps_join_ne_nil ?_ last, .slash nonempty text⟩
        intro other listed
        refine noSlash other (List.mem_cons_of_mem _ ?_)
        rw [List.append_cons]
        exact List.mem_append_left _ listed
      · simp only [counts]
        exact deeper

/-- How the prefixes of a path begin: with the root, with a dot, or with the first piece that stands
for a component. -/
theorem prefixes_cases (path : Path) :
    (∃ rest, path.text = "/" ++ rest ∧
      path.prefixes = ⟨"/"⟩ :: prefixesAfter "/" (⟨rest⟩ : Path).pieces) ∨
    (∃ pieces, path.pieces = "." :: pieces ∧
      path.prefixes = ⟨"."⟩ :: prefixesAfter "./" pieces) ∨
    path.prefixes = prefixesAfter "" path.pieces := by
  rw [prefixes, leading]
  by_cases absolute : path.isAbsolute = true
  · left
    obtain ⟨rest, spelled⟩ := List.head?_eq_some_iff.mp (of_decide_eq_true absolute)
    have text : path.text = "/" ++ String.ofList rest := by
      have slash : "/".toList = ['/'] := rfl
      apply String.toList_inj.mp
      rw [spelled, String.toList_append, slash, String.toList_ofList, List.singleton_append]
    refine ⟨String.ofList rest, text, ?_⟩
    have pieces : path.pieces.tail = (⟨String.ofList rest⟩ : Path).pieces := by
      rw [Path.pieces, Path.pieces, spelled, String.toList_ofList,
        List.splitOn_cons_eq_if_modifyHead]
      rfl
    simp only [absolute, ↓reduceIte, pieces]
  · right
    cases pieces : path.pieces with
    | nil => exact absurd pieces path.pieces_ne_nil
    | cons first rest =>
        by_cases dot : first = "."
        · left
          subst dot
          exact ⟨rest, rfl, by simp [absolute]⟩
        · right
          simp [absolute, dot]

/-- **The prefixes of a path lead part of its way.** -/
theorem initialPart_of_mem_prefixes {upper lower : Path} (member : upper ∈ lower.prefixes) :
    ∃ more, upper.InitialPart lower more := by
  rcases lower.prefixes_cases with ⟨rest, text, prefixes⟩ | ⟨pieces, spelled, prefixes⟩ | prefixes
  · rw [prefixes, List.mem_cons] at member
    rcases member with rfl | later
    · exact ⟨_, .root text⟩
    · refine initialPart_of_mem_prefixesAfter ?_ later
      rw [text, join_pieces]
  · have text := lower.join_pieces
    rw [spelled] at text
    cases pieces with
    | nil =>
        rw [String.intercalate_singleton] at text
        rw [prefixes, prefixesAfter, List.mem_singleton] at member
        obtain rfl : upper = lower := by rw [member, text]
        exact ⟨_, .refl upper⟩
    | cons next rest =>
        rw [String.intercalate_cons_cons] at text
        rw [prefixes, List.mem_cons] at member
        rcases member with rfl | later
        · exact ⟨_, .slash (by simp) text.symm⟩
        · exact initialPart_of_mem_prefixesAfter text.symm later
  · rw [prefixes] at member
    refine initialPart_of_mem_prefixesAfter ?_ member
    rw [String.empty_append, join_pieces]

/-- **A later prefix takes more steps than an earlier one.** -/
theorem pairwise_prefixes (path : Path) :
    path.prefixes.Pairwise fun upper lower => ∃ more, more ≠ [] ∧ upper.InitialPart lower more := by
  rcases path.prefixes_cases with ⟨rest, text, prefixes⟩ | ⟨pieces, spelled, prefixes⟩ | prefixes
  · rw [prefixes]
    refine .cons ?_ (pairwise_prefixesAfter fun _ => noSlash_of_mem_pieces)
    intro lower member
    obtain ⟨front, piece, back, split, last, text⟩ := exists_of_mem_prefixesAfter member
    refine ⟨_, steps_join_ne_nil ?_ last, .root text⟩
    intro other listed
    refine @noSlash_of_mem_pieces ⟨rest⟩ other ?_
    rw [split, List.append_cons]
    exact List.mem_append_left _ listed
  · have noSlash : ∀ piece ∈ pieces, '/' ∉ piece.toList := fun piece member =>
      @noSlash_of_mem_pieces path piece (by rw [spelled]; exact List.mem_cons_of_mem _ member)
    rw [prefixes]
    refine .cons ?_ (pairwise_prefixesAfter noSlash)
    intro lower member
    obtain ⟨front, piece, back, split, last, text⟩ := exists_of_mem_prefixesAfter member
    refine ⟨_, steps_join_ne_nil ?_ last, .slash (by simp) text⟩
    intro other listed
    apply noSlash other
    rw [split, List.append_cons]
    exact List.mem_append_left _ listed
  · rw [prefixes]
    exact pairwise_prefixesAfter fun _ => noSlash_of_mem_pieces

theorem ne_empty_of_mem_prefixes {upper lower : Path} (member : upper ∈ lower.prefixes) :
    upper.text ≠ "" := by
  have later {before : String} {pieces : List String}
      (member : upper ∈ prefixesAfter before pieces) : upper.text ≠ "" := by
    obtain ⟨front, piece, back, -, counts, text⟩ := exists_of_mem_prefixesAfter member
    simp [text, join_ne_empty counts]
  rcases lower.prefixes_cases with ⟨rest, -, prefixes⟩ | ⟨pieces, -, prefixes⟩ | prefixes
  · rw [prefixes, List.mem_cons] at member
    rcases member with rfl | member
    · simp
    · exact later member
  · rw [prefixes, List.mem_cons] at member
    rcases member with rfl | member
    · simp
    · exact later member
  · rw [prefixes] at member
    exact later member

/-- **The parent of a path** is the empty path, or it is a prefix that leaves at least one step of
the path out. -/
theorem initialPart_of_parent? {path parent : Path} (found : path.parent? = some parent) :
    parent = ⟨""⟩ ∨
      parent ∈ path.prefixes ∧ ∃ more, more ≠ [] ∧ parent.InitialPart path more := by
  unfold parent? at found
  split at found
  · next last shorter others reversed =>
      right
      obtain rfl : shorter = parent := Option.some.inj found
      have prefixes : path.prefixes = others.reverse ++ [shorter, last] := by
        rw [← List.reverse_reverse path.prefixes, reversed]
        simp
      obtain ⟨further, part⟩ := @initialPart_of_mem_prefixes last path
        (by rw [prefixes]; simp)
      -- The last prefix may stop short of the path, but the one before it stops a step earlier.
      have pairs := path.pairwise_prefixes
      rw [prefixes, List.pairwise_append] at pairs
      obtain ⟨more, goesOn, above⟩ := (List.pairwise_cons.mp pairs.2.1).1 last (by simp)
      exact ⟨by simp [prefixes], more ++ further, by simp [goesOn], above.trans part⟩
  · left
    split at found
    · cases found
    · exact (Option.some.inj found).symm
  · cases found

end RecordMapper.Path
