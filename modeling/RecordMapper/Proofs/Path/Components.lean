import Mathlib.Data.List.Basic
import RecordMapper.Proofs.Path.Below

/-!
# The components of paths

A part that is relative and does not begin with a dot has only components that it has anywhere, so
pushing it adds its components to those of the path (`Path.components_push`). A path is absolute once
an absolute part has been pushed, whatever follows (`Path.isAbsolute_foldl_push`). Each name among
the components of a path is an ordinary one (`Path.ordinary_of_mem_components`).
-/

namespace RecordMapper

/-- A name that is one step down. -/
structure OrdinaryName (name : String) : Prop where
  nonempty : name ≠ ""
  noDot : name ≠ "."
  noDots : name ≠ ".."
  noSlash : '/' ∉ name.toList

namespace Path

variable {base path : Path} {part name : String}

theorem eq_of_component? {piece : String} (shown : component? piece = some (.name name)) :
    piece = name ∧ name ≠ "" ∧ name ≠ "." ∧ name ≠ ".." := by
  unfold component? at shown
  split at shown
  · cases shown
  · next counts =>
      split at shown
      · cases shown
      · next noDots =>
          cases shown
          simp only [Bool.or_eq_true, decide_eq_true_eq, not_or] at counts
          exact ⟨rfl, counts.1, counts.2, noDots⟩

/-! ## Names -/

/-- The start of a path has no name. -/
theorem name_not_mem_leading (path : Path) : .name name ∉ path.leading := by
  unfold leading
  split
  · simp
  · split <;> simp

/-- A name among the components of a path is an ordinary one. -/
theorem ordinary_of_mem_components (member : .name name ∈ path.components) : OrdinaryName name := by
  obtain ⟨piece, listed, shown⟩ := List.mem_filterMap.mp
    ((List.mem_append.mp member).resolve_left path.name_not_mem_leading)
  obtain ⟨rfl, nonempty, noDot, noDots⟩ := eq_of_component? shown
  exact ⟨nonempty, noDot, noDots, noSlash_of_mem_pieces listed⟩

/-- A path that has only names has nothing else at its start. -/
theorem leading_eq_nil_of_components {names : List String}
    (named : path.components = names.map .name) : path.leading = [] := by
  rw [components] at named
  apply List.eq_nil_iff_forall_not_mem.mpr
  intro component member
  have listed : component ∈ names.map .name := by
    rw [← named]
    exact List.mem_append_left _ member
  obtain ⟨name, -, rfl⟩ := List.mem_map.mp listed
  exact path.name_not_mem_leading member

/-! ## Plain names -/

/-- Plain names, with slashes between them, have themselves for components. -/
theorem components_join {names : List String} (plain : ∀ name ∈ names, PlainName name) :
    (⟨"/".intercalate names⟩ : Path).components = names.map .name := by
  cases names with
  | nil => rfl
  | cons first rest =>
      have pieces : (⟨"/".intercalate (first :: rest)⟩ : Path).pieces = first :: rest :=
        pieces_join (fun name member => (plain name member).noSlash) (List.cons_ne_nil first rest)
      have relative : (⟨"/".intercalate (first :: rest)⟩ : Path).isAbsolute = false :=
        decide_eq_false (head?_join_ne_slash plain)
      have noDot : first ≠ "." := by
        rintro rfl
        exact absurd (plain "." List.mem_cons_self).isName (by decide)
      have named : (first :: rest).filterMap component? = (first :: rest).map .name := by
        rw [← List.filterMap_eq_map]
        exact List.filterMap_congr fun name member => component?_plain (plain name member)
      rw [components, leading, relative, pieces, named]
      simp [noDot]

theorem components_plain (plain : PlainName name) : (⟨name⟩ : Path).components = [.name name] := by
  have joined := @components_join [name] (by simpa using plain)
  rwa [String.intercalate_singleton] at joined

theorem leading_plain (plain : PlainName name) : (⟨name⟩ : Path).leading = [] :=
  @leading_eq_nil_of_components _ [name] (components_plain plain)

/-! ## Pushing parts -/

theorem isAbsolute_eq_false_of_leading (relative : path.leading = []) : path.isAbsolute = false := by
  rw [Bool.eq_false_iff]
  intro absolute
  simp [leading, absolute] at relative

theorem components_of_leading (relative : path.leading = []) :
    path.components = path.pieces.filterMap component? := by
  rw [components, relative, List.nil_append]

/-- Behind a slash, a path goes on with the components of the pieces there. -/
theorem components_slash (nonempty : base.text ≠ "") (rest : String) :
    (⟨base.text ++ "/" ++ rest⟩ : Path).components =
      base.components ++ (⟨rest⟩ : Path).pieces.filterMap component? := by
  obtain ⟨first, others, spelled⟩ := List.exists_cons_of_ne_nil base.pieces_ne_nil
  have absolute : (⟨base.text ++ "/" ++ rest⟩ : Path).isAbsolute = base.isAbsolute := by
    rw [String.append_assoc, isAbsolute_append nonempty]
  have leads : (⟨base.text ++ "/" ++ rest⟩ : Path).leading = base.leading := by
    rw [leading, leading, absolute, pieces_append, spelled, List.cons_append, List.head?_cons,
      List.head?_cons]
  rw [components, components, leads, pieces_append, List.filterMap_append, List.append_assoc]

theorem components_root (rest : String) :
    (⟨"/" ++ rest⟩ : Path).components =
      .root :: (⟨rest⟩ : Path).pieces.filterMap component? := by
  have absolute : (⟨"/" ++ rest⟩ : Path).isAbsolute = true := by
    rw [isAbsolute, String.toList_append]
    rfl
  have pieces := pieces_append "" rest
  rw [String.empty_append] at pieces
  rw [components, leading, absolute, pieces, List.filterMap_append]
  rfl

/-- A path that ends in a slash goes on with the components of the pieces behind it. -/
theorem components_after_slash (front rest : String) :
    (⟨front ++ "/" ++ rest⟩ : Path).components =
      (⟨front ++ "/"⟩ : Path).components ++ (⟨rest⟩ : Path).pieces.filterMap component? := by
  by_cases top : front = ""
  · rw [top, String.empty_append, components_root]
    rfl
  · have closed := @components_slash ⟨front⟩ top ""
    rw [String.append_empty] at closed
    rw [@components_slash ⟨front⟩ top, closed, List.append_assoc]
    rfl

/-- **Pushing a part adds its components**, if it is relative and does not begin with a dot. -/
theorem components_push (relative : (⟨part⟩ : Path).leading = []) :
    (base.push part).components = base.components ++ (⟨part⟩ : Path).components := by
  have noSlash : part.toList.head? ≠ some '/' :=
    of_decide_eq_false (isAbsolute_eq_false_of_leading relative)
  rw [components_of_leading relative, push, if_neg noSlash]
  obtain ⟨text⟩ := base
  -- A slash is put in only if the path is not empty and does not end in one already.
  split
  · next ends =>
      rcases Bool.or_eq_true_iff.mp ends with empty | slash
      · obtain rfl : text = "" := by simpa using empty
        rw [String.empty_append, components_of_leading relative]
        rfl
      · obtain ⟨front, rfl⟩ := exists_of_endsInSlash (of_decide_eq_true slash)
        exact components_after_slash front part
  · next unended =>
      refine @components_slash ⟨text⟩ ?_ part
      rintro rfl
      simp at unended

theorem components_foldl_push {parts : List String}
    (relative : ∀ part ∈ parts, (⟨part⟩ : Path).leading = []) :
    (parts.foldl push base).components =
      base.components ++ parts.flatMap fun part => (⟨part⟩ : Path).components := by
  induction parts generalizing base with
  | nil => rw [List.foldl_nil, List.flatMap_nil, List.append_nil]
  | cons part rest ih =>
      rw [List.foldl_cons, ih fun other member => relative other (List.mem_cons_of_mem _ member),
        components_push (relative part List.mem_cons_self), List.flatMap_cons, List.append_assoc]

theorem isAbsolute_push :
    (base.push part).isAbsolute = (base.isAbsolute || (⟨part⟩ : Path).isAbsolute) := by
  obtain ⟨text⟩ := base
  by_cases rooted : part.toList.head? = some '/'
  · rw [push, if_pos rooted]
    simp [isAbsolute, rooted]
  · have relative : (⟨part⟩ : Path).isAbsolute = false := decide_eq_false rooted
    rw [push, if_neg rooted, relative, Bool.or_false]
    by_cases empty : text = ""
    · subst empty
      rw [if_pos (by simp), String.empty_append, relative]
      rfl
    · split
      · exact isAbsolute_append empty part
      · rw [String.append_assoc]
        exact isAbsolute_append empty _

theorem isAbsolute_foldl_push {parts : List String} :
    (parts.foldl push base).isAbsolute =
      (base.isAbsolute || parts.any fun part => (⟨part⟩ : Path).isAbsolute) := by
  induction parts generalizing base with
  | nil => rw [List.foldl_nil, List.any_nil, Bool.or_false]
  | cons part rest ih => rw [List.foldl_cons, ih, isAbsolute_push, List.any_cons, Bool.or_assoc]

/-- An absolute part replaces the path before it. -/
theorem push_of_isAbsolute (absolute : (⟨part⟩ : Path).isAbsolute = true) : base.push part = ⟨part⟩ :=
  if_pos (of_decide_eq_true absolute)

end Path

end RecordMapper
