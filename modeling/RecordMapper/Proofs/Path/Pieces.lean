import RecordMapper.FileTree
import RecordMapper.Proofs.Text.Split

/-!
# The pieces of paths

A path is its pieces with slashes between them, in both directions (`Path.join_pieces`,
`Path.pieces_join`), and the steps of two paths with a slash between them are the steps of both
(`FileTree.steps_append`).
-/

namespace RecordMapper

namespace Path

theorem noSlash_of_mem_pieces {path : Path} {piece : String} (member : piece ∈ path.pieces) :
    '/' ∉ piece.toList := by
  obtain ⟨part, listed, rfl⟩ := List.mem_map.mp member
  rw [String.toList_ofList]
  exact Text.not_mem_of_mem_splitOn listed

/-- What stands behind a text does not decide whether it is absolute. -/
theorem isAbsolute_append {text : String} (nonempty : text ≠ "") (rest : String) :
    (⟨text ++ rest⟩ : Path).isAbsolute = (⟨text⟩ : Path).isAbsolute := by
  obtain ⟨first, others, spelled⟩ := List.exists_cons_of_ne_nil (l := text.toList)
    (by simpa using nonempty)
  rw [isAbsolute, isAbsolute, String.toList_append, spelled, List.cons_append, List.head?_cons,
    List.head?_cons]

theorem exists_of_endsInSlash {text : String} (slash : text.toList.getLast? = some '/') :
    ∃ front, text = front ++ "/" := by
  obtain ⟨front, spelled⟩ := List.getLast?_eq_some_iff.mp slash
  refine ⟨String.ofList front, String.toList_inj.mp ?_⟩
  rw [spelled, String.toList_append, String.toList_ofList]
  rfl

theorem pieces_ne_nil (path : Path) : path.pieces ≠ [] := by
  simp [pieces]

/-- The pieces of a path, with slashes between them, are its text. -/
theorem join_pieces (path : Path) : "/".intercalate path.pieces = path.text :=
  Text.join_split rfl path.text

/-- Pieces without slashes are those of the path that they make up. -/
theorem pieces_join {pieces : List String} (noSlash : ∀ piece ∈ pieces, '/' ∉ piece.toList)
    (nonempty : pieces ≠ []) : (⟨"/".intercalate pieces⟩ : Path).pieces = pieces :=
  Text.split_join rfl noSlash nonempty

/-- The pieces of two paths with a slash between them are the pieces of both. -/
theorem pieces_append (before after : String) :
    (⟨before ++ "/" ++ after⟩ : Path).pieces =
      (⟨before⟩ : Path).pieces ++ (⟨after⟩ : Path).pieces :=
  Text.split_append rfl before after

end Path

namespace FileTree

theorem steps_append (before after : String) :
    steps ⟨before ++ "/" ++ after⟩ = steps ⟨before⟩ ++ steps ⟨after⟩ := by
  rw [steps, Path.pieces_append, List.filter_append]
  rfl

/-- The steps of joined pieces are those of them that are not empty. -/
theorem steps_join {pieces : List String} (noSlash : ∀ piece ∈ pieces, '/' ∉ piece.toList)
    (nonempty : pieces ≠ []) :
    steps ⟨"/".intercalate pieces⟩ = pieces.filter fun piece => piece ≠ "" := by
  rw [steps, Path.pieces_join noSlash nonempty]

end FileTree

end RecordMapper
