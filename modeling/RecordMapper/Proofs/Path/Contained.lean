import RecordMapper.Proofs.Path.Components

/-!
# Output paths below the root

A package can be any text. Between its dots there can be slashes but no dots, so nothing in it leads
up, and only a slash at the start of one of its parts can lead away from the root. So an output path
either goes on from the root through ordinary names to the file, or it is absolute and the same for
every root (`outputPathBelow_contained`).
-/

namespace RecordMapper

open FileTree

/-- The pieces of a package between its dots, without the empty ones. -/
def packageParts (package : String) : List String :=
  (QualifiedName.segments package).filter fun segment => !segment.isEmpty

/-- The names between the dots and slashes of a package, and the name of the file. -/
def namesBelow (package fileName : String) : List String :=
  (packageParts package).flatMap (fun part => steps ⟨part⟩) ++ [generatedName fileName]

namespace Path

variable {path : Path}

/-! ## Paths without dots -/

theorem noDot_of_mem_pieces (noDot : '.' ∉ path.text.toList) {piece : String}
    (member : piece ∈ path.pieces) : '.' ∉ piece.toList := by
  obtain ⟨part, listed, rfl⟩ := List.mem_map.mp member
  rw [String.toList_ofList]
  exact fun inside => noDot (Text.mem_of_mem_part listed inside)

/-- Without dots there is neither a step that stays nor one that leads up. -/
theorem filterMap_component?_of_noDot (noDot : '.' ∉ path.text.toList) :
    path.pieces.filterMap component? = (steps path).map .name := by
  rw [steps, ← List.filterMap_eq_filter, List.map_filterMap]
  apply List.filterMap_congr
  intro piece member
  have differs {other : String} (dot : '.' ∈ other.toList) : piece ≠ other := by
    rintro rfl
    exact noDot_of_mem_pieces noDot member dot
  by_cases empty : piece = ""
  · simp [component?, Option.guard, empty]
  · simp [component?, Option.guard, empty, @differs "." (by decide), @differs ".." (by decide)]

theorem leading_of_noDot (noDot : '.' ∉ path.text.toList) (relative : path.isAbsolute = false) :
    path.leading = [] := by
  have noDotFirst : path.pieces.head? ≠ some "." := by
    intro first
    exact noDot_of_mem_pieces noDot (List.mem_of_mem_head? first) (by decide)
  simp [leading, relative, noDotFirst]

end Path

/-! ## Output paths -/

theorem outputPath_eq_push (package fileName : String) :
    outputPath package fileName =
      ((packageParts package).foldl Path.push ⟨""⟩).push (generatedName fileName) :=
  rfl

theorem noDot_of_mem_packageParts {package part : String} (member : part ∈ packageParts package) :
    '.' ∉ part.toList := by
  obtain ⟨chars, listed, rfl⟩ := List.mem_map.mp (List.mem_filter.mp member).1
  rw [String.toList_ofList]
  exact Text.not_mem_of_mem_splitOn listed

section

variable {package fileName : String} (validFile : FileName.fault? fileName = none)
include validFile

/-- An output path is absolute if one of the parts of the package is. -/
theorem isAbsolute_outputPath :
    (outputPath package fileName).isAbsolute =
      (packageParts package).any fun part => (⟨part⟩ : Path).isAbsolute := by
  have relative : (⟨generatedName fileName⟩ : Path).isAbsolute = false :=
    Path.isAbsolute_eq_false_of_leading (Path.leading_plain (plainName_generatedName validFile))
  rw [outputPath_eq_push, Path.isAbsolute_push, Path.isAbsolute_foldl_push, relative, Bool.or_false]
  rfl

variable (inside : ∀ part ∈ packageParts package, (⟨part⟩ : Path).isAbsolute = false)
include inside

theorem components_outputPath :
    (outputPath package fileName).components = (namesBelow package fileName).map .name := by
  have plain := plainName_generatedName validFile
  have leading : ∀ part ∈ packageParts package, (⟨part⟩ : Path).leading = [] :=
    fun part member => Path.leading_of_noDot (noDot_of_mem_packageParts member) (inside part member)
  have named : (packageParts package).flatMap (fun part => (⟨part⟩ : Path).components) =
      ((packageParts package).flatMap fun part => steps ⟨part⟩).map .name := by
    rw [List.map_flatMap]
    apply List.flatMap_congr
    intro part member
    rw [Path.components_of_leading (leading part member),
      Path.filterMap_component?_of_noDot (noDot_of_mem_packageParts member)]
  rw [outputPath_eq_push, Path.components_push (Path.leading_plain plain),
    Path.components_foldl_push leading, named, Path.components_plain plain, namesBelow,
    List.map_append]
  rfl

/-- Below a root, an output path goes on with the names of the package and of the file. -/
theorem components_outputPathBelow (root : Path) :
    (outputPathBelow root package fileName).components =
      root.components ++ (namesBelow package fileName).map .name := by
  have named := components_outputPath validFile inside
  have relative := Path.leading_eq_nil_of_components named
  rw [← named]
  exact Path.components_push relative

end

/-- **An output path stays below the root, or it does not depend on the root.** If no part of the
package begins with a slash, it has the components of the root and then some ordinary names, the
last of which is the name of the file. Otherwise it is absolute and the same for every root. -/
theorem outputPathBelow_contained (package : String) {fileName : String}
    (validFile : FileName.fault? fileName = none) :
    (∀ part ∈ packageParts package, part.toList.head? ≠ some '/') ∧
        (namesBelow package fileName).getLast? = some (fileName ++ ".kt") ∧
        (∀ name ∈ namesBelow package fileName, OrdinaryName name) ∧
        (∀ root, (outputPathBelow root package fileName).components =
          root.components ++ (namesBelow package fileName).map .name) ∨
      (∃ part ∈ packageParts package, part.toList.head? = some '/') ∧
        ∃ path : Path, path.isAbsolute = true ∧
          ∀ root, outputPathBelow root package fileName = path := by
  by_cases inside : ∀ part ∈ packageParts package, part.toList.head? ≠ some '/'
  · left
    have relative : ∀ part ∈ packageParts package, (⟨part⟩ : Path).isAbsolute = false :=
      fun part member => decide_eq_false (inside part member)
    refine ⟨inside, ?_, ?_, components_outputPathBelow validFile relative⟩
    · rw [namesBelow, List.getLast?_concat, generatedName_eq]
    · intro name member
      apply @Path.ordinary_of_mem_components (outputPath package fileName)
      rw [components_outputPath validFile relative]
      exact List.mem_map_of_mem member
  · right
    obtain ⟨part, member, slash⟩ : ∃ part ∈ packageParts package, part.toList.head? = some '/' := by
      simpa using inside
    have absolute : (outputPath package fileName).isAbsolute = true := by
      rw [isAbsolute_outputPath validFile, List.any_eq_true]
      exact ⟨part, member, decide_eq_true slash⟩
    exact ⟨⟨part, member, slash⟩, _, absolute, fun root => Path.push_of_isAbsolute absolute⟩

/-- Slashes inside the parts of a package lead further down. A slash at the start of one leads away
from every root. -/
theorem outputPathBelow_contained_slashes :
    FileName.fault? "Mappers" = none ∧
      (∀ root, (outputPathBelow root "a/b..c//d" "Mappers").components = root.components ++
        [.name "a", .name "b", .name "c", .name "d", .name "Mappers.kt"]) ∧
      ∀ root, outputPathBelow root "a./b" "Mappers" = ⟨"/b/Mappers.kt"⟩ := by
  have valid : FileName.fault? "Mappers" = none := by decide +kernel
  refine ⟨valid, ?_, ?_⟩
  · rcases outputPathBelow_contained "a/b..c//d" valid with
      ⟨-, -, -, below⟩ | ⟨⟨part, member, slash⟩, -⟩
    · exact below
    · have inside : (packageParts "a/b..c//d").all (·.toList.head? ≠ some '/') = true := by decide
      exact absurd slash (of_decide_eq_true (List.all_eq_true.mp inside part member))
  · rcases outputPathBelow_contained "a./b" valid with ⟨inside, -⟩ | ⟨-, path, -, same⟩
    · exact absurd rfl (inside "/b" (by decide))
    · intro root
      rw [same root, ← same ⟨""⟩]
      rfl

end RecordMapper
