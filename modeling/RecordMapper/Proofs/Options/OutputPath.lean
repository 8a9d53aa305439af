import RecordMapper.Proofs.Options.Steps
import RecordMapper.Proofs.Path.Components
import RecordMapper.Run

/-!
# The output paths of options

Whatever steps lead to the options of a run, its output path goes from the output root through the
segments of the package to the file (`Options.outputPath_after`). As segments hold no dots and no slashes,
they can be told from the path, and so can the name of the file. So two runs write to the same path
exactly if they have the same package and the same file name.
-/

namespace RecordMapper

/-- The names along an output path tell the package and the file name. -/
theorem outputNames_inj {package fileName other otherFile : String} :
    outputNames package fileName = outputNames other otherFile ↔
      package = other ∧ fileName = otherFile := by
  constructor
  · intro same
    obtain ⟨segments, files⟩ := List.append_inj' same rfl
    constructor
    · rw [← QualifiedName.join_segments package, segments, QualifiedName.join_segments]
    · rw [List.singleton_inj, generatedName_eq, generatedName_eq] at files
      exact (String.append_left_inj ".kt").mp files
  · rintro ⟨rfl, rfl⟩
    rfl

namespace Options

namespace Valid

variable {options other : Options}

theorem outputPath_eq (valid : options.Valid) :
    options.outputPath = ⟨"/".intercalate (outputNames options.package options.fileName)⟩ :=
  RecordMapper.outputPath_eq valid.package valid.fileName

theorem plainName_of_mem (valid : options.Valid) :
    ∀ name ∈ outputNames options.package options.fileName, PlainName name :=
  plainName_of_mem_outputNames valid.package valid.fileName

theorem isAbsolute_outputPath (valid : options.Valid) : options.outputPath.isAbsolute = false := by
  rw [valid.outputPath_eq]
  exact decide_eq_false (Path.head?_join_ne_slash valid.plainName_of_mem)

theorem components_outputPath (valid : options.Valid) :
    options.outputPath.components = (outputNames options.package options.fileName).map .name := by
  rw [valid.outputPath_eq, Path.components_join valid.plainName_of_mem]

/-- The components of an output path tell the package and the file name. -/
theorem components_outputPath_inj (valid : options.Valid) (otherValid : other.Valid) :
    options.outputPath.components = other.outputPath.components ↔
      options.package = other.package ∧ options.fileName = other.fileName := by
  have injective : Function.Injective Path.Component.name :=
    fun first second same => Path.Component.name.inj same
  rw [valid.components_outputPath, otherValid.components_outputPath,
    (List.map_injective_iff.mpr injective).eq_iff, outputNames_inj]

end Valid

/-- **Output paths of options.** Let options be reached by any steps from the default ones, whether
or not each of the steps succeeds.
* The package is a dotted path of identifiers, and the file name passes its check.
* The output path is relative. Its components are the segments of the package, in order, and then
  the file name with its extension; all of them are ordinary names.
* The output path of other options that are reached by steps is the same, by its components and by
  its spelling, exactly if both the packages and the file names are the same. -/
theorem outputPath_after (steps others : List Step) :
    QualifiedName.Dotted (after steps).package ∧
    FileName.fault? (after steps).fileName = none ∧
    (after steps).outputPath.isAbsolute = false ∧
    (after steps).outputPath.components =
      (QualifiedName.segments (after steps).package ++ [(after steps).fileName ++ ".kt"]).map
        .name ∧
    (∀ name ∈ QualifiedName.segments (after steps).package ++ [(after steps).fileName ++ ".kt"],
      OrdinaryName name) ∧
    ((after steps).outputPath.components = (after others).outputPath.components ↔
      (after steps).package = (after others).package ∧
        (after steps).fileName = (after others).fileName) ∧
    ((after steps).outputPath = (after others).outputPath ↔
      (after steps).package = (after others).package ∧
        (after steps).fileName = (after others).fileName) := by
  have valid := (reachable_after steps).valid
  have components := valid.components_outputPath
  have told := valid.components_outputPath_inj (reachable_after others).valid
  rw [outputNames, generatedName_eq] at components
  refine ⟨QualifiedName.fault?_eq_none_iff_dotted.mp valid.package, valid.fileName,
    valid.isAbsolute_outputPath, components, ?ordinary, told, ?spelled⟩
  case ordinary =>
    intro name member
    apply @Path.ordinary_of_mem_components (after steps).outputPath
    rw [components]
    exact List.mem_map_of_mem member
  case spelled =>
    constructor
    · intro same
      exact told.mp (congrArg Path.components same)
    · rintro ⟨package, fileName⟩
      rw [outputPath, package, fileName, outputPath]

end Options

end RecordMapper
