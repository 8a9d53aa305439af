import RecordMapper.OutputPath
import RecordMapper.Proofs.Name.Characters
import RecordMapper.Proofs.Path.Prefixes

/-!
# The last step of an output path

Whatever the root and the package are, the last step to an output file is its file name with the
extension (`outputPathBelow_text`). So the path of an output ends in a name and not in a slash.
-/

namespace RecordMapper

open FileTree

/-- A text in front of a last piece: it is empty or ends in a slash. -/
def Path.Leads (before : String) : Prop :=
  before = "" ∨ ∃ front, before = front ++ "/"

/-- Pushing puts something in front of a part that it can be told from. -/
theorem Path.push_text (base : Path) (part : String) :
    ∃ before, Leads before ∧ (base.push part).text = before ++ part := by
  unfold push
  split
  · exact ⟨"", .inl rfl, by simp⟩
  · split
    · next ends =>
        refine ⟨base.text, ?_, rfl⟩
        rcases Bool.or_eq_true_iff.mp ends with empty | slash
        · exact .inl (by simpa using empty)
        · exact .inr (exists_of_endsInSlash (of_decide_eq_true slash))
    · exact ⟨base.text ++ "/", .inr ⟨base.text, rfl⟩, rfl⟩

/-- The name of a generated file, with its extension. -/
def generatedName (fileName : String) : String :=
  fileName ++ "." ++ generatedExtension

theorem generatedName_eq (fileName : String) : generatedName fileName = fileName ++ ".kt" := by
  rw [generatedName, String.append_assoc]
  rfl

/-- Pushing a path with a last piece leaves that piece the last one. -/
theorem Path.Leads.append {first second : String} (one : Leads first) (two : Leads second) :
    Leads (first ++ second) := by
  rcases two with rfl | ⟨front, rfl⟩
  · rwa [String.append_empty]
  · exact .inr ⟨first ++ front, by rw [String.append_assoc]⟩

/-- A last piece without slashes is the last of the pieces. -/
theorem Path.Leads.pieces {before name : String} (leads : Leads before)
    (noSlash : '/' ∉ name.toList) :
    ∃ front, (⟨before ++ name⟩ : Path).pieces = front ++ [name] := by
  have alone : (⟨name⟩ : Path).pieces = [name] := by
    rw [Path.pieces, List.splitOn_eq_singleton noSlash, List.map_singleton, String.ofList_toList]
  rcases leads with rfl | ⟨front, rfl⟩
  · exact ⟨[], by rw [String.empty_append, alone, List.nil_append]⟩
  · exact ⟨(⟨front⟩ : Path).pieces, by rw [pieces_append, alone]⟩

/-- **An output path ends in the name of the file**, below any root. -/
theorem outputPathBelow_text (root : Path) (package fileName : String) :
    ∃ before, Path.Leads before ∧
      (outputPathBelow root package fileName).text = before ++ generatedName fileName := by
  obtain ⟨inner, innerLeads, innerText⟩ :=
    (((QualifiedName.segments package).filter fun segment => !segment.isEmpty).foldl
      Path.push ⟨""⟩).push_text (generatedName fileName)
  obtain ⟨outer, outerLeads, outerText⟩ := root.push_text (inner ++ generatedName fileName)
  refine ⟨outer ++ inner, outerLeads.append innerLeads, ?_⟩
  rw [String.append_assoc, ← outerText, ← innerText]
  rfl

theorem endsInSlash_outputPathBelow (root : Path) (package fileName : String) :
    endsInSlash (outputPathBelow root package fileName) = false := by
  obtain ⟨before, -, text⟩ := outputPathBelow_text root package fileName
  have extension : generatedExtension.toList = ['k', 't'] := rfl
  rw [endsInSlash, text, generatedName]
  simp [extension]

section

variable {fileName : String} (valid : FileName.fault? fileName = none)
include valid

theorem noSlash_generatedName : '/' ∉ (generatedName fileName).toList := by
  have extension : ".".toList ++ generatedExtension.toList = ['.', 'k', 't'] := rfl
  rw [generatedName, String.toList_append, String.toList_append, List.append_assoc, extension,
    List.mem_append, not_or]
  exact ⟨FileName.noSlash valid, by decide⟩

/-- The name of a generated file is a step to a name. -/
theorem isName_generatedName :
    generatedName fileName ≠ "" ∧ isName (generatedName fileName) = true := by
  obtain ⟨first, rest, spelled⟩ := List.exists_cons_of_ne_nil (l := fileName.toList)
    (by simpa using FileName.ne_empty valid)
  have noDot : first ≠ '.' := by
    intro same
    subst same
    exact FileName.head?_ne_dot valid (by rw [spelled, List.head?_cons])
  have starts : (generatedName fileName).toList.head? = some first := by
    simp [generatedName, spelled]
  have differs {other : String} (begins : other.toList.head? ≠ some first) :
      generatedName fileName ≠ other := by
    intro same
    subst same
    exact begins starts
  have dot : generatedName fileName ≠ "." := differs (by simpa using noDot.symm)
  have dots : generatedName fileName ≠ ".." := differs (by simpa using noDot.symm)
  exact ⟨differs (by simp), by simp [isName, dot, dots]⟩

/-- The last step of an output path is the name of the file. -/
theorem steps_outputPathBelow (root : Path) (package : String) :
    ∃ front, steps (outputPathBelow root package fileName) = front ++ [generatedName fileName] := by
  obtain ⟨before, leads, text⟩ := outputPathBelow_text root package fileName
  obtain ⟨front, pieces⟩ := leads.pieces (noSlash_generatedName valid)
  rw [← text] at pieces
  refine ⟨front.filter fun piece => piece ≠ "", ?_⟩
  rw [steps, pieces, List.filter_append]
  simp [(isName_generatedName valid).1]

theorem endsInName_outputPathBelow (root : Path) (package : String) :
    endsInName (outputPathBelow root package fileName) = true := by
  obtain ⟨front, steps⟩ := steps_outputPathBelow valid root package
  rw [endsInName, steps, List.getLast?_append]
  simp [(isName_generatedName valid).2]

end

end RecordMapper
