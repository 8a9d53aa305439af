import RecordMapper.Proofs.MappingFunction.Readable
import RecordMapper.Proofs.Options.Reachable
import RecordMapper.Proofs.Run.Writing

/-!
# The text of a generated file

A generated file tells the package it is in and every function that was written, with all names,
types, defaults and arguments (`Manifest.package_functions_of_written`). The texts of declarations
are arbitrary, and nothing is escaped; but only names that are valid and types that resolve come to
be written (`Manifest.wellFormed_of_mem_functions`).
-/

namespace RecordMapper

open RecordMapper.Text

namespace Manifest

/-- The chunks that a run writes into a sink that never fails, in order. -/
def written (manifest : Manifest) (options : Options) : List String :=
  ((manifest.run options (.ofActions .recording)).run []).2

theorem written_eq (manifest : Manifest) (options : Options) (marked : manifest.candidates ≠ []) :
    manifest.written options = manifest.chunks options := by
  rw [written, manifest.run_ofActions options .recording marked]
  change ((SinkActions.recording.writeFile options.package options.fileName
    (manifest.chunks options)).run []).2 = _
  rw [SinkActions.run_recording]
  rfl

/-- The text of a file, character by character: the header, then one function after the other. -/
theorem toList_join_chunks (manifest : Manifest) (options : Options) :
    (String.join (manifest.chunks options)).toList =
      "package ".toList ++ (options.package.toList ++ '\n' :: '\n' ::
        ((manifest.functions options.eraseGenerics).flatMap
          (fun function => function.text.toList) ++ [])) := by
  have blankLine : "\n\n".toList = ['\n', '\n'] := rfl
  simp only [chunks, fileHeader, String.toList_join, String.toList_append, List.flatMap_cons,
    List.flatMap_map, blankLine, List.append_assoc, List.cons_append, List.nil_append,
    List.append_nil]

/-- **A generated file tells what was written.** If two runs with any declarations and any options
that the setters lead to write the same text, then they have the same package and the same
functions, in the same order. -/
theorem package_functions_of_written {first second : Manifest} {options others : Options}
    (marked : first.candidates ≠ []) (otherMarked : second.candidates ≠ [])
    (reachable : options.Reachable) (otherReachable : others.Reachable)
    (same : String.join (first.written options) = String.join (second.written others)) :
    options.package = others.package ∧
      first.functions options.eraseGenerics = second.functions others.eraseGenerics := by
  have texts := congrArg String.toList same
  rw [first.written_eq options marked, second.written_eq others otherMarked,
    toList_join_chunks, toList_join_chunks] at texts
  obtain ⟨packages, rests⟩ := eq_of_append_stop
    (QualifiedName.not_mem reachable.valid.package (by decide))
    (QualifiedName.not_mem otherReachable.valid.package (by decide))
    (List.append_cancel_left texts)
  -- The header ends at a line break that the package cannot hold. Each function begins with the
  -- same letter, which tells where the list of functions ends.
  have begins (function : MappingFunction) : function.text.toList.head? = some 'i' := by
    rw [MappingFunction.toList_text]
    rfl
  obtain ⟨functions, -⟩ := MappingFunction.readable.flatMap begins
    (fun _ member => first.wellFormed_of_mem_functions member)
    (fun _ member => second.wellFormed_of_mem_functions member)
    (by simp) (by simp) (List.cons.inj rests).2
  exact ⟨String.toList_inj.mp packages, functions⟩

/-- The order of the declarations and the name of the file do not show in the text, so two runs that
differ in them have to agree in all that shows. -/
theorem package_functions_of_written_reversed :
    Options.default.package = (⟨"ron", "Mappers", false⟩ : Options).package ∧
      sample.functions false = (ofDeclarations [sampleTarget, sampleOrigin]).functions false := by
  have renamed : Options.Reachable ⟨"ron", "Mappers", false⟩ :=
    @Options.Reachable.setFileName .default _ " Mappers" .default (by rfl)
  have reversed : (ofDeclarations [sampleTarget, sampleOrigin]).candidates ≠ [] := by
    simp [candidates, Declaration.candidates, ofDeclarations, sampleOrigin]
  exact package_functions_of_written candidates_sample reversed .default renamed (by rfl)

end Manifest

end RecordMapper
