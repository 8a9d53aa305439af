import RecordMapper.Path
import RecordMapper.Name.Qualified

/-!
# Output paths

A generated file lies in the directory of its package: one directory per segment of the package, and
in it the file name with the extension.
-/

namespace RecordMapper

/-- What the names of generated files end in, after a dot. -/
def generatedExtension : String :=
  "kt"

/-- The path of a generated file below the output root. Empty package segments are skipped. -/
def outputPath (package fileName : String) : Path :=
  let directory := ((QualifiedName.segments package).filter fun segment => !segment.isEmpty).foldl
    Path.push ⟨""⟩
  directory.push (fileName ++ "." ++ generatedExtension)

/-- The path of a generated file below the directory `root`. -/
def outputPathBelow (root : Path) (package fileName : String) : Path :=
  root.push (outputPath package fileName).text

end RecordMapper
