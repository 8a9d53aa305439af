import RecordMapper.Declaration

/-!
# Manifests

A manifest is a list of declarations with the version of the form it is written in. Each mapper of a
declaration makes one candidate for a mapping function.
-/

namespace RecordMapper

/-- A list of declarations. -/
structure Manifest where
  schemaVersion : String
  declarations : List Declaration
  deriving Repr

/-- An origin declaration and the name of a target, before either is validated. -/
structure Candidate where
  origin : Declaration
  target : String
  deriving Repr

/-- The candidates of one declaration, in mapper order. -/
def Declaration.candidates (declaration : Declaration) : List Candidate :=
  declaration.mappers.map (Candidate.mk declaration)

namespace Manifest

/-- The version of the manifests that are accepted. -/
def currentVersion : String :=
  "modelmap.declarations@0.1.0"

/-- The manifest of the current version with these declarations. -/
def ofDeclarations (declarations : List Declaration) : Manifest :=
  ⟨currentVersion, declarations⟩

/-- The first declaration of this name. -/
def find? (manifest : Manifest) (qualifiedName : String) : Option Declaration :=
  manifest.declarations.find? fun declaration => declaration.qualifiedName = qualifiedName

/-- All candidates: origins in manifest order, and for each the targets in mapper order. -/
def candidates (manifest : Manifest) : List Candidate :=
  manifest.declarations.flatMap (·.candidates)

end Manifest

end RecordMapper
