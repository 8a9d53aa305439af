import RecordMapper.Proofs.Declaration.RoundTrip
import RecordMapper.Proofs.Manifest.Names

/-!
# Manifests that are written and read

A manifest that passes the checks of the version and of the names is read from what is written about
it (`Manifest.read_written`). A manifest that was read passes these checks
(`Manifest.acceptable_of_read`), so writing it and reading it again changes nothing.
-/

namespace RecordMapper.Manifest

open RecordMapper.Json RecordMapper.Text

variable {manifest : Manifest}

/-- A manifest that passes the checks of the version and of the names. -/
structure Acceptable (manifest : Manifest) : Prop where
  version : trim manifest.schemaVersion = currentVersion
  named : ∀ declaration ∈ manifest.declarations, isBlankText declaration.qualifiedName = false
  distinct : manifest.Distinct

/-! ## Reading what is written -/

/-- What is written about a manifest, in order. -/
theorem sorted_toJson (manifest : Manifest) :
    manifest.toJson.sorted = .object
      [("declarations", (Json.array (manifest.declarations.map Declaration.toJson)).sorted),
        ("schema_version", .string manifest.schemaVersion)] :=
  rfl

/-- A manifest is read back, apart from the checks. -/
theorem ofJson_sorted_toJson (manifest : Manifest) : ofJson manifest.toJson.sorted = .ok manifest := by
  have declarations := readList_sorted Declaration.ofJson_sorted_toJson manifest.declarations
  have first : take ⟨none, none⟩ "declarations"
      (Json.array (manifest.declarations.map Declaration.toJson)).sorted =
        .ok ⟨none, some manifest.declarations⟩ := by
    simp only [take, declarations]
    rfl
  have last : TakesAll take ⟨none, some manifest.declarations⟩
      [("schema_version", .string manifest.schemaVersion)]
      ⟨some manifest.schemaVersion, some manifest.declarations⟩ := rfl
  rw [sorted_toJson]
  exact (TakesAll.cons first last).read rfl

/-- A document is accepted if it holds what is written about an acceptable manifest. -/
theorem ofDocument_sorted_toJson (acceptable : manifest.Acceptable) :
    ofDocument manifest.toJson.sorted = .ok manifest :=
  ofDocument_eq_ok_iff.mpr ⟨⟨_, rfl, acceptable.version⟩, manifest.ofJson_sorted_toJson,
    nameFault?_eq_none_iff.mpr ⟨acceptable.named, acceptable.distinct⟩⟩

theorem textual_toJson (manifest : Manifest) : manifest.toJson.Textual :=
  .object (List.forall_mem_cons.mpr ⟨.string _,
    List.forall_mem_singleton.mpr (.map Declaration.textual_toJson _)⟩)

/-! ## Manifests that were read -/

theorem schemaVersion?_of_take {before after : Parts} {key : String} {value : Json}
    (other : key ≠ "schema_version") (taken : take before key value = .ok after) :
    after.schemaVersion? = before.schemaVersion? := by
  rw [take, if_neg other] at taken
  by_cases declarations : key = "declarations"
  · rw [if_pos declarations, bind_eq_ok_iff] at taken
    obtain ⟨found, -, taken⟩ := taken
    obtain rfl := Except.ok.inj taken
    rfl
  · rw [if_neg declarations] at taken
    obtain rfl := Except.ok.inj taken
    rfl

/-- Entries without a version leave the version that was found. -/
theorem schemaVersion?_of_absent {before after : Parts} {entries : List (String × Json)}
    (absent : ∀ entry ∈ entries, entry.1 ≠ "schema_version")
    (taken : TakesAll take before entries after) : after.schemaVersion? = before.schemaVersion? := by
  induction entries generalizing before with
  | nil =>
      obtain rfl := Except.ok.inj taken
      rfl
  | cons entry rest ih =>
      obtain ⟨own, others⟩ := List.forall_mem_cons.mp absent
      obtain ⟨middle, first, taken⟩ := takesAll_cons_iff.mp taken
      rw [ih others taken, schemaVersion?_of_take own first]

/-- The version that is found among entries with ascending keys is the first one with its key. -/
theorem schemaVersion?_of_lookup {before after : Parts} {entries : List (String × Json)}
    {version : String} (keys : entries.Pairwise fun entry later => entry.1 < later.1)
    (found : lookup? "schema_version" entries = some (.string version))
    (taken : TakesAll take before entries after) : after.schemaVersion? = some version := by
  induction entries generalizing before with
  | nil => cases found
  | cons entry rest ih =>
      obtain ⟨key, value⟩ := entry
      obtain ⟨ascending, keys⟩ := List.pairwise_cons.mp keys
      obtain ⟨middle, first, taken⟩ := takesAll_cons_iff.mp taken
      by_cases own : key = "schema_version"
      · subst own
        obtain rfl : value = .string version := by simpa [lookup?] using found
        have absent : ∀ entry ∈ rest, entry.1 ≠ "schema_version" :=
          fun entry member => (ascending entry member).ne'
        obtain rfl := Except.ok.inj first
        exact schemaVersion?_of_absent absent taken
      · refine ih keys ?_ taken
        simpa [lookup?, own] using found

/-- A manifest has the version that was found of it. -/
theorem schemaVersion?_of_ofParts {missing : String → ShapeFault} {parts : Parts}
    (made : ofParts missing parts = .ok manifest) :
    parts.schemaVersion? = some manifest.schemaVersion := by
  obtain ⟨version?, declarations?⟩ := parts
  cases version? with
  | none => cases made
  | some version =>
      cases declarations? with
      | none => cases made
      | some declarations =>
          obtain rfl := Except.ok.inj made
          rfl

/-- A manifest has the version that is looked up before it is read, if each key occurs once. -/
theorem schemaVersion_of_ofJson {document : Json} (ordered : document.Ordered) {version : String}
    (found : version? document = some version) (parsed : ofJson document = .ok manifest) :
    manifest.schemaVersion = version := by
  cases ordered with
  | @object entries keys _ =>
      rw [ofJson, RecordForm.read, bind_eq_ok_iff] at parsed
      obtain ⟨parts, taken, made⟩ := parsed
      have looked : lookup? "schema_version" entries = some (.string version) := by
        unfold version? at found
        dsimp only at found
        split at found
        · next held same =>
            rw [same, Option.some.inj found]
        · cases found
      have told := schemaVersion?_of_lookup keys looked taken
      rw [schemaVersion?_of_ofParts made] at told
      exact Option.some.inj told
  | _ => cases found

/-- **A manifest that was read is acceptable.** -/
theorem acceptable_of_read {bytes : List UInt8} (accepted : read bytes = .ok manifest) :
    manifest.Acceptable := by
  rw [read] at accepted
  cases document : Json.read bytes with
  | error fault => simp [document] at accepted
  | ok value =>
      simp only [document, ofDocument_eq_ok_iff, nameFault?_eq_none_iff] at accepted
      obtain ⟨⟨version, found, current⟩, parsed, named, distinct⟩ := accepted
      refine ⟨?_, named, distinct⟩
      rw [schemaVersion_of_ofJson (ordered_of_read document) found parsed]
      exact current

/-! ## The round trip -/

theorem read_of_document {bytes : List UInt8} (acceptable : manifest.Acceptable)
    (document : Json.read bytes = .ok manifest.toJson.sorted) : read bytes = .ok manifest := by
  rw [read, document]
  exact ofDocument_sorted_toJson acceptable

/-- A manifest that is printed is read, unless it is too deep. -/
theorem read_of_pretty (acceptable : manifest.Acceptable)
    (shallow : manifest.toJson.depth ≤ maxDepth) :
    read (Utf8.encode manifest.toJson.pretty) = .ok manifest :=
  read_of_document acceptable (read_pretty manifest.textual_toJson shallow)

/-- **The round trip of a manifest.** A manifest of the current version whose names are neither blank
nor repeated is read from every text that holds what is written about it, and so from its printed
text, unless that opens too many arrays and objects inside each other. A manifest that was read from
anywhere is such a manifest. -/
theorem read_written (manifest : Manifest) :
    (trim manifest.schemaVersion = currentVersion →
      (∀ declaration ∈ manifest.declarations, isBlankText declaration.qualifiedName = false) →
      manifest.Distinct →
      (∀ bytes, Json.read bytes = .ok manifest.toJson.sorted → read bytes = .ok manifest) ∧
      (manifest.toJson.depth ≤ maxDepth →
        read (Utf8.encode manifest.toJson.pretty) = .ok manifest)) ∧
    ∀ original, read original = .ok manifest →
      (∀ bytes, Json.read bytes = .ok manifest.toJson.sorted → read bytes = .ok manifest) ∧
      (manifest.toJson.depth ≤ maxDepth →
        read (Utf8.encode manifest.toJson.pretty) = .ok manifest) := by
  have back (acceptable : manifest.Acceptable) :
      (∀ bytes, Json.read bytes = .ok manifest.toJson.sorted → read bytes = .ok manifest) ∧
      (manifest.toJson.depth ≤ maxDepth →
        read (Utf8.encode manifest.toJson.pretty) = .ok manifest) :=
    ⟨fun _ => read_of_document acceptable, read_of_pretty acceptable⟩
  exact ⟨fun version named distinct => back ⟨version, named, distinct⟩,
    fun _ accepted => back (acceptable_of_read accepted)⟩

/-- A manifest with a blank after its version. Its declarations have present and absent names, types
and receivers, and a type whose arguments are of all forms. -/
def sampleNested : Manifest where
  schemaVersion := currentVersion ++ " "
  declarations :=
    [{ qualifiedName := "app.Box"
       simpleName? := some "Box"
       kind := .annotationClass
       modifiers := ["data"]
       typeParams := ["T"]
       properties :=
        [⟨"map", some ⟨"kotlin.Map", [.shorthand "*", .shorthand "a \"b\"", .projection .star none,
            .projection .inward (some ⟨"kotlin.List", [.projection .outward none], true⟩)], false⟩,
            none, false⟩,
          ⟨"size", none, some ⟨"kotlin.Any", [], false⟩, true⟩]
       mappers := ["app.View", "app.View"] },
     { qualifiedName := "app.View"
       simpleName? := none
       kind := .object
       modifiers := []
       typeParams := []
       properties := []
       mappers := [] }]

/-- The sample is read from its printed text, and its printed text from that again. -/
theorem read_written_nested :
    read (Utf8.encode sampleNested.toJson.pretty) = .ok sampleNested := by
  have version : trim sampleNested.schemaVersion = currentVersion := by decide +kernel
  have named : ∀ declaration ∈ sampleNested.declarations,
      isBlankText declaration.qualifiedName = false := by decide +kernel
  have distinct : sampleNested.Distinct := by
    change (List.map _ _).Nodup
    decide +kernel
  have shallow : sampleNested.toJson.depth ≤ maxDepth := by decide +kernel
  obtain ⟨written, again⟩ := sampleNested.read_written
  exact (again _ ((written version named distinct).2 shallow)).2 shallow

end RecordMapper.Manifest
