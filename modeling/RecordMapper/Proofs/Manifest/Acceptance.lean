import RecordMapper.Proofs.Manifest.RoundTrip
import RecordMapper.Proofs.Outcome.Emitted

/-!
# Manifests that are accepted

What is read of a manifest file is accepted if no name of a declaration is blank and none stands
twice. If not, the first name that is blank or stands at an earlier place as well is blamed
(`Manifest.firstBadName_of_nameFault?`). In an accepted manifest each name finds the one declaration
that has it (`Manifest.read_accepts_names`).
-/

namespace RecordMapper.Manifest

open RecordMapper.Json RecordMapper.Text

/-- The qualified names of the declarations, in order. -/
def names (manifest : Manifest) : List String :=
  manifest.declarations.map (·.qualifiedName)

/-- Names that are acceptable: none is blank, and none stands twice. -/
structure GoodNames (names : List String) : Prop where
  named : ∀ name ∈ names, isBlankText name = false
  distinct : names.Nodup

/-- The fault of names of which the first one that is not good stands behind `front`. -/
inductive FirstBadName (names : List String) : ManifestFault → Prop
  | blank {front back : List String} {name : String} : names = front ++ name :: back →
      GoodNames front → isBlankText name = true → FirstBadName names (.blankName front.length)
  | repeated {front back : List String} {name : String} {first : Nat} :
      names = front ++ name :: back → GoodNames front → isBlankText name = false →
      front[first]? = some name → FirstBadName names (.duplicateName front.length name first)

/-! ## The check of the names -/

/-- The names in front are remembered with their positions. -/
def Remembers (earlier : List (String × Nat)) (front : List String) : Prop :=
  ∀ name position, earlier.lookup name = some position ↔ front[position]? = some name

section

variable {earlier : List (String × Nat)} {front : List String} {name : String}

/-- A name that is not remembered is new. -/
theorem Remembers.not_mem (remembers : Remembers earlier front)
    (new : earlier.lookup name = none) : name ∉ front := by
  intro listed
  obtain ⟨position, there⟩ := List.mem_iff_getElem?.mp listed
  rw [(remembers name position).mpr there] at new
  cases new

theorem getElem?_concat_eq_some_iff {position : Nat} {other : String} :
    (front ++ [name])[position]? = some other ↔
      front[position]? = some other ∨ position = front.length ∧ name = other := by
  rcases Nat.lt_trichotomy position front.length with before | rfl | behind
  · simp [List.getElem?_append_left before, Nat.ne_of_lt before]
  · simp
  · have outside : front.length + 1 ≤ position := behind
    rw [List.getElem?_eq_none (by simpa using outside),
      List.getElem?_eq_none (Nat.le_of_lt behind)]
    simp [Nat.ne_of_gt behind]

/-- With a new name at the end, it is remembered along with the others. -/
theorem Remembers.concat (remembers : Remembers earlier front)
    (new : earlier.lookup name = none) :
    Remembers ((name, front.length) :: earlier) (front ++ [name]) := by
  intro other position
  rw [getElem?_concat_eq_some_iff, ← remembers other position]
  by_cases same : other = name
  · subst same
    simp [new, eq_comm]
  · have different : (other == name) = false := beq_false_of_ne same
    simp [List.lookup_cons, different, Ne.symm same]

theorem GoodNames.concat (good : GoodNames front) (named : isBlankText name = false)
    (new : name ∉ front) : GoodNames (front ++ [name]) where
  named := by
    intro other listed
    rcases List.mem_append.mp listed with before | last
    · exact good.named other before
    · rw [List.mem_singleton.mp last]
      exact named
  distinct := by
    rw [← List.concat_eq_append]
    exact good.distinct.concat new

end

/-- **The first bad name.** If the check of the names finds a fault, it is that of the first name
that is not good. -/
theorem firstBadName_of_nameFaultAfter {earlier : List (String × Nat)} {front : List String}
    {declarations : List Declaration} {fault : ManifestFault}
    (remembers : Remembers earlier front) (good : GoodNames front)
    (found : nameFaultAfter front.length earlier declarations = some fault) :
    FirstBadName (front ++ declarations.map (·.qualifiedName)) fault := by
  -- The names that were passed are good and remembered; each step moves one name there.
  induction declarations generalizing earlier front with
  | nil => cases found
  | cons declaration rest ih =>
      rw [nameFaultAfter] at found
      cases blank : isBlankText declaration.qualifiedName with
      | true =>
          simp only [blank, if_true, Option.some.injEq] at found
          subst found
          exact .blank rfl good blank
      | false =>
          simp only [blank, Bool.false_eq_true, if_false] at found
          cases lookedUp : earlier.lookup declaration.qualifiedName with
          | some first =>
              simp only [lookedUp, Option.some.injEq] at found
              subst found
              exact .repeated rfl good blank ((remembers _ _).mp lookedUp)
          | none =>
              simp only [lookedUp] at found
              have moved := ih (remembers.concat lookedUp)
                (good.concat blank (remembers.not_mem lookedUp)) (by simpa using found)
              simpa using moved

theorem firstBadName_of_nameFault? {manifest : Manifest} {fault : ManifestFault}
    (found : manifest.nameFault? = some fault) : FirstBadName manifest.names fault := by
  have remembers : Remembers [] [] := by
    intro name position
    simp
  exact firstBadName_of_nameFaultAfter remembers ⟨by simp, .nil⟩ found

/-! ## The place of the first bad name -/

/-- The name at a position is blank, or it stands at an earlier position as well. -/
def OffendsAt (names : List String) (index : Nat) : Prop :=
  ∃ name, names[index]? = some name ∧ (isBlankText name = true ∨ name ∈ names.take index)

/-- The fault is about the first name that is blank or stands earlier as well, and tells which of
the two it is. -/
structure BlamesAt (names : List String) (fault : ManifestFault) (index : Nat) : Prop where
  offends : OffendsAt names index
  first : ∀ earlier, earlier < index → ¬OffendsAt names earlier
  pointer : fault.pointer = "/declarations/" ++ toString index ++ "/qualified_name"
  /-- A blank name is blamed for that, even if it stands earlier as well. -/
  blank : ∀ name, names[index]? = some name → isBlankText name = true →
    fault.message = "qualified_name must not be empty"
  /-- For another name, the message tells the only earlier position of the name. -/
  repeated : ∀ name, names[index]? = some name → isBlankText name = false →
    ∃ first, first < index ∧ (∀ other < index, names[other]? = some name ↔ other = first) ∧
      fault.message =
        "duplicate declaration " ++ quote name ++ " (first at /declarations/" ++ toString first
          ++ ")"

/-- Good names do not offend, wherever they stand. -/
theorem GoodNames.not_offendsAt {names front rest : List String} (split : names = front ++ rest)
    (good : GoodNames front) {index : Nat} (before : index < front.length) :
    ¬OffendsAt names index := by
  rintro ⟨name, there, wrong⟩
  rw [split, List.getElem?_append_left before] at there
  rw [split, List.take_append_of_le_length (Nat.le_of_lt before)] at wrong
  rcases wrong with blank | earlier
  · rw [good.named name (List.mem_of_getElem? there)] at blank
    cases blank
  · exact not_mem_take_of_nodup good.distinct there earlier

theorem FirstBadName.exists_blamesAt {names : List String} {fault : ManifestFault}
    (bad : FirstBadName names fault) : ∃ index, BlamesAt names fault index := by
  cases bad with
  | @blank front back name split good blank =>
      have here : names[front.length]? = some name := by simp [split]
      refine ⟨front.length,
        { offends := ⟨name, here, .inl blank⟩
          first := fun _ => good.not_offendsAt split
          pointer := rfl
          blank := fun _ _ _ => rfl
          repeated := ?_ }⟩
      intro other there named
      obtain rfl := Option.some.inj (here.symm.trans there)
      rw [blank] at named
      cases named
  | @repeated front back name first split good named earlier =>
      have here : names[front.length]? = some name := by simp [split]
      have before : first < front.length := (List.getElem?_eq_some_iff.mp earlier).1
      have taken : names.take front.length = front := by simp [split]
      refine ⟨front.length,
        { offends := ⟨name, here, .inr ?_⟩
          first := fun _ => good.not_offendsAt split
          pointer := rfl
          blank := ?_
          repeated := ?_ }⟩
      · rw [taken]
        exact List.mem_of_getElem? earlier
      · intro other there blank
        obtain rfl := Option.some.inj (here.symm.trans there)
        rw [named] at blank
        cases blank
      · intro other there _
        obtain rfl := Option.some.inj (here.symm.trans there)
        refine ⟨first, before, ?_, rfl⟩
        intro position inside
        rw [split, List.getElem?_append_left inside, ← earlier]
        exact List.getElem?_inj inside good.distinct

/-! ## Documents -/

/-- The version that is taken in from an object is a text. -/
theorem exists_string_of_taken {before after : Parts} {entries : List (String × Json)}
    {value : Json} (found : lookup? "schema_version" entries = some value)
    (taken : TakesAll take before entries after) : ∃ version, value = .string version := by
  induction entries generalizing before with
  | nil => cases found
  | cons entry rest ih =>
      obtain ⟨key, held⟩ := entry
      obtain ⟨middle, first, taken⟩ := takesAll_cons_iff.mp taken
      by_cases own : key = "schema_version"
      · subst own
        obtain rfl : held = value := by simpa [lookup?] using found
        rw [take, if_pos rfl, bind_eq_ok_iff] at first
        obtain ⟨version, text, -⟩ := first
        cases held with
        | string spelled => exact ⟨spelled, rfl⟩
        | _ => cases text
      · exact ih (by simpa [lookup?, own] using found) taken

/-- An object of which a manifest is read holds the version of that manifest. -/
theorem version?_of_ofJson {entries : List (String × Json)} (ordered : (Json.object entries).Ordered)
    {manifest : Manifest} (parsed : ofJson (.object entries) = .ok manifest) :
    version? (.object entries) = some manifest.schemaVersion := by
  have steps := parsed
  rw [ofJson, RecordForm.read, bind_eq_ok_iff] at steps
  obtain ⟨parts, taken, made⟩ := steps
  have told := schemaVersion?_of_ofParts made
  cases found : lookup? "schema_version" entries with
  | none =>
      have absent : ∀ entry ∈ entries, entry.1 ≠ "schema_version" := by
        simpa [lookup?] using found
      rw [schemaVersion?_of_absent absent taken] at told
      cases told
  | some value =>
      obtain ⟨version, rfl⟩ := exists_string_of_taken found taken
      have held : version? (.object entries) = some version := by
        simp only [version?, found]
      rw [held, schemaVersion_of_ofJson ordered held parsed]

/-- What is read of an object with the current version is checked for its names only. -/
theorem read_of_object {bytes : List UInt8} {entries : List (String × Json)} {manifest : Manifest}
    (document : Json.read bytes = .ok (.object entries))
    (parsed : ofJson (.object entries) = .ok manifest)
    (current : trim manifest.schemaVersion = currentVersion) :
    read bytes = match manifest.nameFault? with
      | some fault => .error fault
      | none => .ok manifest := by
  have version := version?_of_ofJson (ordered_of_read document) parsed
  cases fault : manifest.nameFault? <;>
    simp only [read, document, ofDocument, version, current, parsed, fault, ne_eq,
      not_true_eq_false, if_false]

/-- Nothing is accepted of an array, as no version can be looked up in it. -/
theorem read_of_array {bytes : List UInt8} {items : List Json}
    (document : Json.read bytes = .ok (.array items)) : read bytes = .error .missingVersion := by
  rw [read, document]
  rfl

/-! ## Lookup -/

/-- What looking up a name in a manifest gives. -/
structure FindsAll (manifest : Manifest) : Prop where
  found_iff : ∀ name, (∃ declaration, manifest.find? name = some declaration) ↔
    ∃ declaration ∈ manifest.declarations, declaration.qualifiedName = name
  only : ∀ name declaration, manifest.find? name = some declaration →
    manifest.declarations.filter (fun other => other.qualifiedName = name) = [declaration]
  origins : ∀ candidate ∈ manifest.candidates,
    manifest.find? candidate.origin.qualifiedName = some candidate.origin

/-- With distinct names, each name finds the one declaration that has it. -/
theorem Distinct.findsAll {manifest : Manifest} (distinct : manifest.Distinct) :
    manifest.FindsAll where
  found_iff name := exists_congr fun _ => find?_eq_some_iff distinct
  only := by
    intro name declaration found
    obtain ⟨member, rfl⟩ := (find?_eq_some_iff distinct).mp found
    exact filter_key_eq_singleton distinct member
  origins := by
    intro candidate listed
    exact (find?_eq_some_iff distinct).mpr ⟨(mem_candidates_iff.mp listed).1, rfl⟩

/-- **Manifests are accepted by their names.**
* A manifest that is read of an object and has the current version is accepted exactly if none of
  its names is blank and none stands twice. If it is refused, the first name that is blank or
  stands earlier as well is blamed, with its place.
* An array is refused, whatever can be read of it.
* In a manifest that is accepted, a name finds a declaration exactly if some declaration has it. It
  is the only one that has it, and the origin of each candidate is found by its name. -/
theorem read_accepts_names :
    (∀ (bytes : List UInt8) (entries : List (String × Json)) (manifest : Manifest),
      Json.read bytes = .ok (.object entries) → ofJson (.object entries) = .ok manifest →
      trim manifest.schemaVersion = currentVersion →
      ((∃ accepted, read bytes = .ok accepted) ↔ GoodNames manifest.names) ∧
      (∀ accepted, read bytes = .ok accepted → accepted = manifest) ∧
      ∀ fault, read bytes = .error fault → ∃ index, BlamesAt manifest.names fault index) ∧
    (∀ (bytes : List UInt8) (items : List Json), Json.read bytes = .ok (.array items) →
      read bytes = .error .missingVersion) ∧
    ∀ (bytes : List UInt8) (manifest : Manifest), read bytes = .ok manifest →
      manifest.FindsAll := by
  refine ⟨?ofObject, fun _ _ => read_of_array, ?lookup⟩
  case ofObject =>
    intro bytes entries manifest document parsed current
    have good : manifest.nameFault? = none ↔ GoodNames manifest.names := by
      rw [nameFault?_eq_none_iff]
      exact ⟨fun names => ⟨List.forall_mem_map.mpr names.1, names.2⟩,
        fun names => ⟨List.forall_mem_map.mp names.named, names.distinct⟩⟩
    rw [read_of_object document parsed current, ← good]
    cases found : manifest.nameFault? with
    | none => simp
    | some fault =>
        have blamed := (firstBadName_of_nameFault? found).exists_blamesAt
        simpa using blamed
  case lookup =>
    intro bytes manifest accepted
    exact (distinct_of_read accepted).findsAll

/-- A manifest whose third declaration has the name of the first. -/
def sampleTwice : Manifest :=
  .ofDeclarations [sampleTarget, sampleOrigin, { sampleTarget with kind := .object }]

/-- The third name is blamed, and its first occurrence is told. -/
theorem read_accepts_names_twice :
    read (Utf8.encode sampleTwice.toJson.pretty) = .error (.duplicateName 2 "app.View" 0) ∧
      (∃ index, BlamesAt sampleTwice.names (.duplicateName 2 "app.View" 0) index) ∧
      ¬GoodNames sampleTwice.names := by
  obtain ⟨ofObject, -, -⟩ := read_accepts_names
  have shallow : sampleTwice.toJson.depth ≤ maxDepth := by decide +kernel
  have document : Json.read (Utf8.encode sampleTwice.toJson.pretty) = .ok (.object _) :=
    read_pretty sampleTwice.textual_toJson shallow
  have parsed := sampleTwice.ofJson_sorted_toJson
  have current : trim sampleTwice.schemaVersion = currentVersion := by decide +kernel
  have fault : sampleTwice.nameFault? = some (.duplicateName 2 "app.View" 0) := by rfl
  have refused : read (Utf8.encode sampleTwice.toJson.pretty) =
      .error (.duplicateName 2 "app.View" 0) := by
    rw [read_of_object document parsed current, fault]
  obtain ⟨accepted, -, blamed⟩ := ofObject _ _ _ document parsed current
  refine ⟨refused, blamed _ refused, ?_⟩
  rw [← accepted, refused]
  simp

/-! ## Documents that are arrays -/

/-- A document that gives the version and no declarations as an array. -/
def arrayDocument : Json :=
  .array [.string currentVersion, .array []]

/-- **An array is refused although a manifest can be read of it.** The manifest is of the current
version and has no bad names. -/
theorem array_form_refused :
    Json.read (Utf8.encode arrayDocument.pretty) = .ok arrayDocument ∧
      ofJson arrayDocument = .ok (ofDeclarations []) ∧
      trim (ofDeclarations []).schemaVersion = currentVersion ∧
      GoodNames (ofDeclarations []).names ∧
      ¬∃ accepted, read (Utf8.encode arrayDocument.pretty) = .ok accepted := by
  have textual : arrayDocument.Textual :=
    .array (List.forall_mem_cons.mpr
      ⟨.string _, List.forall_mem_cons.mpr ⟨.array nofun, nofun⟩⟩)
  have document : Json.read (Utf8.encode arrayDocument.pretty) = .ok arrayDocument :=
    read_pretty textual (by decide)
  refine ⟨document, rfl, by decide +kernel, ⟨nofun, .nil⟩, ?_⟩
  rw [read_of_array document]
  nofun

end RecordMapper.Manifest
