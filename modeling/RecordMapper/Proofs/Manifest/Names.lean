import RecordMapper.Manifest.Json
import RecordMapper.Proofs.Lookup

/-!
# The names of a manifest

A manifest that is read from a file has no name that is blank and none that occurs twice
(`Manifest.distinct_of_read`). Where no name occurs twice, a name finds the one declaration that has
it, so it does not matter in which order the declarations stand (`Manifest.find?_of_perm`).
-/

namespace RecordMapper.Manifest

open RecordMapper.Text

/-- No two declarations have the same qualified name. -/
def Distinct (manifest : Manifest) : Prop :=
  (manifest.declarations.map (·.qualifiedName)).Nodup

/-- The check of the names finds nothing exactly if no name is blank, none is that of an earlier
declaration, and none occurs twice. -/
theorem nameFaultAfter_eq_none_iff {index : Nat} {earlier : List (String × Nat)}
    {declarations : List Declaration} :
    nameFaultAfter index earlier declarations = none ↔
      (∀ declaration ∈ declarations, isBlankText declaration.qualifiedName = false) ∧
        (∀ declaration ∈ declarations, earlier.lookup declaration.qualifiedName = none) ∧
          (declarations.map (·.qualifiedName)).Nodup := by
  induction declarations generalizing index earlier with
  | nil => simp [nameFaultAfter]
  | cons declaration rest ih =>
      have lookedUp (other : Declaration) :
          List.lookup other.qualifiedName ((declaration.qualifiedName, index) :: earlier) = none ↔
            declaration.qualifiedName ≠ other.qualifiedName ∧
              earlier.lookup other.qualifiedName = none := by
        simp only [List.lookup_eq_none_iff, List.forall_mem_cons, bne_iff_ne,
          ne_comm (a := other.qualifiedName)]
      have absent : declaration.qualifiedName ∉ rest.map (·.qualifiedName) ↔
          ∀ other ∈ rest, declaration.qualifiedName ≠ other.qualifiedName := by
        simp [List.mem_map, eq_comm]
      simp only [nameFaultAfter, List.forall_mem_cons, List.map_cons, List.nodup_cons, absent]
      cases blank : isBlankText declaration.qualifiedName with
      | true => simp
      | false =>
          cases found : earlier.lookup declaration.qualifiedName with
          | some first => simp
          | none =>
              simp only [Bool.false_eq_true, if_false, ih, lookedUp, forall_and, true_and]
              exact ⟨fun ⟨named, ⟨others, apart⟩, rest⟩ => ⟨named, apart, others, rest⟩,
                fun ⟨named, apart, others, rest⟩ => ⟨named, ⟨others, apart⟩, rest⟩⟩

theorem nameFault?_eq_none_iff {manifest : Manifest} :
    manifest.nameFault? = none ↔
      (∀ declaration ∈ manifest.declarations, isBlankText declaration.qualifiedName = false) ∧
        manifest.Distinct := by
  simp [nameFault?, nameFaultAfter_eq_none_iff, Distinct]

/-- A document is accepted exactly if it passes all four checks. -/
theorem ofDocument_eq_ok_iff {document : Json} {manifest : Manifest} :
    ofDocument document = .ok manifest ↔
      (∃ version, version? document = some version ∧ trim version = currentVersion) ∧
        ofJson document = .ok manifest ∧ manifest.nameFault? = none := by
  unfold ofDocument
  cases version? document with
  | none => simp
  | some version =>
      by_cases current : trim version = currentVersion
      · cases ofJson document with
        | error fault => simp [current]
        | ok parsed =>
            cases fault : parsed.nameFault? with
            | some found => grind
            | none => grind
      · simp [current]

/-- **Accepted names.** A manifest that is read has no name twice. -/
theorem distinct_of_read {bytes : List UInt8} {manifest : Manifest}
    (accepted : read bytes = .ok manifest) : manifest.Distinct := by
  unfold read at accepted
  cases document : Json.read bytes with
  | error fault => simp [document] at accepted
  | ok value =>
      simp only [document, ofDocument_eq_ok_iff] at accepted
      exact (nameFault?_eq_none_iff.mp accepted.2.2).2

/-! ## Finding declarations -/

theorem mem_candidates_iff {manifest : Manifest} {candidate : Candidate} :
    candidate ∈ manifest.candidates ↔
      candidate.origin ∈ manifest.declarations ∧ candidate.target ∈ candidate.origin.mappers := by
  simp only [candidates, Declaration.candidates, List.mem_flatMap, List.mem_map]
  constructor
  · intro listed
    obtain ⟨origin, member, target, marked, rfl⟩ := listed
    exact ⟨member, marked⟩
  · intro listed
    exact ⟨candidate.origin, listed.1, candidate.target, listed.2, rfl⟩

theorem find?_eq_some_iff {manifest : Manifest} (distinct : manifest.Distinct) {name : String}
    {declaration : Declaration} :
    manifest.find? name = some declaration ↔
      declaration ∈ manifest.declarations ∧ declaration.qualifiedName = name :=
  find?_key_eq_some_iff distinct

/-- A name finds the same declaration in any order of the declarations. -/
theorem find?_of_perm {first second : Manifest} (distinct : first.Distinct)
    (same : second.declarations.Perm first.declarations) (name : String) :
    second.find? name = first.find? name :=
  find?_key_of_perm distinct same name

end RecordMapper.Manifest
