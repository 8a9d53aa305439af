import RecordMapper.Proofs.Outcome.Emitted
import RecordMapper.Proofs.Run.Accounting
import RecordMapper.Proofs.Schema.Faults
import RecordMapper.Proofs.Sink.Failing

/-!
# Skipped markers

A marker is skipped because its origin is not valid, because no declaration has the name of its
target, or because the declaration with that name is not valid, and in this order
(`Manifest.outcome_eq_skipped_iff`). The diagnostic blames the first of these and no other
(`Manifest.diagnostics_explain`).
-/

namespace RecordMapper

/-! ## Codes -/

namespace SchemaFault

variable {role : Role} {fault : SchemaFault}

theorem code_eq_originNotARecord_iff :
    fault.code role = .originNotARecord ↔ role = .origin ∧ ∃ record, fault = .notARecord record := by
  cases fault <;> cases role <;> simp [code]

theorem code_eq_targetNotARecord_iff :
    fault.code role = .targetNotARecord ↔ role = .target ∧ ∃ record, fault = .notARecord record := by
  cases fault <;> cases role <;> simp [code]

theorem code_eq_invalidName_iff :
    fault.code role = .invalidName ↔ ∃ name reason, fault = .invalidName name reason := by
  cases fault <;> cases role <;> simp [code]

theorem code_eq_duplicateField_iff :
    fault.code role = .duplicateField ↔ ∃ field, fault = .duplicateField field := by
  cases fault <;> cases role <;> simp [code]

theorem code_eq_unresolvableField_iff :
    fault.code role = .unresolvableField ↔
      ∃ field reason, fault = .unresolvableField field reason := by
  cases fault <;> cases role <;> simp [code]

/-- The two codes that no check has: those of a manifest and of a missing declaration. -/
theorem code_ne (role : Role) (fault : SchemaFault) :
    fault.code role ≠ .manifestParseError ∧ fault.code role ≠ .unknownDeclaration := by
  cases fault <;> cases role <;> simp [code]

end SchemaFault

namespace Manifest

variable {manifest : Manifest} {erase : Bool} {origin : Declaration} {target : String}
  {diagnostic : Diagnostic}

theorem find?_eq_none_iff :
    manifest.find? target = none ↔
      ∀ declaration ∈ manifest.declarations, declaration.qualifiedName ≠ target := by
  simp [find?, List.find?_eq_none]

/-- The first side of a marker that is not valid, with its role and the check that it fails: the
origin, or else the declaration that is found for the target. -/
inductive FailsFirst (manifest : Manifest) (origin : Declaration) (target : String) :
    Role → Declaration → SchemaFault → Prop
  | origin {fault : SchemaFault} : origin.Fails fault →
      FailsFirst manifest origin target .origin origin fault
  | target {declaration : Declaration} {fault : SchemaFault} : origin.Valid →
      manifest.find? target = some declaration → declaration.Fails fault →
      FailsFirst manifest origin target .target declaration fault

/-- There is only one first side. -/
theorem FailsFirst.unique {role otherRole : Role} {side otherSide : Declaration}
    {fault otherFault : SchemaFault} (first : manifest.FailsFirst origin target role side fault)
    (second : manifest.FailsFirst origin target otherRole otherSide otherFault) :
    role = otherRole ∧ side = otherSide ∧ fault = otherFault := by
  cases first with
  | origin fails =>
      cases second with
      | origin other => exact ⟨rfl, rfl, fails.unique other⟩
      | target valid _ _ => exact absurd valid fails.not_valid
  | target valid found fails =>
      cases second with
      | origin other => exact absurd valid other.not_valid
      | target _ otherFound other =>
          obtain rfl := Option.some.inj (found.symm.trans otherFound)
          exact ⟨rfl, rfl, fails.unique other⟩

theorem valid_iff {declaration : Declaration} :
    declaration.Valid ↔ ∃ schema, Schema.ofDeclaration declaration = .ok schema := by
  simp only [Declaration.Valid, Schema.ofDeclaration_eq_ok_iff]

/-- **Why a marker is skipped.** Its first side that is not valid is to blame, or a target whose name
no declaration has. -/
theorem outcome_eq_skipped_iff :
    manifest.outcome erase ⟨origin, target⟩ = .skipped diagnostic ↔
      (∃ role side fault, manifest.FailsFirst origin target role side fault ∧
        diagnostic = Rejection.diagnostic role ⟨side.qualifiedName, fault⟩) ∨
      origin.Valid ∧ manifest.find? target = none ∧ diagnostic = .unknownTarget target := by
  have schemas : manifest.outcome erase ⟨origin, target⟩ = .skipped diagnostic ↔
      manifest.schemas ⟨origin, target⟩ = .error diagnostic := by
    unfold outcome
    cases manifest.schemas ⟨origin, target⟩ <;> simp
  rw [schemas, Manifest.schemas]
  constructor
  · intro skipped
    cases first : Schema.ofDeclaration origin with
    | error rejection =>
        obtain ⟨name, fails⟩ := Schema.ofDeclaration_eq_error_iff.mp first
        simp only [first, Except.error.injEq] at skipped
        refine .inl ⟨.origin, origin, rejection.fault, .origin fails, ?_⟩
        rw [← skipped, ← name]
    | ok schema =>
        have valid := valid_iff.mpr ⟨schema, first⟩
        cases found : manifest.find? target with
        | none =>
            simp only [first, found, Except.error.injEq] at skipped
            exact .inr ⟨valid, rfl, skipped.symm⟩
        | some declaration =>
            cases second : Schema.ofDeclaration declaration with
            | ok other => simp [first, found, second] at skipped
            | error rejection =>
                obtain ⟨name, fails⟩ := Schema.ofDeclaration_eq_error_iff.mp second
                simp only [first, found, second, Except.error.injEq] at skipped
                refine .inl ⟨.target, declaration, rejection.fault, .target valid found fails, ?_⟩
                rw [← skipped, ← name]
  · rintro (⟨role, side, fault, fails, rfl⟩ | ⟨valid, missing, rfl⟩)
    · cases fails with
      | origin fails => rw [Declaration.fails_iff.mp fails]
      | target valid found fails =>
          obtain ⟨schema, first⟩ := valid_iff.mp valid
          simp only [first, found, Declaration.fails_iff.mp fails]
    · obtain ⟨schema, first⟩ := valid_iff.mp valid
      simp only [first, missing]

end Manifest

/-- What a diagnostic says about a skipped marker: which declaration is to blame, what is wrong with
it, and nothing that does not belong to its code. -/
structure Diagnostic.Explains (diagnostic : Diagnostic) (manifest : Manifest)
    (origin : Declaration) (target : String) : Prop where
  /-- A rejected origin is to blame, whatever the target is. -/
  ofOrigin : ∀ rejection, Schema.ofDeclaration origin = .error rejection →
    diagnostic.subject = origin.qualifiedName ∧ diagnostic.code = rejection.fault.code .origin ∧
      diagnostic.message = rejection.message
  /-- With a valid origin it is the target. -/
  ofTarget : origin.Valid → diagnostic.subject = target
  originNotARecord : diagnostic.code = .originNotARecord ↔ ¬origin.PlainRecord
  targetNotARecord : diagnostic.code = .targetNotARecord ↔ origin.Valid ∧
    ∃ declaration, manifest.find? target = some declaration ∧ ¬declaration.PlainRecord
  unknownDeclaration : diagnostic.code = .unknownDeclaration ↔ origin.Valid ∧
    ∀ declaration ∈ manifest.declarations, declaration.qualifiedName ≠ target
  invalidName : diagnostic.code = .invalidName ↔ ∃ role side name reason,
    manifest.FailsFirst origin target role side (.invalidName name reason)
  duplicateField : diagnostic.code = .duplicateField ↔ ∃ role side field,
    manifest.FailsFirst origin target role side (.duplicateField field)
  unresolvableField : diagnostic.code = .unresolvableField ↔ ∃ role side field reason,
    manifest.FailsFirst origin target role side (.unresolvableField field reason)
  notOfManifest : diagnostic.code ≠ .manifestParseError
  phase : diagnostic.phase = diagnostic.code.phase
  severity : diagnostic.severity = .error
  help? : diagnostic.help? = diagnostic.code.help?

namespace Manifest

variable {manifest : Manifest} {erase : Bool} {origin : Declaration} {target : String}

/-- A side that fails is explained by its rejection, with the code of its role. -/
theorem FailsFirst.explains {role : Role} {side : Declaration} {fault : SchemaFault}
    (fails : manifest.FailsFirst origin target role side fault) :
    (Rejection.diagnostic role ⟨side.qualifiedName, fault⟩).Explains manifest origin target where
  ofOrigin := by
    intro rejection rejected
    obtain ⟨name, wrong⟩ := Schema.ofDeclaration_eq_error_iff.mp rejected
    obtain ⟨rfl, rfl, rfl⟩ := fails.unique (.origin wrong)
    rw [← name]
    exact ⟨rfl, rfl, rfl⟩
  ofTarget := by
    intro valid
    cases fails with
    | origin wrong => exact absurd valid wrong.not_valid
    | target _ found _ => exact find?_qualifiedName found
  originNotARecord := by
    rw [← Declaration.exists_fails_notARecord_iff]
    change fault.code role = _ ↔ _
    rw [SchemaFault.code_eq_originNotARecord_iff]
    constructor
    · rintro ⟨rfl, record, rfl⟩
      cases fails with
      | origin wrong => exact ⟨record, wrong⟩
    · rintro ⟨record, wrong⟩
      obtain ⟨rfl, -, rfl⟩ := fails.unique (.origin wrong)
      exact ⟨rfl, record, rfl⟩
  targetNotARecord := by
    simp only [← Declaration.exists_fails_notARecord_iff]
    change fault.code role = _ ↔ _
    rw [SchemaFault.code_eq_targetNotARecord_iff]
    constructor
    · rintro ⟨rfl, record, rfl⟩
      cases fails with
      | target valid found wrong => exact ⟨valid, side, found, record, wrong⟩
    · rintro ⟨valid, declaration, found, record, wrong⟩
      obtain ⟨rfl, -, rfl⟩ := fails.unique (.target valid found wrong)
      exact ⟨rfl, record, rfl⟩
  unknownDeclaration := by
    refine iff_of_false (fault.code_ne role).2 ?_
    rintro ⟨valid, missing⟩
    rw [← find?_eq_none_iff] at missing
    cases fails with
    | origin wrong => exact wrong.not_valid valid
    | target _ found _ => simp [missing] at found
  invalidName := by
    change fault.code role = _ ↔ _
    rw [SchemaFault.code_eq_invalidName_iff]
    constructor
    · rintro ⟨name, reason, rfl⟩
      exact ⟨role, side, name, reason, fails⟩
    · rintro ⟨_, _, name, reason, other⟩
      exact ⟨name, reason, (fails.unique other).2.2⟩
  duplicateField := by
    change fault.code role = _ ↔ _
    rw [SchemaFault.code_eq_duplicateField_iff]
    constructor
    · rintro ⟨field, rfl⟩
      exact ⟨role, side, field, fails⟩
    · rintro ⟨_, _, field, other⟩
      exact ⟨field, (fails.unique other).2.2⟩
  unresolvableField := by
    change fault.code role = _ ↔ _
    rw [SchemaFault.code_eq_unresolvableField_iff]
    constructor
    · rintro ⟨field, reason, rfl⟩
      exact ⟨role, side, field, reason, fails⟩
    · rintro ⟨_, _, field, reason, other⟩
      exact ⟨field, reason, (fails.unique other).2.2⟩
  notOfManifest := (fault.code_ne role).1
  phase := rfl
  severity := rfl
  help? := rfl

/-- A target that is not there is explained by its name. -/
theorem explains_unknownTarget (valid : origin.Valid) (missing : manifest.find? target = none) :
    (Diagnostic.unknownTarget target).Explains manifest origin target := by
  have sound {role : Role} {side : Declaration} {fault : SchemaFault} :
      ¬manifest.FailsFirst origin target role side fault := by
    intro fails
    cases fails with
    | origin wrong => exact wrong.not_valid valid
    | target _ found _ => simp [missing] at found
  refine
    { ofOrigin := ?ofOrigin
      ofTarget := fun _ => rfl
      originNotARecord := iff_of_false nofun ?originNotARecord
      targetNotARecord := iff_of_false nofun ?targetNotARecord
      unknownDeclaration := iff_of_true rfl ⟨valid, find?_eq_none_iff.mp missing⟩
      invalidName := iff_of_false nofun fun ⟨_, _, _, _, fails⟩ => sound fails
      duplicateField := iff_of_false nofun fun ⟨_, _, _, fails⟩ => sound fails
      unresolvableField := iff_of_false nofun fun ⟨_, _, _, _, fails⟩ => sound fails
      notOfManifest := nofun
      phase := rfl
      severity := rfl
      help? := rfl }
  case ofOrigin =>
    intro rejection rejected
    exact absurd valid (Schema.ofDeclaration_eq_error_iff.mp rejected).2.not_valid
  case originNotARecord =>
    rw [← Declaration.exists_fails_notARecord_iff]
    rintro ⟨record, wrong⟩
    exact wrong.not_valid valid
  case targetNotARecord =>
    rintro ⟨-, declaration, found, -⟩
    simp [missing] at found

/-- Every skipped marker is explained by its diagnostic. -/
theorem explains_of_skipped {diagnostic : Diagnostic}
    (skipped : manifest.outcome erase ⟨origin, target⟩ = .skipped diagnostic) :
    diagnostic.Explains manifest origin target := by
  rcases outcome_eq_skipped_iff.mp skipped with ⟨role, side, fault, fails, rfl⟩ | missing
  · exact fails.explains
  · obtain ⟨valid, missing, rfl⟩ := missing
    exact explains_unknownTarget valid missing

/-- A rejected declaration is to blame in both roles, and only the code tells the role. -/
theorem outcome_of_rejected {declaration : Declaration} {rejection : Rejection}
    (rejected : Schema.ofDeclaration declaration = .error rejection) :
    (∀ target, manifest.outcome erase ⟨declaration, target⟩ = .skipped (.ofCode
      (rejection.fault.code .origin) declaration.qualifiedName rejection.message)) ∧
    ∀ origin target, origin.Valid → manifest.find? target = some declaration →
      manifest.outcome erase ⟨origin, target⟩ =
        .skipped (.ofCode (rejection.fault.code .target) target rejection.message) := by
  obtain ⟨name, fails⟩ := Schema.ofDeclaration_eq_error_iff.mp rejected
  obtain ⟨_, fault⟩ := rejection
  obtain rfl := name
  constructor
  · intro target
    exact outcome_eq_skipped_iff.mpr (.inl ⟨.origin, declaration, fault, .origin fails, rfl⟩)
  · intro origin target valid found
    obtain rfl := find?_qualifiedName found
    exact outcome_eq_skipped_iff.mpr
      (.inl ⟨.target, declaration, fault, .target valid found fails, rfl⟩)

/-- A diagnostic of some marker is the outcome of that marker. -/
theorem exists_of_mem_diagnostics {diagnostic : Diagnostic}
    (listed : diagnostic ∈ (manifest.markerOutcomes erase).filterMap (·.diagnostic?)) :
    ∃ origin ∈ manifest.declarations, ∃ target ∈ origin.mappers,
      manifest.outcome erase ⟨origin, target⟩ = .skipped diagnostic := by
  obtain ⟨outcome, found, skipped⟩ := List.mem_filterMap.mp listed
  obtain ⟨origin, declared, mapped⟩ := List.mem_flatMap.mp found
  obtain ⟨target, marked, rfl⟩ := List.mem_map.mp mapped
  refine ⟨origin, declared, target, marked, ?_⟩
  cases result : manifest.outcome erase ⟨origin, target⟩ with
  | emitted function => simp [result] at skipped
  | skipped other =>
      rw [result, Outcome.diagnostic?_skipped, Option.some.injEq] at skipped
      rw [skipped]

/-- **Diagnostics blame the right declaration.** The diagnostics of a report are those of the
skipped markers, in marker order, and each of them explains its own marker. A declaration that
validation rejects is blamed with the code of its role: as the origin of any target, and as the
target of any valid origin. -/
theorem diagnostics_explain (manifest : Manifest) (options : Options) :
    (∀ {σ : Type} (sink : Sink (StateM σ)) (before after : σ) (report : Report),
      (manifest.run options sink).run before = (.ok report, after) →
      report.diagnostics =
        (manifest.markerOutcomes options.eraseGenerics).filterMap (·.diagnostic?) ∧
      ∀ diagnostic ∈ report.diagnostics, ∃ origin ∈ manifest.declarations,
        ∃ target ∈ origin.mappers,
          manifest.outcome options.eraseGenerics ⟨origin, target⟩ = .skipped diagnostic ∧
          diagnostic.Explains manifest origin target) ∧
    (∀ origin target diagnostic,
      manifest.outcome options.eraseGenerics ⟨origin, target⟩ = .skipped diagnostic →
      diagnostic.Explains manifest origin target) ∧
    ∀ declaration rejection, Schema.ofDeclaration declaration = .error rejection →
      (∀ target, manifest.outcome options.eraseGenerics ⟨declaration, target⟩ =
        .skipped (.ofCode (rejection.fault.code .origin) declaration.qualifiedName
          rejection.message)) ∧
      ∀ origin target, origin.Valid → manifest.find? target = some declaration →
        manifest.outcome options.eraseGenerics ⟨origin, target⟩ =
          .skipped (.ofCode (rejection.fault.code .target) target rejection.message) := by
  refine ⟨?reports, fun _ _ _ => explains_of_skipped, fun _ _ => outcome_of_rejected⟩
  intro σ sink before after report ran
  have told := diagnostics_of_run ran
  refine ⟨told, ?_⟩
  intro diagnostic listed
  rw [told] at listed
  obtain ⟨origin, declared, target, marked, skipped⟩ := exists_of_mem_diagnostics listed
  exact ⟨origin, declared, target, marked, skipped, explains_of_skipped skipped⟩

/-- An interface with a marker for a target that is not there. -/
def sampleShape : Declaration :=
  { sampleTarget with
    qualifiedName := "app.Shape", kind := .interface, mappers := ["app.Missing"] }

/-- The interface, and a record with markers for it, for itself and for a missing target. -/
def sampleRoles : Manifest :=
  .ofDeclarations
    [sampleShape, { sampleOrigin with mappers := ["app.Shape", "app.Row", "app.Missing"] }]

/-- The interface is blamed as an origin, although its target is not there, and as a target; the
record is blamed for nothing, not even for the target that is not there. Each diagnostic has the
phase and the help of its code. -/
theorem diagnostics_explain_roles :
    (∃ report after,
      (sampleRoles.run .default (.ofActions .recording)).run [] = (.ok report, after) ∧
      report.diagnostics.map (fun diagnostic => (diagnostic.code.identifier, diagnostic.subject)) =
        [("MM0100", "app.Shape"), ("MM0101", "app.Shape"), ("MM0130", "app.Missing")] ∧
      report.diagnostics.map (fun diagnostic => (diagnostic.phase, diagnostic.help?)) =
        [(.validate,
            some "Only non-generic `data class` declarations can take part in a mapping."),
          (.validate,
            some "Only non-generic `data class` declarations can take part in a mapping."),
          (.resolve,
            some "Include the target declaration in the manifest passed to modelmap.")]) ∧
    (Diagnostic.unknownTarget "app.Missing").Explains sampleRoles sampleOrigin "app.Missing" ∧
    (Diagnostic.unknownTarget "app.Missing").phase = .resolve ∧
    sampleRoles.outcome true ⟨sampleShape, "app.Missing"⟩ = .skipped (.ofCode .originNotARecord
      "app.Shape" "app.Shape is not a data class: interfaces have no fields") ∧
    sampleRoles.outcome true ⟨sampleOrigin, "app.Shape"⟩ = .skipped (.ofCode .targetNotARecord
      "app.Shape" "app.Shape is not a data class: interfaces have no fields") := by
  obtain ⟨runs, explained, roles⟩ := sampleRoles.diagnostics_explain .default
  have rejected : Schema.ofDeclaration sampleShape =
      .error ⟨"app.Shape", .notARecord .interface⟩ := rfl
  have valid : sampleOrigin.Valid := ⟨_, Schema.ofDeclaration_eq_ok_iff.mp rfl⟩
  obtain ⟨asOrigin, asTarget⟩ := roles sampleShape _ rejected
  have missing := explained sampleOrigin "app.Missing" _ rfl
  refine ⟨?ran, missing, missing.phase, asOrigin "app.Missing",
    asTarget sampleOrigin "app.Shape" valid rfl⟩
  have ran : (sampleRoles.run .default (.ofActions .recording)).run [] =
      (.ok (sampleRoles.report .default), sampleRoles.chunks .default) := rfl
  refine ⟨_, _, ran, ?_⟩
  rw [(runs _ _ _ _ ran).1]
  exact ⟨rfl, rfl⟩

end Manifest

end RecordMapper
