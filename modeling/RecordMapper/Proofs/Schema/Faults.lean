import RecordMapper.Proofs.Schema.Fields

/-!
# The first fault of a declaration

Validation refuses a declaration for the first check that it fails, and for nothing else
(`Schema.ofDeclaration_eq_error_iff`). The checks are told here without the validator: the record
rules, the two names, and then the primary properties, of which those before the offending one all
give fields.
-/

namespace RecordMapper

/-- The record rules: a data class without type parameters. -/
structure Declaration.PlainRecord (declaration : Declaration) : Prop where
  kind : declaration.kind = .plainClass
  data : "data" ∈ declaration.modifiers
  notGeneric : declaration.typeParams = []

/-- The first check that a property fails after properties with the names in `earlier`. -/
inductive Property.Fails (property : Property) (earlier : List String) : SchemaFault → Prop
  | name {fault : Identifier.Fault} : Identifier.fault? property.name = some fault →
      Fails property earlier (.invalidName property.name (.identifier fault))
  | repeated : Identifier.fault? property.name = none → property.name ∈ earlier →
      Fails property earlier (.duplicateField property.name)
  | type {fault : PropertyTypeFault} : Identifier.fault? property.name = none →
      property.name ∉ earlier → property.resolveType = .error fault →
      Fails property earlier (.unresolvableField property.name fault)

/-- The first check that a declaration fails. -/
inductive Declaration.Fails (declaration : Declaration) : SchemaFault → Prop
  | record {fault : RecordFault} : declaration.recordFault? = some fault →
      Fails declaration (.notARecord fault)
  | qualifiedName {fault : QualifiedName.Fault} : declaration.PlainRecord →
      QualifiedName.fault? declaration.qualifiedName = some fault →
      Fails declaration (.invalidName declaration.qualifiedName (.qualified fault))
  | simpleName {fault : Identifier.Fault} : declaration.PlainRecord →
      QualifiedName.fault? declaration.qualifiedName = none →
      Identifier.fault? declaration.simpleName = some fault →
      Fails declaration (.invalidName declaration.simpleName (.identifier fault))
  | property {front back : List Property} {property : Property} {fields : List Field}
      {fault : SchemaFault} : declaration.PlainRecord →
      QualifiedName.fault? declaration.qualifiedName = none →
      Identifier.fault? declaration.simpleName = none →
      declaration.primaryProperties = front ++ property :: back →
      List.Forall₂ Property.Gives front fields → (front.map (·.name)).Nodup →
      property.Fails (front.map (·.name)) fault → Fails declaration fault

namespace Declaration

variable {declaration : Declaration}

/-- The record rules are broken exactly if they do not hold. -/
theorem recordFault?_eq_none_iff : declaration.recordFault? = none ↔ declaration.PlainRecord := by
  have rules : declaration.PlainRecord ↔ declaration.kind = .plainClass ∧
      "data" ∈ declaration.modifiers ∧ declaration.typeParams = [] :=
    ⟨fun plain => ⟨plain.kind, plain.data, plain.notGeneric⟩,
      fun rules => ⟨rules.1, rules.2.1, rules.2.2⟩⟩
  rw [rules, recordFault?, isData]
  cases declaration.kind with
  | plainClass => by_cases data : "data" ∈ declaration.modifiers <;> simp [data]
  | _ => simp

theorem exists_recordFault_iff :
    (∃ fault, declaration.recordFault? = some fault) ↔ ¬declaration.PlainRecord := by
  rw [← recordFault?_eq_none_iff, ← ne_eq, Option.ne_none_iff_exists']

end Declaration

theorem Property.field_eq_error_iff {property : Property} {earlier : List String}
    {fault : SchemaFault} :
    property.field earlier = .error fault ↔ property.Fails earlier fault := by
  unfold Property.field
  constructor
  · intro failed
    cases identifier : Identifier.fault? property.name with
    | some nameFault =>
        simp only [identifier, Except.error.injEq] at failed
        subst failed
        exact .name identifier
    | none =>
        by_cases repeated : property.name ∈ earlier
        · simp only [identifier, List.contains_eq_mem, repeated, decide_true, ↓reduceIte,
            Except.error.injEq] at failed
          subst failed
          exact .repeated identifier repeated
        · cases resolved : property.resolveType with
          | ok type => simp [identifier, repeated, resolved] at failed
          | error typeFault =>
              simp only [identifier, List.contains_eq_mem, repeated, decide_false,
                Bool.false_eq_true, ↓reduceIte, resolved, Except.error.injEq] at failed
              subst failed
              exact .type identifier repeated resolved
  · intro fails
    cases fails with
    | name identifier => simp [identifier]
    | repeated identifier repeated => simp [identifier, repeated]
    | type identifier fresh unresolved => simp [identifier, fresh, unresolved]

theorem fieldsAfter_cons_eq_ok_iff {earlier : List String} {property : Property}
    {rest : List Property} {fields : List Field} :
    fieldsAfter earlier (property :: rest) = .ok fields ↔
      ∃ field others, property.field earlier = .ok field ∧
        fieldsAfter (property.name :: earlier) rest = .ok others ∧ fields = field :: others := by
  rw [fieldsAfter]
  cases property.field earlier with
  | error first => simp
  | ok field => cases fieldsAfter (property.name :: earlier) rest <;> simp [eq_comm]

theorem fieldsAfter_cons_eq_error_iff {earlier : List String} {property : Property}
    {rest : List Property} {fault : SchemaFault} :
    fieldsAfter earlier (property :: rest) = .error fault ↔
      property.field earlier = .error fault ∨ ∃ field, property.field earlier = .ok field ∧
        fieldsAfter (property.name :: earlier) rest = .error fault := by
  rw [fieldsAfter]
  cases property.field earlier with
  | error first => simp
  | ok field => cases fieldsAfter (property.name :: earlier) rest <;> simp

/-- **The first property that fails.** Properties have no fields exactly if one of them fails after
properties that have fields. -/
theorem fieldsAfter_eq_error_iff {earlier : List String} {properties : List Property}
    {fault : SchemaFault} :
    fieldsAfter earlier properties = .error fault ↔
      ∃ front property back fields, properties = front ++ property :: back ∧
        fieldsAfter earlier front = .ok fields ∧
        property.field ((front.map (·.name)).reverse ++ earlier) = .error fault := by
  have behind (first : Property) (front : List Property) (names : List String) :
      ((first :: front).map (·.name)).reverse ++ names =
        (front.map (·.name)).reverse ++ first.name :: names := by
    simp
  induction properties generalizing earlier with
  | nil => simp [fieldsAfter]
  | cons first rest ih =>
      rw [fieldsAfter_cons_eq_error_iff]
      constructor
      · rintro (head | ⟨field, head, others⟩)
        · exact ⟨[], first, rest, [], rfl, rfl, head⟩
        · obtain ⟨front, property, back, fields, rfl, given, fails⟩ := ih.mp others
          refine ⟨first :: front, property, back, field :: fields, rfl, ?_, ?_⟩
          · exact fieldsAfter_cons_eq_ok_iff.mpr ⟨field, fields, head, given, rfl⟩
          · rw [behind]
            exact fails
      · rintro ⟨front, property, back, fields, split, given, fails⟩
        cases front with
        | nil =>
            obtain ⟨rfl, rfl⟩ := List.cons.inj split
            exact .inl fails
        | cons other front =>
            obtain ⟨rfl, rfl⟩ := List.cons.inj split
            obtain ⟨field, others, head, given, -⟩ := fieldsAfter_cons_eq_ok_iff.mp given
            rw [behind] at fails
            exact .inr ⟨field, head, ih.mpr ⟨front, property, back, others, rfl, given, fails⟩⟩

/-- What a property fails does not depend on the order of the earlier names. -/
theorem Property.Fails.of_mem_iff {property : Property} {earlier others : List String}
    {fault : SchemaFault} (same : ∀ name, name ∈ earlier ↔ name ∈ others)
    (fails : property.Fails earlier fault) : property.Fails others fault := by
  cases fails with
  | name identifier => exact .name identifier
  | repeated identifier repeated => exact .repeated identifier ((same _).mp repeated)
  | type identifier fresh unresolved => exact .type identifier (mt (same _).mpr fresh) unresolved

theorem Declaration.Fails.of_nameFault? {declaration : Declaration} {fault : SchemaFault}
    (plain : declaration.PlainRecord) (found : declaration.nameFault? = some fault) :
    declaration.Fails fault := by
  unfold nameFault? at found
  cases qualified : QualifiedName.fault? declaration.qualifiedName with
  | some first =>
      simp only [qualified, Option.some.injEq] at found
      rw [← found]
      exact .qualifiedName plain qualified
  | none =>
      simp only [qualified, Option.map_eq_some_iff] at found
      obtain ⟨second, simple, rfl⟩ := found
      exact .simpleName plain qualified simple

theorem Declaration.Fails.of_fieldsAfter {declaration : Declaration} {fault : SchemaFault}
    (plain : declaration.PlainRecord) (names : declaration.nameFault? = none)
    (found : fieldsAfter [] declaration.primaryProperties = .error fault) :
    declaration.Fails fault := by
  obtain ⟨qualified, simple⟩ := nameFault?_eq_none_iff.mp names
  obtain ⟨front, property, back, fields, split, given, fails⟩ := fieldsAfter_eq_error_iff.mp found
  obtain ⟨gives, distinct, -⟩ := fieldsAfter_eq_ok_iff.mp given
  refine .property plain qualified simple split gives distinct
    ((Property.field_eq_error_iff.mp fails).of_mem_iff ?_)
  simp

/-- **Validation refuses a declaration exactly for the first check that it fails.** -/
theorem Schema.ofDeclaration_eq_error_iff {declaration : Declaration} {rejection : Rejection} :
    Schema.ofDeclaration declaration = .error rejection ↔
      rejection.qualifiedName = declaration.qualifiedName ∧ declaration.Fails rejection.fault := by
  have step : Schema.ofDeclaration declaration = .error rejection ↔
      rejection.qualifiedName = declaration.qualifiedName ∧
        declaration.schemaOrFault = .error rejection.fault := by
    obtain ⟨name, fault⟩ := rejection
    unfold Schema.ofDeclaration
    cases declaration.schemaOrFault <;> simp [eq_comm]
  rw [step, Declaration.schemaOrFault]
  generalize rejection.fault = fault
  refine and_congr_right fun _ => ⟨?fails, ?refused⟩
  case fails =>
    intro refused
    cases record : declaration.recordFault? with
    | some first =>
        simp only [record, Except.error.injEq] at refused
        rw [← refused]
        exact .record record
    | none =>
        have plain := Declaration.recordFault?_eq_none_iff.mp record
        cases names : declaration.nameFault? with
        | some first =>
            simp only [record, names, Except.error.injEq] at refused
            rw [← refused]
            exact .of_nameFault? plain names
        | none =>
            cases found : fieldsAfter [] declaration.primaryProperties with
            | ok fields => simp [record, names, found] at refused
            | error first =>
                simp only [record, names, found, Except.error.injEq] at refused
                rw [← refused]
                exact .of_fieldsAfter plain names found
  case refused =>
    intro fails
    cases fails with
    | record record => rw [record]
    | qualifiedName plain qualified =>
        rw [Declaration.recordFault?_eq_none_iff.mpr plain]
        simp only [Declaration.nameFault?, qualified]
    | simpleName plain qualified simple =>
        rw [Declaration.recordFault?_eq_none_iff.mpr plain]
        simp only [Declaration.nameFault?, qualified, simple, Option.map_some]
    | @property front back property fields _ plain qualified simple split gives distinct fails =>
        have given : fieldsAfter [] front = .ok fields :=
          fieldsAfter_eq_ok_iff.mpr ⟨gives, distinct, fun _ _ => List.not_mem_nil⟩
        have failed : fieldsAfter [] declaration.primaryProperties = .error fault := by
          refine fieldsAfter_eq_error_iff.mpr ⟨front, property, back, fields, split, given, ?_⟩
          refine Property.field_eq_error_iff.mpr (fails.of_mem_iff ?_)
          simp
        rw [Declaration.recordFault?_eq_none_iff.mpr plain,
          Declaration.nameFault?_eq_none_iff.mpr ⟨qualified, simple⟩, failed]

namespace Declaration

variable {declaration : Declaration} {fault other : SchemaFault}

/-- A declaration that passes validation. -/
def Valid (declaration : Declaration) : Prop :=
  ∃ schema, declaration.Describes schema

theorem fails_iff : declaration.Fails fault ↔
    Schema.ofDeclaration declaration = .error ⟨declaration.qualifiedName, fault⟩ := by
  rw [Schema.ofDeclaration_eq_error_iff, and_iff_right rfl]

/-- A declaration fails one check first. -/
theorem Fails.unique (first : declaration.Fails fault) (second : declaration.Fails other) :
    fault = other := by
  rw [fails_iff] at first second
  exact (Rejection.mk.inj (Except.error.inj (first.symm.trans second))).2

/-- A declaration that fails a check is not valid. -/
theorem Fails.not_valid (fails : declaration.Fails fault) : ¬declaration.Valid := by
  rintro ⟨schema, describes⟩
  rw [fails_iff, Schema.ofDeclaration_eq_ok_iff.mpr describes] at fails
  cases fails

theorem exists_fails_notARecord_iff :
    (∃ fault, declaration.Fails (.notARecord fault)) ↔ ¬declaration.PlainRecord := by
  rw [← exists_recordFault_iff]
  refine exists_congr fun fault => ⟨?_, .record⟩
  intro fails
  cases fails with
  | record record => exact record
  | property _ _ _ _ _ _ fails => cases fails

end Declaration

end RecordMapper
