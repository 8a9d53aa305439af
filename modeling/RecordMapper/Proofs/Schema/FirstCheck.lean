import RecordMapper.Proofs.Lookup
import RecordMapper.Proofs.Schema.Acceptance

/-!
# The first check that a declaration breaks

Validation makes its checks in a fixed order (`Check.Before`). Each check is told here on its own,
whatever the other checks say (`Declaration.Breaks`). A declaration that is rejected is refused for
the first check that it breaks, and what comes before the offending property is in order
(`Declaration.Fails.exists_breaksFirst`). So a rejection says more than that something is wrong
(`Schema.rejection_of_first_check`).
-/

namespace RecordMapper

/-- The checks of one primary property, in order. -/
inductive PropertyCheck
  | name
  | repetition
  | type
  deriving DecidableEq, Repr

/-- The checks of a declaration, in order. Those of a primary property carry its position. -/
inductive Check
  | kind
  | data
  | typeParams
  | qualifiedName
  | simpleName
  | property (index : Nat) (check : PropertyCheck)
  deriving DecidableEq, Repr

/-- The place of a check among those of a property. -/
def PropertyCheck.rank : PropertyCheck → Nat
  | name => 0
  | repetition => 1
  | type => 2

/-- The number of checks that are made before this one. -/
def Check.rank : Check → Nat
  | kind => 0
  | data => 1
  | typeParams => 2
  | qualifiedName => 3
  | simpleName => 4
  | property index check => 5 + 3 * index + check.rank

/-- The first check is made before the second one. -/
def Check.Before (first second : Check) : Prop :=
  first.rank < second.rank

/-- A primary property that stands after the `earlier` ones breaks one of its checks. -/
inductive Property.Breaks (property : Property) (earlier : List Property) :
    PropertyCheck → SchemaFault → Prop
  | name {fault : Identifier.Fault} : Identifier.fault? property.name = some fault →
      Breaks property earlier .name (.invalidName property.name (.identifier fault))
  | repetition {other : Property} : other ∈ earlier → other.name = property.name →
      Breaks property earlier .repetition (.duplicateField property.name)
  | type {fault : PropertyTypeFault} : property.resolveType = .error fault →
      Breaks property earlier .type (.unresolvableField property.name fault)

/-- A declaration breaks one of its checks. -/
inductive Declaration.Breaks (declaration : Declaration) : Check → SchemaFault → Prop
  | interface : declaration.kind = .interface →
      Breaks declaration .kind (.notARecord .interface)
  | enumeration : declaration.kind = .enumClass ∨ declaration.kind = .enumEntry →
      Breaks declaration .kind (.notARecord .enumeration)
  | object : declaration.kind = .object → Breaks declaration .kind (.notARecord .object)
  | annotationType : declaration.kind = .annotationClass →
      Breaks declaration .kind (.notARecord .annotationType)
  | notData : "data" ∉ declaration.modifiers → Breaks declaration .data (.notARecord .notData)
  | generic : declaration.typeParams ≠ [] →
      Breaks declaration .typeParams (.notARecord (.generic declaration.typeParams))
  | qualifiedName {fault : QualifiedName.Fault} :
      QualifiedName.fault? declaration.qualifiedName = some fault →
      Breaks declaration .qualifiedName (.invalidName declaration.qualifiedName (.qualified fault))
  | simpleName {fault : Identifier.Fault} :
      Identifier.fault? declaration.simpleName = some fault →
      Breaks declaration .simpleName (.invalidName declaration.simpleName (.identifier fault))
  | property {index : Nat} {property : Property} {check : PropertyCheck} {fault : SchemaFault} :
      declaration.primaryProperties[index]? = some property →
      property.Breaks (declaration.primaryProperties.take index) check fault →
      Breaks declaration (.property index check) fault

/-- The check is the first one that the declaration breaks. -/
structure Declaration.BreaksFirst (declaration : Declaration) (check : Check)
    (fault : SchemaFault) : Prop where
  breaks : declaration.Breaks check fault
  others : ∀ other otherFault, declaration.Breaks other otherFault →
    other = check ∨ check.Before other

/-- The primary properties before a position have identifiers for names, which are pairwise
distinct, and types that resolve. -/
structure Declaration.SoundBefore (declaration : Declaration) (index : Nat) : Prop where
  names : ∀ property ∈ declaration.primaryProperties.take index, Identifier.Spelled property.name
  distinct : ((declaration.primaryProperties.take index).map (·.name)).Nodup
  typed : ∀ property ∈ declaration.primaryProperties.take index, property.IsTyped

/-- The name that a fault is about. -/
def SchemaFault.subject? : SchemaFault → Option String
  | notARecord _ => none
  | invalidName name _ => some name
  | duplicateField field => some field
  | unresolvableField field _ => some field

/-! ## Checks in order -/

theorem PropertyCheck.rank_lt (check : PropertyCheck) : check.rank < 3 := by
  cases check <;> decide

theorem PropertyCheck.rank_injective {first second : PropertyCheck}
    (same : first.rank = second.rank) : first = second := by
  cases first <;> cases second <;> first | rfl | cases same

/-- No two checks are made at the same time. -/
theorem Check.rank_injective {first second : Check} (same : first.rank = second.rank) :
    first = second := by
  cases first with
  | property index check =>
      cases second with
      | property otherIndex otherCheck =>
          have below := check.rank_lt
          have otherBelow := otherCheck.rank_lt
          simp only [rank] at same
          obtain rfl : index = otherIndex := by omega
          obtain rfl : check = otherCheck := PropertyCheck.rank_injective (by omega)
          rfl
      | _ =>
          simp only [rank] at same
          omega
  | _ =>
      cases second with
      | property otherIndex otherCheck =>
          simp only [rank] at same
          omega
      | _ => first | rfl | cases same

theorem Declaration.BreaksFirst.of_le {declaration : Declaration} {check : Check}
    {fault : SchemaFault} (breaks : declaration.Breaks check fault)
    (least : ∀ other otherFault, declaration.Breaks other otherFault → check.rank ≤ other.rank) :
    declaration.BreaksFirst check fault where
  breaks := breaks
  others other otherFault otherBreaks := by
    rcases Nat.eq_or_lt_of_le (least other otherFault otherBreaks) with same | before
    · exact .inl (Check.rank_injective same).symm
    · exact .inr before

/-! ## Checks of properties -/

/-- A property with a new name that gives a field breaks no check. -/
theorem Property.Gives.not_breaks {property : Property} {field : Field} {earlier : List Property}
    {check : PropertyCheck} {fault : SchemaFault} (gives : property.Gives field)
    (fresh : property.name ∉ earlier.map (·.name)) : ¬property.Breaks earlier check fault := by
  intro breaks
  cases breaks with
  | name identifier => simp [gives.identifier] at identifier
  | repetition listed same => exact fresh (List.mem_map.mpr ⟨_, listed, same⟩)
  | type unresolved => simp [Property.resolveType_eq_ok_iff.mpr gives.type] at unresolved

/-- The first failure of a property is that of the first check that it breaks. -/
theorem Property.Fails.exists_breaks {property : Property} {earlier : List Property}
    {fault : SchemaFault} (fails : property.Fails (earlier.map (·.name)) fault) :
    ∃ check, property.Breaks earlier check fault ∧
      ∀ other otherFault, property.Breaks earlier other otherFault → check.rank ≤ other.rank := by
  cases fails with
  | name identifier => exact ⟨.name, .name identifier, fun _ _ _ => Nat.zero_le _⟩
  | repeated identifier repeated =>
      obtain ⟨other, listed, same⟩ := List.mem_map.mp repeated
      refine ⟨.repetition, .repetition listed same, ?_⟩
      intro other otherFault breaks
      cases breaks with
      | name wrong => simp [identifier] at wrong
      | repetition _ _ => exact Nat.le_refl _
      | type _ => decide
  | type identifier fresh unresolved =>
      refine ⟨.type, .type unresolved, ?_⟩
      intro other otherFault breaks
      cases breaks with
      | name wrong => simp [identifier] at wrong
      | repetition listed same => exact absurd (List.mem_map.mpr ⟨_, listed, same⟩) fresh
      | type _ => exact Nat.le_refl _

/-- With distinct names, no property has the name of one before it. -/
theorem Property.name_not_mem_take {properties : List Property}
    (distinct : (properties.map (·.name)).Nodup) {index : Nat} {property : Property}
    (there : properties[index]? = some property) :
    property.name ∉ (properties.take index).map (·.name) := by
  rw [List.map_take]
  apply not_mem_take_of_nodup distinct
  rw [List.getElem?_map, there, Option.map_some]

/-! ## Checks of declarations -/

namespace Declaration

variable {declaration : Declaration} {check : Check} {fault : SchemaFault}

theorem Breaks.kind_ne (breaks : declaration.Breaks .kind fault) :
    declaration.kind ≠ .plainClass := by
  cases breaks with
  | interface kind => simp [kind]
  | enumeration kind => rcases kind with kind | kind <;> simp [kind]
  | object kind => simp [kind]
  | annotationType kind => simp [kind]

/-- A check that is broken is not made at the time of one that is passed. -/
theorem Breaks.rank_ne (breaks : declaration.Breaks check fault) (passed : Check)
    (sound : ∀ other, ¬declaration.Breaks passed other) : check.rank ≠ passed.rank := by
  intro same
  obtain rfl := Check.rank_injective same
  exact sound fault breaks

/-- A plain class breaks no check before that of the data modifier. -/
theorem Breaks.one_le_rank (breaks : declaration.Breaks check fault)
    (kind : declaration.kind = .plainClass) : 1 ≤ check.rank :=
  Nat.pos_of_ne_zero (breaks.rank_ne .kind fun _ other => other.kind_ne kind)

/-- A data class breaks no check before that of the type parameters. -/
theorem Breaks.two_le_rank (breaks : declaration.Breaks check fault)
    (kind : declaration.kind = .plainClass) (data : "data" ∈ declaration.modifiers) :
    2 ≤ check.rank := by
  refine Nat.lt_of_le_of_ne (breaks.one_le_rank kind) (breaks.rank_ne .data ?_).symm
  intro other wrong
  cases wrong with
  | notData missing => exact missing data

/-- A plain record breaks no check before that of the qualified name. -/
theorem Breaks.three_le_rank (breaks : declaration.Breaks check fault)
    (plain : declaration.PlainRecord) : 3 ≤ check.rank := by
  refine Nat.lt_of_le_of_ne (breaks.two_le_rank plain.kind plain.data)
    (breaks.rank_ne .typeParams ?_).symm
  intro other wrong
  cases wrong with
  | generic listed => exact listed plain.notGeneric

/-- A plain record with a good qualified name breaks no check before that of the simple name. -/
theorem Breaks.four_le_rank (breaks : declaration.Breaks check fault)
    (plain : declaration.PlainRecord)
    (qualified : QualifiedName.fault? declaration.qualifiedName = none) : 4 ≤ check.rank := by
  refine Nat.lt_of_le_of_ne (breaks.three_le_rank plain) (breaks.rank_ne .qualifiedName ?_).symm
  intro other wrong
  cases wrong with
  | qualifiedName found => simp [qualified] at found

/-- A plain record with two good names breaks checks of properties only. -/
theorem Breaks.exists_property (breaks : declaration.Breaks check fault)
    (plain : declaration.PlainRecord)
    (qualified : QualifiedName.fault? declaration.qualifiedName = none)
    (simple : Identifier.fault? declaration.simpleName = none) :
    ∃ index part property, check = .property index part ∧
      declaration.primaryProperties[index]? = some property ∧
        property.Breaks (declaration.primaryProperties.take index) part fault := by
  have late := breaks.four_le_rank plain qualified
  cases breaks with
  | simpleName found => simp [simple] at found
  | property there wrong => exact ⟨_, _, _, rfl, there, wrong⟩
  | _ => exact absurd late (by decide)

/-- The first broken check of a declaration whose record rules are broken is one of them. -/
theorem exists_breaksFirst_of_recordFault? {fault : RecordFault}
    (found : declaration.recordFault? = some fault) :
    ∃ check, declaration.BreaksFirst check (.notARecord fault) ∧ check.rank < 3 := by
  have atKind (breaks : declaration.Breaks .kind (.notARecord fault)) :
      ∃ check, declaration.BreaksFirst check (.notARecord fault) ∧ check.rank < 3 :=
    ⟨.kind, .of_le breaks fun _ _ _ => Nat.zero_le _, by decide⟩
  unfold recordFault? at found
  cases kind : declaration.kind with
  | interface =>
      obtain rfl : RecordFault.interface = fault := by simpa [kind] using found
      exact atKind (.interface kind)
  | enumClass =>
      obtain rfl : RecordFault.enumeration = fault := by simpa [kind] using found
      exact atKind (.enumeration (.inl kind))
  | enumEntry =>
      obtain rfl : RecordFault.enumeration = fault := by simpa [kind] using found
      exact atKind (.enumeration (.inr kind))
  | object =>
      obtain rfl : RecordFault.object = fault := by simpa [kind] using found
      exact atKind (.object kind)
  | annotationClass =>
      obtain rfl : RecordFault.annotationType = fault := by simpa [kind] using found
      exact atKind (.annotationType kind)
  | plainClass =>
      by_cases data : "data" ∈ declaration.modifiers
      · have generic : declaration.typeParams ≠ [] := by
          intro noParams
          simp [kind, isData, data, noParams] at found
        obtain rfl : RecordFault.generic declaration.typeParams = fault := by
          simpa [kind, isData, data, generic] using found
        exact ⟨.typeParams,
          .of_le (.generic generic) fun _ _ other => other.two_le_rank kind data, by decide⟩
      · obtain rfl : RecordFault.notData = fault := by simpa [kind, isData, data] using found
        exact ⟨.data, .of_le (.notData data) fun _ _ other => other.one_le_rank kind, by decide⟩

/-- The first broken check of a declaration that fails at a property is one of that property. -/
theorem exists_breaksFirst_of_property {front back : List Property} {property : Property}
    {fields : List Field} (plain : declaration.PlainRecord)
    (qualified : QualifiedName.fault? declaration.qualifiedName = none)
    (simple : Identifier.fault? declaration.simpleName = none)
    (split : declaration.primaryProperties = front ++ property :: back)
    (gives : List.Forall₂ Property.Gives front fields) (distinct : (front.map (·.name)).Nodup)
    (fails : property.Fails (front.map (·.name)) fault) :
    ∃ part, declaration.BreaksFirst (.property front.length part) fault := by
  have here : declaration.primaryProperties[front.length]? = some property := by simp [split]
  have before : declaration.primaryProperties.take front.length = front := by simp [split]
  obtain ⟨part, breaks, least⟩ := fails.exists_breaks
  refine ⟨part, .of_le (.property here ?_) ?_⟩
  · rw [before]
    exact breaks
  intro other otherFault otherBreaks
  obtain ⟨index, otherPart, found, rfl, there, wrong⟩ :=
    otherBreaks.exists_property plain qualified simple
  have below := part.rank_lt
  rcases Nat.lt_trichotomy index front.length with earlier | same | later
  · -- The properties in front give fields, so they break nothing.
    rw [split, List.take_append_of_le_length (Nat.le_of_lt earlier)] at wrong
    rw [split, List.getElem?_append_left earlier] at there
    obtain ⟨field, -, givesFound⟩ := Property.exists_field gives there
    exact absurd wrong (givesFound.not_breaks (Property.name_not_mem_take distinct there))
  · subst same
    obtain rfl : property = found := Option.some.inj (here.symm.trans there)
    rw [before] at wrong
    exact Nat.add_le_add_left (least _ _ wrong) _
  · simp only [Check.rank]
    omega

/-- **A declaration is refused for the first check that it breaks.** If this is a check of a
property, the properties before it are sound. -/
theorem Fails.exists_breaksFirst (fails : declaration.Fails fault) :
    ∃ check, declaration.BreaksFirst check fault ∧
      ∀ index part, check = .property index part → declaration.SoundBefore index := by
  cases fails with
  | record found =>
      obtain ⟨check, first, early⟩ := exists_breaksFirst_of_recordFault? found
      refine ⟨check, first, ?_⟩
      rintro index part rfl
      simp only [Check.rank] at early
      omega
  | qualifiedName plain found =>
      exact ⟨.qualifiedName,
        .of_le (.qualifiedName found) fun _ _ other => other.three_le_rank plain, nofun⟩
  | simpleName plain qualified found =>
      exact ⟨.simpleName,
        .of_le (.simpleName found) fun _ _ other => other.four_le_rank plain qualified, nofun⟩
  | @property front back property fields _ plain qualified simple split gives distinct fails =>
      obtain ⟨part, first⟩ :=
        exists_breaksFirst_of_property plain qualified simple split gives distinct fails
      refine ⟨_, first, ?_⟩
      rintro _ _ same
      obtain ⟨rfl, -⟩ := Check.property.inj same
      have before : declaration.primaryProperties.take front.length = front := by simp [split]
      constructor <;> rw [before]
      · exact Property.spelled_of_gives gives
      · exact distinct
      · exact Property.isTyped_of_gives gives

/-- Among the properties, the one of the first broken check is the first that breaks any. -/
theorem BreaksFirst.le_index {index : Nat} {part : PropertyCheck}
    (first : declaration.BreaksFirst (.property index part) fault) {other : Nat}
    {otherPart : PropertyCheck} {otherFault : SchemaFault}
    (breaks : declaration.Breaks (.property other otherPart) otherFault) : index ≤ other := by
  have below := otherPart.rank_lt
  rcases first.others _ _ breaks with same | before
  · exact Nat.le_of_eq (Check.property.inj same).1.symm
  · simp only [Check.Before, Check.rank] at before
    omega

end Declaration

theorem Property.Breaks.subject?_eq {property : Property} {earlier : List Property}
    {check : PropertyCheck} {fault : SchemaFault} (breaks : property.Breaks earlier check fault) :
    fault.subject? = some property.name := by
  cases breaks <;> rfl

/-- **A rejection tells the earliest failure.** It has the name of the declaration, and its fault is
that of the first check that the declaration breaks. If this is the check of a primary property,
* the fault names that property, no property before it breaks any check, and those before it have
  identifiers for names, which are pairwise distinct, and types that resolve;
* a repeated name is that of an earlier primary property, which is sound itself;
* a type that does not resolve is reported with the reason why it does not. -/
theorem Schema.rejection_of_first_check {declaration : Declaration} {rejection : Rejection}
    (rejected : ofDeclaration declaration = .error rejection) :
    rejection.qualifiedName = declaration.qualifiedName ∧
    ∃ check, declaration.BreaksFirst check rejection.fault ∧
      (∀ index part, check = .property index part →
        (∃ property, declaration.primaryProperties[index]? = some property ∧
          rejection.fault.subject? = some property.name) ∧
        (∀ other otherPart otherFault,
          declaration.Breaks (.property other otherPart) otherFault → index ≤ other) ∧
        declaration.SoundBefore index) ∧
      (∀ field, rejection.fault = .duplicateField field →
        ∃ index, check = .property index .repetition ∧
          ∃ other ∈ declaration.primaryProperties.take index,
            other.name = field ∧ Identifier.Spelled other.name ∧ other.IsTyped) ∧
      (∀ field reason, rejection.fault = .unresolvableField field reason →
        ∃ index property, check = .property index .type ∧
          declaration.primaryProperties[index]? = some property ∧ property.name = field ∧
            property.resolveType = .error reason) := by
  obtain ⟨name, fails⟩ := ofDeclaration_eq_error_iff.mp rejected
  obtain ⟨check, first, sound⟩ := fails.exists_breaksFirst
  refine ⟨name, check, first, ?ofProperty, ?ofRepetition, ?ofType⟩
  case ofProperty =>
    rintro index part rfl
    refine ⟨?_, fun _ _ _ => first.le_index, sound index part rfl⟩
    cases first.breaks with
    | property there breaks => exact ⟨_, there, breaks.subject?_eq⟩
  case ofRepetition =>
    intro field fault
    have breaks := first.breaks
    rw [fault] at breaks
    cases breaks with
    | @property index _ _ _ there wrong =>
        cases wrong with
        | repetition listed same =>
            have before := sound index _ rfl
            exact ⟨index, rfl, _, listed, same, before.names _ listed, before.typed _ listed⟩
  case ofType =>
    intro field reason fault
    have breaks := first.breaks
    rw [fault] at breaks
    cases breaks with
    | @property index property _ _ there wrong =>
        cases wrong with
        | type unresolved => exact ⟨index, property, rfl, there, rfl, unresolved⟩

/-- A record with a computed property that has no name, and with primary properties of which the
second repeats the first without having a type and the third has no identifier for a name. -/
def Manifest.sampleFaulty : Declaration :=
  { sampleOrigin with
    properties :=
      [⟨"", none, none, true⟩, ⟨"id", some ⟨"kotlin.Int", [], false⟩, none, false⟩,
        ⟨"id", none, none, false⟩, ⟨"1st", none, none, false⟩] }

/-- The repeated name is reported: the check of a repetition comes before that of the type. -/
theorem Schema.rejection_of_first_check_repeated :
    ofDeclaration Manifest.sampleFaulty = .error ⟨"app.Row", .duplicateField "id"⟩ ∧
    ∃ check, Manifest.sampleFaulty.BreaksFirst check (.duplicateField "id") ∧
      Manifest.sampleFaulty.Breaks (.property 1 .type) (.unresolvableField "id" (.missing "id")) ∧
      ∃ index, check = .property index .repetition ∧
        ∃ other ∈ Manifest.sampleFaulty.primaryProperties.take index,
          other.name = "id" ∧ Identifier.Spelled other.name ∧ other.IsTyped := by
  have rejected : ofDeclaration Manifest.sampleFaulty =
      .error ⟨"app.Row", .duplicateField "id"⟩ := rfl
  obtain ⟨-, check, first, -, repeated, -⟩ := Schema.rejection_of_first_check rejected
  have there : Manifest.sampleFaulty.primaryProperties[1]? = some ⟨"id", none, none, false⟩ := rfl
  exact ⟨rejected, check, first, .property there (.type rfl), repeated "id" rfl⟩

end RecordMapper
