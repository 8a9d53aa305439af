import RecordMapper.Proofs.MappingFunction.OfCandidate
import RecordMapper.Proofs.MappingFunction.Readable

/-!
# Signatures of mapping functions

Two functions conflict as overloads if they agree in receiver, name and parameter types. For
functions of valid declarations this can be told from the declarations: the text of a parameter's
type tells the types that it is made of (`Parameter.typeText_eq_iff`), and these are the type of the
target's property and that of the origin's property of the same name
(`MappingFunction.conflictsWith_between_iff`).
-/

namespace RecordMapper

open RecordMapper.Text

/-- Two functions that no caller can tell apart: they have the same receiver, the same name, and
parameters of the same types in the same order. -/
structure MappingFunction.ConflictsWith (first second : MappingFunction) : Prop where
  receiver : first.receiver = second.receiver
  name : first.name = second.name
  parameters : first.parameters.map (·.typeText) = second.parameters.map (·.typeText)

/-! ## The types of a parameter -/

/-- The types that a parameter's type is made of: the origin's, if it is a function, and the
target's. -/
def ParameterKind.types : ParameterKind → Option String × Option String
  | value type => (none, some type)
  | transform source result _ => (some source, some result)

/-- The text of a parameter's type is that of a parameter with the same types and no default. -/
theorem Parameter.exists_chars {parameter : Parameter} (wellFormed : parameter.kind.WellFormed) :
    ∃ kind : ParameterKind, kind.WellFormed ∧ kind.types = parameter.kind.types ∧
      kind.chars = parameter.typeText.toList := by
  obtain ⟨name, kind⟩ := parameter
  cases kind with
  | value type => exact ⟨.value type, wellFormed, rfl, rfl⟩
  | transform source result identityDefault =>
      refine ⟨.transform source result false, wellFormed, rfl, ?_⟩
      simp [ParameterKind.chars, typeText]

/-- **The text of a parameter's type tells the types in it.** -/
theorem Parameter.typeText_eq_iff {first second : Parameter}
    (wellFormed : first.kind.WellFormed) (otherWellFormed : second.kind.WellFormed) :
    first.typeText = second.typeText ↔ first.kind.types = second.kind.types := by
  constructor
  · intro same
    obtain ⟨kind, valid, types, chars⟩ := exists_chars wellFormed
    obtain ⟨other, otherValid, otherTypes, otherChars⟩ := exists_chars otherWellFormed
    have kinds : kind = other := by
      apply ParameterKind.chars_injective valid otherValid
      rw [chars, otherChars, same]
    rw [← types, ← otherTypes, kinds]
  · obtain ⟨name, kind⟩ := first
    obtain ⟨otherName, otherKind⟩ := second
    intro same
    cases kind with
    | value type =>
        cases otherKind with
        | value otherType =>
            cases same
            rfl
        | transform source result identityDefault => cases same
    | transform source result identityDefault =>
        cases otherKind with
        | value otherType => cases same
        | transform otherSource otherResult otherDefault =>
            cases same
            rfl

theorem Parameter.map_typeText_eq_iff {first second : List Parameter}
    (wellFormed : ∀ parameter ∈ first, parameter.WellFormed)
    (otherWellFormed : ∀ parameter ∈ second, parameter.WellFormed) :
    first.map (·.typeText) = second.map (·.typeText) ↔
      first.map (·.kind.types) = second.map (·.kind.types) := by
  induction first generalizing second with
  | nil => rw [List.map_nil, List.map_nil, List.nil_eq, List.nil_eq, List.map_eq_nil_iff,
      List.map_eq_nil_iff]
  | cons parameter rest ih =>
      cases second with
      | nil => exact iff_of_false (List.cons_ne_nil _ _) (List.cons_ne_nil _ _)
      | cons other others =>
          rw [List.forall_mem_cons] at wellFormed otherWellFormed
          rw [List.map_cons, List.map_cons, List.map_cons, List.map_cons, List.cons.injEq,
            List.cons.injEq, typeText_eq_iff wellFormed.1.2 otherWellFormed.1.2,
            ih wellFormed.2 otherWellFormed.2]

/-! ## The types in declarations -/

/-- The text of a property's type, if the type resolves. -/
def Property.typeText? (erase : Bool) (property : Property) : Option String :=
  property.resolveType.toOption.map (·.render erase)

/-- The types that the parameter for a property is made of, told from the declarations alone: that
of the origin's primary property of its name, if there is one, and its own. -/
def Property.signature (erase : Bool) (origin : Declaration) (property : Property) :
    Option String × Option String :=
  ((origin.primaryProperties.find? fun other => other.name = property.name).bind
    (·.typeText? erase), property.typeText? erase)

/-- The types for the primary properties of a target, in order. -/
def Declaration.signatureFrom (erase : Bool) (origin target : Declaration) :
    List (Option String × Option String) :=
  target.primaryProperties.map (·.signature erase origin)

theorem Property.Gives.typeText? {property : Property} {field : Field}
    (gives : property.Gives field) (erase : Bool) :
    property.typeText? erase = some (field.type.render erase) := by
  rw [Property.typeText?, Property.resolveType_eq_ok_iff.mpr gives.type]
  rfl

/-- Looking for a property by its name finds the type of the field of that name. -/
theorem Property.typeText?_find? {properties : List Property} {fields : List Field}
    (gives : List.Forall₂ Property.Gives properties fields) (erase : Bool) (name : String) :
    (properties.find? fun property => property.name = name).bind (·.typeText? erase) =
      (fields.find? fun field => field.name = name).map (·.type.render erase) := by
  induction gives with
  | nil => rfl
  | @cons property field rest others givesFirst _ ih =>
      by_cases same : property.name = name
      · rw [List.find?_cons_of_pos (by simpa using same),
          List.find?_cons_of_pos (by simpa [givesFirst.name] using same), Option.bind_some,
          Option.map_some, givesFirst.typeText? erase]
      · rw [List.find?_cons_of_neg (by simpa using same),
          List.find?_cons_of_neg (by simpa [givesFirst.name] using same), ih]

/-- The parameter for a field is made of the types in the signature of its property. -/
theorem Property.signature_sourceOf {origin : Declaration} {schema : Schema} {property : Property}
    {field : Field} (describes : origin.Describes schema) (gives : property.Gives field)
    (erase : Bool) :
    property.signature erase origin = ((schema.sourceOf field).parameter erase).kind.types := by
  rw [signature, Property.typeText?_find? describes.fields, gives.typeText? erase, Schema.sourceOf,
    Schema.field?, gives.name]
  cases schema.fields.find? fun other => other.name = property.name with
  | none => rfl
  | some first => rfl

/-- The parameters of a function are made of the types in the signature of its target. -/
theorem MappingFunction.types_between {origin target : Declaration} {schema targetSchema : Schema}
    (describes : origin.Describes schema) (describesTarget : target.Describes targetSchema)
    (erase : Bool) :
    (between erase schema targetSchema).parameters.map (·.kind.types) =
      origin.signatureFrom erase target := by
  have fields : List.Forall₂ (fun property field => property.signature erase origin =
      ((schema.sourceOf field).parameter erase).kind.types)
      target.primaryProperties targetSchema.fields :=
    describesTarget.fields.imp fun _ _ gives => Property.signature_sourceOf describes gives erase
  rw [between, ofSources, Schema.sources, List.map_map, List.map_map, Declaration.signatureFrom,
    eq_comm, ← List.forall₂_eq_eq_eq, List.forall₂_map_left_iff, List.forall₂_map_right_iff]
  exact fields

/-- **Functions conflict** exactly if their origins have the same name, their targets the same
simple name, and the signatures of the targets are the same. -/
theorem MappingFunction.conflictsWith_between_iff
    {origin target otherOrigin otherTarget : Declaration}
    {schema targetSchema otherSchema otherTargetSchema : Schema}
    (describes : origin.Describes schema) (describesTarget : target.Describes targetSchema)
    (otherDescribes : otherOrigin.Describes otherSchema)
    (otherDescribesTarget : otherTarget.Describes otherTargetSchema) (erase : Bool) :
    (between erase schema targetSchema).ConflictsWith
        (between erase otherSchema otherTargetSchema) ↔
      origin.qualifiedName = otherOrigin.qualifiedName ∧
        target.simpleName = otherTarget.simpleName ∧
          origin.signatureFrom erase target = otherOrigin.signatureFrom erase otherTarget := by
  have receivers : (between erase schema targetSchema).receiver =
      (between erase otherSchema otherTargetSchema).receiver ↔
        origin.qualifiedName = otherOrigin.qualifiedName := by
    rw [← describes.qualifiedName, ← otherDescribes.qualifiedName]
    rfl
  have names : (between erase schema targetSchema).name =
      (between erase otherSchema otherTargetSchema).name ↔
        target.simpleName = otherTarget.simpleName := by
    rw [← describesTarget.simpleName, ← otherDescribesTarget.simpleName]
    exact String.append_right_inj "mapTo"
  have parameters := Parameter.map_typeText_eq_iff
    (wellFormed_between describes describesTarget erase).parameters
    (wellFormed_between otherDescribes otherDescribesTarget erase).parameters
  rw [types_between describes describesTarget, types_between otherDescribes otherDescribesTarget]
    at parameters
  constructor
  · intro conflicts
    exact ⟨receivers.mp conflicts.receiver, names.mp conflicts.name,
      parameters.mp conflicts.parameters⟩
  · intro alike
    obtain ⟨origins, simpleNames, signatures⟩ := alike
    exact ⟨receivers.mpr origins, names.mpr simpleNames, parameters.mpr signatures⟩

end RecordMapper
