import RecordMapper.Proofs.ResolvedType.WellFormed
import RecordMapper.Schema.OfDeclaration

/-!
# Stars for arguments

`starred` puts a star in the place of every argument of a type and leaves the number of arguments,
the name and the nullability as they are. Two declarations that become equal in this way differ in
the arguments of their property types at most (`DeclaredType.starred_eq_iff`). Where all types of
properties resolve, validating a declaration commutes with it (`Schema.ofDeclaration_starred`).
-/

namespace RecordMapper

/-- The type with a star for each argument. -/
def ResolvedType.starred (type : ResolvedType) : ResolvedType :=
  ⟨type.qualifiedName, type.args.map fun _ => .star, type.nullable⟩

/-- A field with stars in place of all arguments in its type. -/
def Field.starred (field : Field) : Field :=
  { field with type := field.type.starred }

/-- A schema with stars in place of all arguments in the types of its fields. -/
def Schema.starred (schema : Schema) : Schema :=
  { schema with fields := schema.fields.map Field.starred }

/-- The type with a star for each argument. -/
def DeclaredType.starred (type : DeclaredType) : DeclaredType :=
  ⟨type.name, type.args.map fun _ => .shorthand "*", type.nullable⟩

/-- The property with a star for each argument of its type. -/
def Property.starred (property : Property) : Property :=
  { property with type? := property.type?.map DeclaredType.starred }

/-- The declaration with a star for each argument of each property type. -/
def Declaration.starred (declaration : Declaration) : Declaration :=
  { declaration with properties := declaration.properties.map Property.starred }

/-- The type of the property resolves if it has one. -/
def Property.Resolves (property : Property) : Prop :=
  ∀ type, property.type? = some type → ∃ resolved, type.resolve = .ok resolved

/-- All types of properties resolve. -/
def Declaration.Resolves (declaration : Declaration) : Prop :=
  ∀ property ∈ declaration.properties, property.Resolves

/-- Two types agree up to their arguments if they have the same name, the same nullability, and
equally many arguments. -/
theorem DeclaredType.starred_eq_iff {first second : DeclaredType} :
    first.starred = second.starred ↔ first.name = second.name ∧
      first.args.length = second.args.length ∧ first.nullable = second.nullable := by
  rw [starred, starred, DeclaredType.mk.injEq, List.map_const', List.map_const',
    List.replicate_inj]
  simp

/-! ## Types -/

theorem resolveArgs_stars {α : Type} (position : Nat) (args : List α) :
    resolveArgs position (args.map fun _ => .shorthand "*") = .ok (args.map fun _ => .star) := by
  induction args generalizing position with
  | nil => rfl
  | cons arg rest ih =>
      have star : resolveArg position (.shorthand "*") = .ok .star := by
        rw [resolveArg, if_pos (by decide)]
      simp only [List.map_cons, resolveArgs, star, ih]

theorem length_of_resolveArgs {position : Nat} {args : List DeclaredArg} {resolved : List TypeArg}
    (success : resolveArgs position args = .ok resolved) : resolved.length = args.length := by
  induction args generalizing position resolved with
  | nil =>
      simp only [resolveArgs, Except.ok.injEq] at success
      rw [← success]
      rfl
  | cons arg rest ih =>
      obtain ⟨first, others, -, checked, rfl⟩ := resolveArgs_cons_eq_ok_iff.mp success
      rw [List.length_cons, List.length_cons, ih checked]

/-- A type that resolves does so with stars for its arguments, to the same head with as many
stars. -/
theorem DeclaredType.resolve_starred {type : DeclaredType} {resolved : ResolvedType}
    (success : type.resolve = .ok resolved) : type.starred.resolve = .ok resolved.starred := by
  obtain ⟨name, args, nullable⟩ := type
  obtain ⟨valid, arguments, checked, rfl⟩ := resolve_eq_ok_iff.mp success
  have stars : arguments.map (fun _ => TypeArg.star) = args.map fun _ => TypeArg.star := by
    rw [List.map_const', List.map_const', length_of_resolveArgs checked]
  rw [starred, ResolvedType.starred, stars]
  exact resolve_eq_ok_iff.mpr ⟨valid, _, resolveArgs_stars 0 args, rfl⟩

/-! ## Declarations -/

theorem Property.resolveType_starred {property : Property} (resolves : property.Resolves) :
    property.starred.resolveType = property.resolveType.map ResolvedType.starred := by
  obtain ⟨name, type?, receiver?, computed⟩ := property
  cases type? with
  | none => rfl
  | some type =>
      obtain ⟨resolved, success⟩ := resolves type rfl
      simp [resolveType, starred, success, type.resolve_starred success, Except.map]

theorem Property.field_starred {property : Property} (resolves : property.Resolves)
    (earlier : List String) :
    property.starred.field earlier = (property.field earlier).map Field.starred := by
  have named : property.starred.name = property.name := rfl
  unfold field
  rw [resolveType_starred resolves, named]
  cases Identifier.fault? property.name with
  | some fault => rfl
  | none =>
      by_cases repeated : earlier.contains property.name = true
      · simp only [repeated, if_true]
        rfl
      · simp only [repeated]
        cases property.resolveType <;> rfl

theorem fieldsAfter_starred {properties : List Property}
    (resolve : ∀ property ∈ properties, property.Resolves) (earlier : List String) :
    fieldsAfter earlier (properties.map Property.starred) =
      (fieldsAfter earlier properties).map (List.map Field.starred) := by
  induction properties generalizing earlier with
  | nil => rfl
  | cons property rest ih =>
      have others : fieldsAfter (property.starred.name :: earlier) (rest.map Property.starred) =
          (fieldsAfter (property.name :: earlier) rest).map (List.map Field.starred) :=
        ih (fun other member => resolve other (List.mem_cons_of_mem _ member)) _
      simp only [List.map_cons, fieldsAfter, others,
        Property.field_starred (resolve property List.mem_cons_self)]
      cases property.field earlier with
      | error fault => rfl
      | ok field => cases fieldsAfter (property.name :: earlier) rest <;> rfl

theorem Declaration.primaryProperties_starred (declaration : Declaration) :
    declaration.starred.primaryProperties =
      declaration.primaryProperties.map Property.starred :=
  List.filter_map

/-- **Validation does not look into arguments.** With stars for arguments a declaration gives the
schema with stars for arguments, or the same reason to reject it. -/
theorem Schema.ofDeclaration_starred {declaration : Declaration}
    (resolves : declaration.Resolves) :
    ofDeclaration declaration.starred = (ofDeclaration declaration).map Schema.starred := by
  have fields : fieldsAfter [] declaration.starred.primaryProperties =
      (fieldsAfter [] declaration.primaryProperties).map (List.map Field.starred) := by
    rw [Declaration.primaryProperties_starred]
    exact fieldsAfter_starred
      (fun property member => resolves property (List.mem_filter.mp member).1) []
  have plain : declaration.starred.recordFault? = declaration.recordFault? := rfl
  have names : declaration.starred.nameFault? = declaration.nameFault? := rfl
  unfold ofDeclaration Declaration.schemaOrFault
  rw [fields, plain, names]
  cases declaration.recordFault? with
  | some fault => rfl
  | none =>
      cases declaration.nameFault? with
      | some fault => rfl
      | none => cases fieldsAfter [] declaration.primaryProperties <;> rfl

end RecordMapper
