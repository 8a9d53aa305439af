import RecordMapper.Declaration.Json
import RecordMapper.Proofs.Json.Printing

/-!
# Declarations that are written and read

What is written about a type, a property or a declaration is read as the same type, property or
declaration, after its objects were put in order (`DeclaredType.ofJson_sorted_toJson`,
`Declaration.ofJson_sorted_toJson`). Absent fields are left out, and what is left out is read as
absent. Nothing of this has numbers, so it can be printed and read.
-/

namespace RecordMapper

open RecordMapper.Json

/-! ## Lists -/

/-- A list is read back if each of its items is. -/
theorem Json.readList_sorted {α : Type} {readItem : Json → Except ShapeFault α} {write : α → Json}
    (readBack : ∀ value, readItem (write value).sorted = .ok value) (values : List α) :
    readList readItem (Json.array (values.map write)).sorted = .ok values := by
  rw [sorted, sortedItems_eq_map, readList, List.map_map]
  induction values with
  | nil => rfl
  | cons value rest ih =>
      rw [List.map_cons, List.mapM_cons, Function.comp_apply, readBack, ih]
      rfl

/-! ## Records -/

/-- Taking in all entries leads from one state to another. -/
def Json.TakesAll {σ : Type} (take : σ → String → Json → Except ShapeFault σ) (before : σ)
    (entries : List (String × Json)) (after : σ) : Prop :=
  entries.foldlM (fun found entry => take found entry.1 entry.2) before = .ok after

section

variable {σ α : Type} {take : σ → String → Json → Except ShapeFault σ} {before middle after : σ}
  {front back entries : List (String × Json)}

theorem Json.TakesAll.append (first : TakesAll take before front middle)
    (second : TakesAll take middle back after) : TakesAll take before (front ++ back) after := by
  rw [TakesAll, List.foldlM_append, bind_eq_ok_iff]
  exact ⟨middle, first, second⟩

theorem Json.takesAll_cons_iff {key : String} {value : Json} :
    TakesAll take before ((key, value) :: back) after ↔
      ∃ middle, take before key value = .ok middle ∧ TakesAll take middle back after := by
  rw [TakesAll, List.foldlM_cons, bind_eq_ok_iff]
  rfl

theorem Json.TakesAll.cons {key : String} {value : Json} (first : take before key value = .ok middle)
    (second : TakesAll take middle back after) : TakesAll take before ((key, value) :: back) after :=
  takesAll_cons_iff.mpr ⟨middle, first, second⟩

/-- A record is read from an object once all its entries are taken in. -/
theorem Json.TakesAll.read {form : RecordForm}
    {finish : (String → ShapeFault) → σ → Except ShapeFault α} {value : α}
    (taken : TakesAll take before entries after)
    (finished : finish .missingField after = .ok value) :
    form.read before take finish (.object entries) = .ok value := by
  rw [RecordForm.read, bind_eq_ok_iff]
  exact ⟨after, taken, finished⟩

end

/-! ## Types -/

namespace DeclaredType

/-- A type is written as an object. -/
theorem exists_sorted_toJson (type : DeclaredType) :
    ∃ entries, type.toJson.sorted = .object entries := by
  cases type
  exact ⟨_, rfl⟩

mutual

/-- **A type is read back.** -/
theorem ofJson_sorted_toJson : ∀ type : DeclaredType, ofJson type.toJson.sorted = .ok type
  | ⟨name, args, nullable⟩ => by
    have read := argsOfJson_sorted args
    have written : (toJson ⟨name, args, nullable⟩).sorted = .object
        [("args", .array (sortedItems (argsToJson args))), ("name", .string name),
          ("nullable", .bool nullable)] := rfl
    rw [written, ofJson]
    simp only [takeEntries, take, read, readString, readBool]
    rfl

theorem argsOfJson_sorted : ∀ args : List DeclaredArg,
    argsOfJson (sortedItems (argsToJson args)) = .ok args
  | [] => rfl
  | arg :: rest => by
    rw [argsToJson, sortedItems, argsOfJson, argOfJson_sorted_argToJson arg,
      argsOfJson_sorted rest]
    rfl

/-- An argument is read back as what it was: a shorthand is a string, whatever its text is, and a
projection is an object, with or without a type. -/
theorem argOfJson_sorted_argToJson : ∀ arg : DeclaredArg,
    argOfJson (argToJson arg).sorted = .ok arg
  | .shorthand text => rfl
  | .projection variance none => by cases variance <;> rfl
  | .projection variance (some type) => by
    have read := ofJson_sorted_toJson type
    obtain ⟨entries, object⟩ := type.exists_sorted_toJson
    have written : (argToJson (.projection variance (some type))).sorted = .object
        [("type", type.toJson.sorted), ("variance", .string variance.keyword)] := rfl
    rw [object] at written read
    rw [written, argOfJson]
    simp only [takeProjection, read]
    cases variance <;> rfl

end

/-- A type that may be absent is read back where it is present. -/
theorem readOption_sorted_toJson (type : DeclaredType) :
    readOption ofJson type.toJson.sorted = .ok (some type) := by
  have read := type.ofJson_sorted_toJson
  obtain ⟨entries, object⟩ := type.exists_sorted_toJson
  rw [object] at read ⊢
  change (ofJson (.object entries)).map some = _
  rw [read]
  rfl

mutual

theorem textual_toJson : ∀ type : DeclaredType, type.toJson.Textual
  | ⟨name, args, nullable⟩ => by
    refine .object (List.forall_mem_cons.mpr ⟨.string name, List.forall_mem_cons.mpr ⟨?_, ?_⟩⟩)
    · exact .array (textual_argsToJson args)
    · exact List.forall_mem_singleton.mpr (.bool nullable)

theorem textual_argsToJson : ∀ args : List DeclaredArg, ∀ item ∈ argsToJson args, item.Textual
  | [] => nofun
  | arg :: rest => List.forall_mem_cons.mpr ⟨textual_argToJson arg, textual_argsToJson rest⟩

theorem textual_argToJson : ∀ arg : DeclaredArg, (argToJson arg).Textual
  | .shorthand text => .string text
  | .projection _ none => .object (List.forall_mem_singleton.mpr (.string _))
  | .projection _ (some type) =>
    .object (List.forall_mem_cons.mpr
      ⟨.string _, List.forall_mem_singleton.mpr (textual_toJson type)⟩)

end

end DeclaredType

/-! ## Properties -/

namespace Property

/-- What is written about a property, in order. -/
theorem sorted_toJson (property : Property) :
    property.toJson.sorted = .object
      ([("computed", .bool property.computed), ("name", .string property.name)]
        ++ optionalEntry "receiver" (·.toJson.sorted) property.receiver?
        ++ optionalEntry "type" (·.toJson.sorted) property.type?) := by
  obtain ⟨name, type?, receiver?, computed⟩ := property
  cases type? <;> cases receiver? <;> rfl

theorem takesAll_type (name? : Option String) (type? receiver? : Option DeclaredType)
    (computed : Bool) :
    TakesAll take ⟨name?, none, receiver?, computed⟩
      (optionalEntry "type" (·.toJson.sorted) type?) ⟨name?, type?, receiver?, computed⟩ := by
  cases type? with
  | none => rfl
  | some type =>
      refine .cons ?_ rfl
      simp only [take, type.readOption_sorted_toJson]
      rfl

theorem takesAll_receiver (name? : Option String) (type? receiver? : Option DeclaredType)
    (computed : Bool) :
    TakesAll take ⟨name?, type?, none, computed⟩
      (optionalEntry "receiver" (·.toJson.sorted) receiver?) ⟨name?, type?, receiver?, computed⟩ := by
  cases receiver? with
  | none => rfl
  | some receiver =>
      refine .cons ?_ rfl
      simp only [take, receiver.readOption_sorted_toJson]
      rfl

/-- **A property is read back**, with its type and its receiver or without them. -/
theorem ofJson_sorted_toJson (property : Property) :
    ofJson property.toJson.sorted = .ok property := by
  have required : TakesAll take ⟨none, none, none, false⟩
      [("computed", .bool property.computed), ("name", .string property.name)]
      ⟨some property.name, none, none, property.computed⟩ := rfl
  rw [sorted_toJson]
  exact ((required.append (takesAll_receiver _ _ _ _)).append (takesAll_type _ _ _ _)).read rfl

theorem textual_toJson (property : Property) : property.toJson.Textual := by
  have optional (key : String) (type? : Option DeclaredType) :
      ∀ entry ∈ optionalEntry key DeclaredType.toJson type?, entry.2.Textual := by
    cases type? with
    | none => exact nofun
    | some type => exact List.forall_mem_singleton.mpr type.textual_toJson
  refine .object (List.forall_mem_cons.mpr ⟨.string _, ?_⟩)
  exact List.forall_mem_append.mpr ⟨List.forall_mem_append.mpr ⟨optional _ _, optional _ _⟩,
    List.forall_mem_singleton.mpr (.bool _)⟩

end Property

/-! ## Mappers -/

/-- **A mapper is read back.** -/
theorem Mapper.ofJson_sorted_toJson (target : String) :
    ofJson (toJson target).sorted = .ok target :=
  rfl

theorem Mapper.textual_toJson (target : String) : (toJson target).Textual :=
  .object (List.forall_mem_singleton.mpr (.string target))

/-! ## Declarations -/

/-- Each kind is read back from its name. -/
theorem DeclarationKind.readVariant_name (kind : DeclarationKind) :
    readVariant names (.string kind.name) = .ok kind := by
  cases kind <;> rfl

namespace Declaration

/-- What is written about a declaration, in order. -/
theorem sorted_toJson (declaration : Declaration) :
    declaration.toJson.sorted = .object
      ([("kind", .string declaration.kind.name),
        ("mappers", (Json.array (declaration.mappers.map Mapper.toJson)).sorted),
        ("modifiers", (Json.array (declaration.modifiers.map Json.string)).sorted),
        ("properties", (Json.array (declaration.properties.map Property.toJson)).sorted),
        ("qualified_name", .string declaration.qualifiedName)]
        ++ optionalEntry "simple_name" Json.string declaration.simpleName?
        ++ [("type_params", (Json.array (declaration.typeParams.map Json.string)).sorted)]) := by
  obtain ⟨qualifiedName, simpleName?, kind, modifiers, typeParams, properties, mappers⟩ :=
    declaration
  cases simpleName? <;> rfl

theorem takesAll_simpleName (parts : Parts) (name? : Option String) :
    TakesAll take { parts with simpleName? := none }
      (optionalEntry "simple_name" Json.string name?) { parts with simpleName? := name? } := by
  cases name? with
  | none => rfl
  | some name => rfl

/-- **A declaration is read back**, whatever its kind is, with its simple name or without it. -/
theorem ofJson_sorted_toJson (declaration : Declaration) :
    ofJson declaration.toJson.sorted = .ok declaration := by
  obtain ⟨qualifiedName, simpleName?, kind, modifiers, typeParams, properties, mappers⟩ :=
    declaration
  have texts (values : List String) :
      readList readString (Json.array (values.map Json.string)).sorted = .ok values :=
    readList_sorted (fun _ => rfl) values
  have first : TakesAll take .empty
      [("kind", .string kind.name),
        ("mappers", (Json.array (mappers.map Mapper.toJson)).sorted),
        ("modifiers", (Json.array (modifiers.map Json.string)).sorted),
        ("properties", (Json.array (properties.map Property.toJson)).sorted),
        ("qualified_name", .string qualifiedName)]
      ⟨some qualifiedName, none, some kind, modifiers, [], properties, mappers⟩ := by
    simp only [TakesAll, List.foldlM_cons, List.foldlM_nil, take, kind.readVariant_name, texts,
      readList_sorted Mapper.ofJson_sorted_toJson, readList_sorted Property.ofJson_sorted_toJson]
    rfl
  have named := takesAll_simpleName
    ⟨some qualifiedName, none, some kind, modifiers, [], properties, mappers⟩ simpleName?
  have last : TakesAll take
      ⟨some qualifiedName, simpleName?, some kind, modifiers, [], properties, mappers⟩
      [("type_params", (Json.array (typeParams.map Json.string)).sorted)]
      ⟨some qualifiedName, simpleName?, some kind, modifiers, typeParams, properties, mappers⟩ := by
    refine .cons ?_ rfl
    simp only [take, texts]
    rfl
  rw [sorted_toJson]
  exact ((first.append named).append last).read rfl

theorem textual_toJson (declaration : Declaration) : declaration.toJson.Textual := by
  have optional : ∀ entry ∈ optionalEntry "simple_name" Json.string declaration.simpleName?,
      entry.2.Textual := by
    cases declaration.simpleName? with
    | none => exact nofun
    | some name => exact List.forall_mem_singleton.mpr (.string name)
  refine .object (List.forall_mem_cons.mpr ⟨.string _, List.forall_mem_append.mpr ⟨optional, ?_⟩⟩)
  simp only [List.forall_mem_cons, List.not_mem_nil, false_implies, implies_true, and_true]
  exact ⟨.string _, .map Textual.string _, .map Textual.string _, .map Property.textual_toJson _,
    .map Mapper.textual_toJson _⟩

end Declaration

end RecordMapper
