import Mathlib.Data.List.Nodup
import RecordMapper.Matching
import RecordMapper.Proofs.Lookup

/-!
# Matching in both directions

Two schemas are matched alike in both directions (`Schema.sources_symmetric`). A transform links two
fields of one name, and as no name occurs twice among the fields of a schema, either of the two
tells the other (`Schema.transform_mem_sources_iff`). Whether the identity is offered depends on the
heads of their types, in no order.
-/

namespace RecordMapper

theorem ResolvedType.sameHead_comm (first second : ResolvedType) :
    first.sameHead second = second.sameHead first := by
  simp only [sameHead, eq_comm]

theorem ResolvedType.sameHead_self (type : ResolvedType) : type.sameHead type = true := by
  simp [sameHead]

/-! ## Links -/

/-- Two fields with a transform between them, and whether it can be the identity. -/
structure FieldLink where
  origin : Field
  target : Field
  identityDefault : Bool

/-- The names of the two fields of a link. -/
def FieldLink.names (link : FieldLink) : String × String :=
  (link.origin.name, link.target.name)

/-- The link in the other direction. -/
def FieldLink.reversed (link : FieldLink) : FieldLink :=
  ⟨link.target, link.origin, link.identityDefault⟩

/-- The link of a source, if it transforms a field of the origin. -/
def FieldSource.link? : FieldSource → Option FieldLink
  | direct _ => none
  | transform origin target identityDefault => some ⟨origin, target, identityDefault⟩

/-- The field whose value the caller passes. -/
def FieldSource.passed? : FieldSource → Option Field
  | direct target => some target
  | transform .. => none

namespace Schema

/-- The names of the fields, in order. -/
def fieldNames (schema : Schema) : List String :=
  schema.fields.map (·.name)

/-- The links of two schemas, in target field order. -/
def links (origin target : Schema) : List FieldLink :=
  (origin.sources target).filterMap (·.link?)

/-- The names of fields that both schemas have, in target field order. -/
def sharedNames (origin target : Schema) : List String :=
  target.fieldNames.filter (· ∈ origin.fieldNames)

variable {origin target : Schema} {field other : Field} {identityDefault : Bool}

theorem field?_eq_none_iff {name : String} :
    origin.field? name = none ↔ name ∉ origin.fieldNames := by
  simp [field?, fieldNames]

theorem name_of_field? {name : String} (found : origin.field? name = some field) :
    field.name = name := by
  simpa using List.find?_some found

theorem mem_fieldNames_of_field? {name : String} (found : origin.field? name = some field) :
    name ∈ origin.fieldNames := by
  by_contra absent
  rw [field?_eq_none_iff.mpr absent] at found
  cases found

/-! ## Sources -/

/-- A transform leads to the field from the field of its name. -/
theorem sourceOf_eq_transform_iff (distinct : origin.fieldNames.Nodup) {given : Field} :
    origin.sourceOf given = .transform field other identityDefault ↔
      given = other ∧ field ∈ origin.fields ∧ field.name = other.name ∧
        field.type.sameHead other.type = identityDefault := by
  have search : origin.field? given.name = some field ↔
      field ∈ origin.fields ∧ field.name = given.name :=
    find?_key_eq_some_iff distinct
  unfold sourceOf
  constructor
  · intro same
    split at same
    · next found =>
        cases same
        obtain ⟨listed, named⟩ := search.mp found
        exact ⟨rfl, listed, named, rfl⟩
    · cases same
  · rintro ⟨rfl, listed, named, rfl⟩
    rw [search.mpr ⟨listed, named⟩]

/-- The transforms from one schema to another: between each two fields of one name. -/
theorem transform_mem_sources_iff (distinct : origin.fieldNames.Nodup) :
    FieldSource.transform field other identityDefault ∈ origin.sources target ↔
      field ∈ origin.fields ∧ other ∈ target.fields ∧ field.name = other.name ∧
        field.type.sameHead other.type = identityDefault := by
  simp only [sources, List.mem_map, sourceOf_eq_transform_iff distinct]
  constructor
  · rintro ⟨given, there, rfl, listed, named, heads⟩
    exact ⟨listed, there, named, heads⟩
  · rintro ⟨listed, there, named, heads⟩
    exact ⟨other, there, rfl, listed, named, heads⟩

theorem passed?_sourceOf (origin : Schema) (field : Field) :
    (origin.sourceOf field).passed? = Option.guard (·.name ∉ origin.fieldNames) field := by
  unfold sourceOf
  cases found : origin.field? field.name with
  | none =>
      have absent := field?_eq_none_iff.mp found
      simp only [FieldSource.passed?, Option.guard, absent, not_false_eq_true, decide_true, if_true]
  | some source =>
      have listed := mem_fieldNames_of_field? found
      simp only [FieldSource.passed?, Option.guard, listed, not_true, decide_false,
        Bool.false_eq_true, if_false]

/-- The caller passes the values of the fields whose names the origin lacks. -/
theorem filterMap_passed?_sources (origin target : Schema) :
    (origin.sources target).filterMap (·.passed?) =
      target.fields.filter (·.name ∉ origin.fieldNames) := by
  rw [sources, List.filterMap_map, ← List.filterMap_eq_filter]
  exact List.filterMap_congr fun field _ => origin.passed?_sourceOf field

theorem names_link?_sourceOf (origin : Schema) (field : Field) :
    (origin.sourceOf field).link?.map FieldLink.names =
      (Option.guard (· ∈ origin.fieldNames) field.name).map fun name => (name, name) := by
  unfold sourceOf
  cases found : origin.field? field.name with
  | none =>
      have absent := field?_eq_none_iff.mp found
      simp only [FieldSource.link?, Option.guard, absent, decide_false, Bool.false_eq_true,
        if_false, Option.map_none]
  | some source =>
      have listed := mem_fieldNames_of_field? found
      simp only [FieldSource.link?, Option.guard, listed, decide_true, if_true, Option.map_some,
        FieldLink.names, name_of_field? found]

/-- A link pairs a shared name with itself, and each shared name has one link. -/
theorem map_names_links (origin target : Schema) :
    (origin.links target).map FieldLink.names =
      (origin.sharedNames target).map fun name => (name, name) := by
  have names : target.fieldNames = target.fields.map (·.name) := rfl
  rw [links, sources, sharedNames, names, List.filterMap_map, List.map_filterMap,
    ← List.filterMap_eq_filter, List.map_filterMap, List.filterMap_map]
  exact List.filterMap_congr fun field _ => origin.names_link?_sourceOf field

theorem mem_links_iff {link : FieldLink} :
    link ∈ origin.links target ↔
      FieldSource.transform link.origin link.target link.identityDefault ∈
        origin.sources target := by
  rw [links, List.mem_filterMap]
  constructor
  · rintro ⟨source, listed, linked⟩
    cases source with
    | direct field => cases linked
    | transform field other identityDefault =>
        cases linked
        exact listed
  · intro listed
    exact ⟨_, listed, rfl⟩

theorem nodup_links (origin : Schema) (distinct : target.fieldNames.Nodup) :
    (origin.links target).Nodup := by
  have names : ((origin.sharedNames target).map fun name => (name, name)).Nodup :=
    (distinct.filter _).map fun first second same => (Prod.mk.inj same).1
  rw [← map_names_links] at names
  exact names.of_map

/-- A transform has its counterpart in the other direction. -/
theorem transform_mem_sources_comm (distinct : origin.fieldNames.Nodup)
    (otherDistinct : target.fieldNames.Nodup) :
    FieldSource.transform field other identityDefault ∈ origin.sources target ↔
      FieldSource.transform other field identityDefault ∈ target.sources origin := by
  rw [transform_mem_sources_iff distinct, transform_mem_sources_iff otherDistinct,
    ResolvedType.sameHead_comm, eq_comm (a := field.name)]
  exact and_left_comm

/-- The links in one direction are those in the other, reversed. -/
theorem perm_links (distinct : origin.fieldNames.Nodup) (otherDistinct : target.fieldNames.Nodup) :
    (target.links origin).Perm ((origin.links target).map FieldLink.reversed) := by
  have injective : Function.Injective FieldLink.reversed := by
    rintro ⟨origin, target, identity⟩ ⟨otherOrigin, otherTarget, other⟩ same
    cases same
    rfl
  apply (List.perm_ext_iff_of_nodup (nodup_links target distinct)
    ((nodup_links origin otherDistinct).map injective)).mpr
  intro link
  -- Every link is a reversed one, which makes its membership that of a transform the other way.
  have back : link.reversed.reversed = link := rfl
  rw [← back, List.mem_map_of_injective injective, mem_links_iff, mem_links_iff]
  exact transform_mem_sources_comm otherDistinct distinct

/-- Matched with itself, a schema has a transform from each field to itself. -/
theorem sources_self (distinct : origin.fieldNames.Nodup) :
    origin.sources origin = origin.fields.map fun field => .transform field field true := by
  apply List.map_congr_left
  intro field listed
  exact (sourceOf_eq_transform_iff distinct).mpr ⟨rfl, listed, rfl, field.type.sameHead_self⟩

/-- **Matching is symmetric.** Let no field name occur twice in either of two schemas.
* A transform from a field to another field in one direction has its counterpart in the other, which
  offers the identity if it does.
* The caller passes the values of exactly the fields whose names the origin lacks, in target order.
* So the links of the two directions are the same but for their direction; there are equally many of
  them, and they pair each shared name with itself exactly once.
* A schema is matched with itself by transforms of each field to itself that offer the identity. -/
theorem sources_symmetric {first second : Schema} (distinct : first.fieldNames.Nodup)
    (otherDistinct : second.fieldNames.Nodup) :
    (∀ field other identityDefault,
      FieldSource.transform field other identityDefault ∈ first.sources second ↔
        FieldSource.transform other field identityDefault ∈ second.sources first) ∧
    (first.sources second).filterMap (·.passed?) =
      second.fields.filter (·.name ∉ first.fieldNames) ∧
    (second.links first).Perm ((first.links second).map FieldLink.reversed) ∧
    (second.links first).length = (first.links second).length ∧
    (first.links second).map FieldLink.names =
      (first.sharedNames second).map (fun name => (name, name)) ∧
    (first.sharedNames second).Nodup ∧
    first.sources first = first.fields.map fun field => .transform field field true := by
  have reversed := perm_links distinct otherDistinct
  refine ⟨?_, filterMap_passed?_sources first second, reversed, ?_, map_names_links first second,
    otherDistinct.filter _, sources_self distinct⟩
  · intro field other identityDefault
    exact transform_mem_sources_comm distinct otherDistinct
  · rw [reversed.length_eq, List.length_map]

/-- A field for a list of the given items. -/
def sampleTags (item : String) : Field :=
  ⟨"tags", ⟨"kotlin.List", [⟨.invariant, some ⟨item, [], false⟩⟩], false⟩⟩

/-- A row with an identifier, tags that are numbers, and a note. -/
def sampleRow : Schema :=
  ⟨"app.Row", "Row", [⟨"id", ⟨"kotlin.Int", [], false⟩⟩, sampleTags "kotlin.Int",
    ⟨"note", ⟨"kotlin.String", [], true⟩⟩]⟩

/-- A view with tags that are texts, a label, and an identifier that may be missing. -/
def sampleView : Schema :=
  ⟨"app.View", "View", [sampleTags "kotlin.String", ⟨"label", ⟨"kotlin.String", [], false⟩⟩,
    ⟨"id", ⟨"kotlin.Int", [], true⟩⟩]⟩

/-- The tags of the two schemas are linked in both directions with the identity, and their
identifiers without it. -/
theorem sources_symmetric_sample :
    sampleRow.fieldNames.Nodup ∧ sampleView.fieldNames.Nodup ∧
      FieldSource.transform (sampleTags "kotlin.String") (sampleTags "kotlin.Int") true ∈
        sampleView.sources sampleRow ∧
      FieldSource.transform ⟨"id", ⟨"kotlin.Int", [], true⟩⟩ ⟨"id", ⟨"kotlin.Int", [], false⟩⟩
        false ∈ sampleView.sources sampleRow ∧
      (sampleRow.sources sampleView).filterMap (·.passed?) =
        [⟨"label", ⟨"kotlin.String", [], false⟩⟩] ∧
      (sampleView.links sampleRow).length = 2 ∧
      (sampleRow.links sampleView).map FieldLink.names = [("tags", "tags"), ("id", "id")] := by
  have distinct : sampleRow.fieldNames.Nodup := by decide
  have otherDistinct : sampleView.fieldNames.Nodup := by decide
  obtain ⟨transforms, passed, -, lengths, names, -, -⟩ := sources_symmetric distinct otherDistinct
  refine ⟨distinct, otherDistinct, (transforms _ _ _).mp ?_, (transforms _ _ _).mp ?_,
    passed.trans (by rfl), lengths.trans (by rfl), names.trans (by rfl)⟩
  · exact List.mem_cons_self
  · exact List.mem_of_getElem? (i := 2) rfl

/-- With two fields of one name, the second is never an origin, but it has one when it is a
target. -/
example : let number : Field := ⟨"id", ⟨"kotlin.Int", [], false⟩⟩
    let text : Field := ⟨"id", ⟨"kotlin.String", [], false⟩⟩
    let once : Schema := ⟨"app.View", "View", [number]⟩
    let twice : Schema := ⟨"app.Row", "Row", [number, text]⟩
    (twice.sources once, once.sources twice) =
      ([.transform number number true],
        [.transform number number true, .transform number text false]) := by
  rfl

end Schema

end RecordMapper
