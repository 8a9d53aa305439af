import Mathlib.Data.List.Nodup

/-!
# Lists without repetitions

In a list in which no key occurs twice, a key finds the one item that has it
(`find?_key_eq_some_iff`), so it does not matter in which order the items stand
(`find?_key_of_perm`). An item of a list without repetitions stands nowhere before its place
(`not_mem_take_of_nodup`).
-/

namespace RecordMapper

variable {α κ : Type} [DecidableEq κ] {key : α → κ} {items others : List α}

theorem find?_key_eq_some_iff (distinct : (items.map key).Nodup) {wanted : κ} {item : α} :
    (items.find? fun other => key other = wanted) = some item ↔
      item ∈ items ∧ key item = wanted := by
  constructor
  · intro found
    exact ⟨List.mem_of_find?_eq_some found, by simpa using List.find?_some found⟩
  · intro listed
    obtain ⟨member, rfl⟩ := listed
    cases found : items.find? fun other => key other = key item with
    | none => simpa using List.find?_eq_none.mp found item member
    | some other =>
        have named : key other = key item := by simpa using List.find?_some found
        rw [List.inj_on_of_nodup_map distinct (List.mem_of_find?_eq_some found) member named]

theorem find?_key_of_perm (distinct : (items.map key).Nodup) (same : others.Perm items)
    (wanted : κ) :
    (others.find? fun other => key other = wanted) =
      items.find? fun other => key other = wanted := by
  apply Option.ext
  intro item
  rw [find?_key_eq_some_iff ((same.map key).nodup_iff.mpr distinct),
    find?_key_eq_some_iff distinct, same.mem_iff]

/-- No other item has the key of an item. -/
theorem filter_key_eq_singleton (distinct : (items.map key).Nodup) {item : α}
    (member : item ∈ items) : (items.filter fun other => key other = key item) = [item] := by
  induction items with
  | nil => cases member
  | cons first rest ih =>
      rw [List.map_cons, List.nodup_cons] at distinct
      rcases List.mem_cons.mp member with rfl | later
      · have alone : (rest.filter fun other => key other = key item) = [] := by
          apply List.filter_eq_nil_iff.mpr
          intro other listed same
          rw [decide_eq_true_eq] at same
          exact distinct.1 (List.mem_map.mpr ⟨other, listed, same⟩)
        rw [List.filter_cons_of_pos (by simp), alone]
      · have different : key first ≠ key item :=
          fun same => distinct.1 (List.mem_map.mpr ⟨item, later, same.symm⟩)
        rw [List.filter_cons_of_neg (by simpa using different), ih distinct.2 later]

omit [DecidableEq κ] in
theorem not_mem_take_of_nodup (distinct : items.Nodup) {index : Nat} {item : α}
    (there : items[index]? = some item) : item ∉ items.take index := by
  obtain ⟨inside, rfl⟩ := List.getElem?_eq_some_iff.mp there
  intro earlier
  apply List.disjoint_take_drop distinct (Nat.le_refl index) earlier
  rw [List.drop_eq_getElem_cons inside]
  exact List.mem_cons_self

end RecordMapper
