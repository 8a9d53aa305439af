import Mathlib.Data.List.Forall2
import Mathlib.Data.List.Range

/-!
# Rearranged lists

A permutation of a list is given by the positions from which the items are taken, in the new order
(`rearranged`). Given so, the same permutation can be made of several lists: what is done with each
item commutes with it (`rearranged_map`), and items that belong together stay together
(`forall₂_rearranged`).
-/

namespace RecordMapper

variable {α β : Type}

/-- The items at the given positions, in this order. -/
def rearranged (order : List Nat) (items : List α) : List α :=
  order.filterMap fun index => items[index]?

theorem rearranged_map (order : List Nat) (change : α → β) (items : List α) :
    rearranged order (items.map change) = (rearranged order items).map change := by
  simp only [rearranged, List.getElem?_map, List.map_filterMap]

theorem rearranged_range (items : List α) : rearranged (List.range items.length) items = items := by
  unfold rearranged
  induction items with
  | nil => rfl
  | cons item rest ih =>
      rw [List.length_cons, List.range_succ_eq_map, List.filterMap_cons, List.filterMap_map]
      simp only [List.getElem?_cons_zero, Function.comp_def, List.getElem?_cons_succ]
      rw [ih]

/-- The result is a permutation if each position occurs once. -/
theorem perm_rearranged {order : List Nat} {items : List α}
    (positions : order.Perm (List.range items.length)) : (rearranged order items).Perm items := by
  have same := positions.filterMap fun index => items[index]?
  rwa [← rearranged, ← rearranged, rearranged_range] at same

theorem forall₂_rearranged {related : α → β → Prop} {items : List α} {others : List β}
    (alike : List.Forall₂ related items others) (order : List Nat) :
    List.Forall₂ related (rearranged order items) (rearranged order others) := by
  unfold rearranged
  induction order with
  | nil => exact .nil
  | cons index rest ih =>
      rw [List.filterMap_cons, List.filterMap_cons]
      by_cases inside : index < items.length
      · have otherInside : index < others.length := alike.length_eq ▸ inside
        rw [List.getElem?_eq_getElem inside, List.getElem?_eq_getElem otherInside]
        exact .cons (alike.get inside otherInside) ih
      · have otherOutside : others.length ≤ index := alike.length_eq ▸ Nat.le_of_not_lt inside
        rw [List.getElem?_eq_none (Nat.le_of_not_lt inside), List.getElem?_eq_none otherOutside]
        exact ih

end RecordMapper
