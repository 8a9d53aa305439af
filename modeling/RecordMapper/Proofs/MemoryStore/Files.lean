import Mathlib.Data.List.Nodup
import RecordMapper.MemoryStore
import RecordMapper.Proofs.Path.Order

/-!
# The files of a store

What creating a file and appending to it do to the bytes under every path
(`MemoryStore.bytes?_create`, `MemoryStore.bytes?_append`). Bytes can be appended to every path that
has a file (`MemoryStore.exists_append`), and the paths of a store stay in ascending order
(`MemoryStore.Ascending.create`, `MemoryStore.Ascending.append`).
-/

namespace RecordMapper.MemoryStore

variable {store next : MemoryStore} {path other : Path} {added : List UInt8}

theorem sameKey_iff : sameKey path other = true ↔ path.components = other.components := by
  simp [sameKey]

/-- Two spellings of one path are the same key as the same paths. -/
theorem sameKey_congr {key : Path} (same : sameKey key path = true) (other : Path) :
    sameKey key other = sameKey path other := by
  rw [Bool.eq_iff_iff, sameKey_iff, sameKey_iff, sameKey_iff.mp same]

theorem not_sameKey_of_sameKey {key : Path} (different : ¬sameKey key path = true)
    (same : sameKey key other = true) : ¬sameKey path other = true := by
  rw [sameKey_iff] at different same ⊢
  exact fun alike => different (same.trans alike.symm)

/-- There is a file under a path exactly if the store lists a spelling of the path. -/
theorem bytes?_eq_none_iff :
    store.bytes? path = none ↔ ∀ key ∈ store.paths, ¬sameKey key path = true := by
  simp [bytes?, paths]

/-- Creating a file leaves it empty and all others as they are. -/
theorem bytes?_create (store : MemoryStore) (path other : Path) :
    (store.create path).bytes? other =
      if sameKey path other then some [] else store.bytes? other := by
  obtain ⟨files⟩ := store
  simp only [bytes?, create]
  induction files with
  | nil =>
      rw [createIn, List.find?_cons]
      cases sameKey path other <;> rfl
  | cons file rest ih =>
      obtain ⟨key, bytes⟩ := file
      rw [createIn]
      by_cases same : sameKey key path = true
      · rw [if_pos same, List.find?_cons, List.find?_cons]
        cases found : sameKey path other <;> simp [sameKey_congr same, found]
      · rw [if_neg same]
        by_cases before : path.precedes key = true
        · rw [if_pos before, List.find?_cons]
          cases sameKey path other <;> simp
        · rw [if_neg before, List.find?_cons, List.find?_cons]
          cases found : sameKey key other with
          | false => exact ih
          | true => rw [if_neg (not_sameKey_of_sameKey same found)]

/-! ## Appending -/

theorem append_eq_ok_iff :
    store.append path added = .ok next ↔ appendIn? path added store.files = some next.files := by
  unfold append
  cases appendIn? path added store.files with
  | none => simp
  | some files =>
      obtain ⟨nextFiles⟩ := next
      simp

/-- Appending puts the bytes behind those of the file and leaves all others as they are. -/
theorem bytes?_append (success : store.append path added = .ok next) (other : Path) :
    next.bytes? other =
      if sameKey path other then (store.bytes? other).map (· ++ added) else store.bytes? other := by
  rw [append_eq_ok_iff] at success
  obtain ⟨files⟩ := store
  obtain ⟨nextFiles⟩ := next
  simp only [bytes?] at success ⊢
  induction files generalizing nextFiles with
  | nil => simp [appendIn?] at success
  | cons file rest ih =>
      obtain ⟨key, bytes⟩ := file
      rw [appendIn?] at success
      by_cases same : sameKey key path = true
      · rw [if_pos same, Option.some.injEq] at success
        rw [← success, List.find?_cons, List.find?_cons]
        cases found : sameKey path other <;> simp [sameKey_congr same, found]
      · rw [if_neg same] at success
        obtain ⟨others, appended, rfl⟩ := Option.map_eq_some_iff.mp success
        rw [List.find?_cons, List.find?_cons]
        cases found : sameKey key other with
        | false => exact ih others appended
        | true => rw [if_neg (not_sameKey_of_sameKey same found)]

theorem paths_append (success : store.append path added = .ok next) : next.paths = store.paths := by
  rw [append_eq_ok_iff] at success
  obtain ⟨files⟩ := store
  obtain ⟨nextFiles⟩ := next
  simp only [paths] at success ⊢
  induction files generalizing nextFiles with
  | nil => simp [appendIn?] at success
  | cons file rest ih =>
      obtain ⟨key, bytes⟩ := file
      rw [appendIn?] at success
      split at success
      · rw [← Option.some.inj success]
        rfl
      · obtain ⟨others, appended, rfl⟩ := Option.map_eq_some_iff.mp success
        rw [List.map_cons, List.map_cons, ih others appended]

/-- Bytes can be appended to every file of the store. -/
theorem exists_append (present : store.bytes? path ≠ none) (added : List UInt8) :
    ∃ next, store.append path added = .ok next := by
  obtain ⟨files⟩ := store
  have found : ∃ nextFiles, appendIn? path added files = some nextFiles := by
    simp only [bytes?] at present
    induction files with
    | nil => simp at present
    | cons file rest ih =>
        obtain ⟨key, bytes⟩ := file
        rw [appendIn?]
        by_cases same : sameKey key path = true
        · exact ⟨_, if_pos same⟩
        · obtain ⟨others, appended⟩ := ih (by simpa [List.find?_cons, same] using present)
          exact ⟨(key, bytes) :: others, by rw [if_neg same, appended]; rfl⟩
  obtain ⟨nextFiles, appended⟩ := found
  exact ⟨⟨nextFiles⟩, append_eq_ok_iff.mpr appended⟩

/-! ## Order -/

/-- Each path of the store precedes all paths after it. -/
def Ascending (store : MemoryStore) : Prop :=
  store.paths.Pairwise fun first second => first.precedes second = true

theorem mem_paths_create {key : Path} (listed : key ∈ (store.create path).paths) :
    key = path ∨ key ∈ store.paths := by
  obtain ⟨files⟩ := store
  simp only [create, paths] at listed ⊢
  induction files with
  | nil => simpa [createIn] using listed
  | cons file rest ih =>
      obtain ⟨first, bytes⟩ := file
      rw [createIn] at listed
      split at listed
      · exact .inr listed
      · split at listed
        · exact List.mem_cons.mp listed
        · rcases List.mem_cons.mp listed with rfl | later
          · exact .inr List.mem_cons_self
          · exact (ih later).imp_right (List.mem_cons_of_mem _)

/-- **Created files keep the order.** A new path comes before the first path that it precedes. -/
theorem Ascending.create (ascending : store.Ascending) (path : Path) :
    (store.create path).Ascending := by
  obtain ⟨files⟩ := store
  induction files with
  | nil => exact List.pairwise_singleton _ _
  | cons file rest ih =>
      obtain ⟨key, bytes⟩ := file
      obtain ⟨first, others⟩ := List.pairwise_cons.mp ascending
      unfold Ascending MemoryStore.create createIn
      by_cases same : sameKey key path = true
      · rw [if_pos same]
        exact ascending
      · rw [if_neg same]
        by_cases before : path.precedes key = true
        · rw [if_pos before]
          refine List.pairwise_cons.mpr ⟨?_, ascending⟩
          intro other listed
          rcases List.mem_cons.mp listed with rfl | later
          · exact before
          · exact Path.precedes_trans before (first other later)
        · rw [if_neg before]
          refine List.pairwise_cons.mpr ⟨?_, ih others⟩
          intro other listed
          have different := fun alike => same (sameKey_iff.mpr (Eq.symm alike))
          rcases @mem_paths_create ⟨rest⟩ path other listed with rfl | later
          · exact Path.precedes_of_not different before
          · exact first other later

theorem Ascending.append (ascending : store.Ascending)
    (success : store.append path added = .ok next) : next.Ascending := by
  unfold Ascending
  rw [paths_append success]
  exact ascending

/-- Two spellings of one path are not both listed. -/
theorem Ascending.eq_of_sameKey (ascending : store.Ascending) {first second : Path}
    (listed : first ∈ store.paths) (otherListed : second ∈ store.paths)
    (same : sameKey first second = true) : first = second := by
  have distinct : (store.paths.map (·.components)).Nodup :=
    List.pairwise_map.mpr (ascending.imp Path.components_ne_of_precedes)
  exact List.inj_on_of_nodup_map distinct listed otherListed (sameKey_iff.mp same)

end RecordMapper.MemoryStore
