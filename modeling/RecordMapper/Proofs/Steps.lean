import Mathlib.Data.List.Forall2

/-!
# Computations in steps

A computation that may fail succeeds exactly if its first step succeeds and the rest succeeds with
what that step found. So a list of steps succeeds exactly if each of them does, and the first that
fails makes it fail. A computation with a state goes on from the state that its first step leaves.
-/

namespace RecordMapper

/-- Two steps succeed exactly if the first does and then the second. -/
theorem bind_eq_ok_iff {ε α β : Type} {first : Except ε α} {next : α → Except ε β} {result : β} :
    first >>= next = .ok result ↔ ∃ found, first = .ok found ∧ next found = .ok result := by
  cases first with
  | error fault =>
      refine iff_of_false nofun ?_
      intro found
      obtain ⟨_, same, -⟩ := found
      cases same
  | ok found =>
      refine ⟨fun success => ⟨found, rfl, success⟩, ?_⟩
      intro steps
      obtain ⟨_, same, success⟩ := steps
      cases same
      exact success

/-- Two steps fail exactly if the first does, or else the second. -/
theorem bind_eq_error_iff {ε α β : Type} {first : Except ε α} {next : α → Except ε β} {fault : ε} :
    first >>= next = .error fault ↔
      first = .error fault ∨ ∃ found, first = .ok found ∧ next found = .error fault := by
  cases first with
  | error earlier =>
      change Except.error earlier = .error fault ↔ _
      simp
  | ok found =>
      change next found = .error fault ↔ _
      simp

section

variable {ε α β : Type} {step : α → Except ε β} {items : List α} {results : List β} {fault : ε}

/-- A list of steps succeeds exactly if each of them does. -/
theorem mapM_eq_ok_iff :
    items.mapM step = .ok results ↔ List.Forall₂ (fun item result => step item = .ok result)
      items results := by
  induction items generalizing results with
  | nil =>
      rw [List.mapM_nil, List.forall₂_nil_left_iff]
      change Except.ok [] = .ok results ↔ _
      rw [Except.ok.injEq, eq_comm]
  | cons item rest ih =>
      rw [List.mapM_cons, bind_eq_ok_iff, List.forall₂_cons_left_iff]
      apply exists_congr
      intro result
      simp only [bind_eq_ok_iff, ih, exists_and_left]
      apply and_congr_right
      intro _
      apply exists_congr
      intro others
      apply and_congr_right
      intro _
      change Except.ok (result :: others) = .ok results ↔ _
      rw [Except.ok.injEq, eq_comm]

/-- A list of steps fails exactly as the first of them that fails. -/
theorem mapM_eq_error_iff :
    items.mapM step = .error fault ↔
      ∃ before item rest, items = before ++ item :: rest ∧
        (∀ earlier ∈ before, ∃ result, step earlier = .ok result) ∧ step item = .error fault := by
  induction items with
  | nil =>
      rw [List.mapM_nil]
      refine iff_of_false nofun ?_
      rintro ⟨before, item, rest, split, -⟩
      simp at split
  | cons first others ih =>
      rw [List.mapM_cons, bind_eq_error_iff]
      constructor
      · rintro (fails | ⟨result, made, fails⟩)
        · exact ⟨[], first, others, rfl, nofun, fails⟩
        · rcases bind_eq_error_iff.mp fails with later | ⟨_, _, impossible⟩
          · obtain ⟨before, item, rest, rfl, good, fails⟩ := ih.mp later
            exact ⟨first :: before, item, rest, rfl,
              List.forall_mem_cons.mpr ⟨⟨result, made⟩, good⟩, fails⟩
          · cases impossible
      · rintro ⟨before, item, rest, split, good, fails⟩
        cases before with
        | nil =>
            obtain ⟨rfl, rfl⟩ := List.cons.inj split
            exact .inl fails
        | cons head before =>
            obtain ⟨rfl, rfl⟩ := List.cons.inj split
            obtain ⟨⟨result, made⟩, good⟩ := List.forall_mem_cons.mp good
            have later := ih.mpr ⟨before, item, rest, rfl, good, fails⟩
            exact .inr ⟨result, made, bind_eq_error_iff.mpr (.inl later)⟩

end

/-- After a first step whose run is known, only the rest is left to run. -/
theorem run_bind_eq {σ α β : Type} {first : StateM σ α} {next : α → StateM σ β} {before after : σ}
    {found : α} (ran : first.run before = (found, after)) :
    (first >>= next).run before = (next found).run after := by
  rw [StateT.run_bind, ran]
  rfl

end RecordMapper
