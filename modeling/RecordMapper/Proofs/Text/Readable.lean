/-!
# Readable ways of writing

A way of writing values is readable if a value and what comes after it can be told from the text,
whatever comes after (`Readable`). A part that ends before a stop character is told by that
character (`eq_of_append_stop`), one that goes on for as long as its characters last by the first
other one (`eq_of_append_parts`), and a list is readable if each of its items is and begins with a
sign that does not begin what comes after (`Readable.flatMap`).
-/

namespace RecordMapper.Text

variable {α : Type} {valid : α → Prop} {write : α → List Char}

/-- What is written tells the value and what comes after it. -/
def Readable (valid : α → Prop) (write : α → List Char) : Prop :=
  ∀ ⦃first second : α⦄, valid first → valid second → ∀ ⦃rest other : List Char⦄,
    write first ++ rest = write second ++ other → first = second ∧ rest = other

/-- A text without a stop character is told from what follows the stop. -/
theorem eq_of_append_stop {stop : Char} {first second rest other : List Char}
    (clean : stop ∉ first) (otherClean : stop ∉ second)
    (same : first ++ stop :: rest = second ++ stop :: other) : first = second ∧ rest = other := by
  induction first generalizing second with
  | nil =>
      cases second with
      | nil => exact ⟨rfl, (List.cons.inj same).2⟩
      | cons c cs =>
          have head : stop = c := (List.cons.inj same).1
          exact absurd (head ▸ List.mem_cons_self) otherClean
  | cons c cs ih =>
      cases second with
      | nil =>
          have head : c = stop := (List.cons.inj same).1
          exact absurd (head ▸ List.mem_cons_self) clean
      | cons d ds =>
          obtain ⟨head, tails⟩ := List.cons.inj same
          obtain ⟨sameTail, sameRest⟩ := ih (fun member => clean (List.mem_cons_of_mem _ member))
            (fun member => otherClean (List.mem_cons_of_mem _ member)) tails
          exact ⟨by rw [head, sameTail], sameRest⟩

theorem eq_of_stop_append {stop : Char} {first second before other : List Char}
    (clean : stop ∉ first) (otherClean : stop ∉ second)
    (same : before ++ stop :: first = other ++ stop :: second) :
    before = other ∧ first = second := by
  have backwards : first.reverse ++ stop :: before.reverse =
      second.reverse ++ stop :: other.reverse := by
    simpa using congrArg List.reverse same
  obtain ⟨sameFirst, sameBefore⟩ := eq_of_append_stop (by simpa using clean)
    (by simpa using otherClean) backwards
  exact ⟨List.reverse_inj.mp sameBefore, List.reverse_inj.mp sameFirst⟩

/-- A text of parts is told from what follows it, if that does not begin with a part. -/
theorem eq_of_append_parts {isPart : Char → Bool} {first second rest other : List Char}
    (parts : ∀ c ∈ first, isPart c = true) (otherParts : ∀ c ∈ second, isPart c = true)
    (ends : ∀ c ∈ rest.head?, isPart c = false) (otherEnds : ∀ c ∈ other.head?, isPart c = false)
    (same : first ++ rest = second ++ other) : first = second ∧ rest = other := by
  have taken {text after : List Char} (parts : ∀ c ∈ text, isPart c = true)
      (ends : ∀ c ∈ after.head?, isPart c = false) : (text ++ after).takeWhile isPart = text := by
    rw [List.takeWhile_append_of_pos parts]
    cases after with
    | nil => rw [List.takeWhile_nil, List.append_nil]
    | cons c cs =>
        have stops : ¬isPart c = true := by simp [ends c rfl]
        rw [List.takeWhile_cons_of_neg stops, List.append_nil]
  have texts : first = second := by
    rw [← taken parts ends, same, taken otherParts otherEnds]
  subst texts
  exact ⟨rfl, List.append_cancel_left same⟩

/-- A list of readable items, each of which begins with the same sign, is readable before anything
that does not begin with that sign. -/
theorem Readable.flatMap {sign : Char} (readable : Readable valid write)
    (begins : ∀ item, (write item).head? = some sign) {items others : List α}
    (each : ∀ item ∈ items, valid item) (eachOther : ∀ item ∈ others, valid item)
    {rest other : List Char} (ends : rest.head? ≠ some sign) (otherEnds : other.head? ≠ some sign)
    (same : items.flatMap write ++ rest = others.flatMap write ++ other) :
    items = others ∧ rest = other := by
  have starts (item : α) (after : List Char) : (write item ++ after).head? = some sign := by
    rw [List.head?_append, begins item]
    rfl
  induction items generalizing others with
  | nil =>
      cases others with
      | nil => exact ⟨rfl, same⟩
      | cons item _ =>
          rw [List.flatMap_nil, List.nil_append, List.flatMap_cons, List.append_assoc] at same
          exact absurd (same ▸ starts item _) ends
  | cons item items ih =>
      cases others with
      | nil =>
          rw [List.flatMap_nil, List.nil_append, List.flatMap_cons, List.append_assoc] at same
          exact absurd (same ▸ starts item _) otherEnds
      | cons next others =>
          rw [List.flatMap_cons, List.flatMap_cons, List.append_assoc, List.append_assoc] at same
          obtain ⟨sameItem, sameRest⟩ := readable (each item List.mem_cons_self)
            (eachOther next List.mem_cons_self) same
          obtain ⟨sameItems, sameEnd⟩ := ih
            (fun later member => each later (List.mem_cons_of_mem _ member))
            (fun later member => eachOther later (List.mem_cons_of_mem _ member)) sameRest
          exact ⟨by rw [sameItem, sameItems], sameEnd⟩

end RecordMapper.Text
