/-!
# The parts of a split text

A text is split at each occurrence of a stop character. No part holds the stop
(`not_mem_of_mem_splitOn`), and every other character of the text stands in one of the parts, which
hold nothing else (`mem_iff_of_ne_stop`). With the stop between them, the parts make up the text
(`join_split`), and no other list of parts without the stop does (`split_join`).
-/

namespace RecordMapper.Text

variable {stop c : Char} {chars part : List Char}

theorem not_mem_of_mem_splitOn (member : part ∈ chars.splitOn stop) : stop ∉ part := by
  induction chars generalizing part with
  | nil =>
      rw [List.splitOn_nil, List.mem_singleton] at member
      rw [member]
      exact List.not_mem_nil
  | cons c rest ih =>
      rw [List.splitOn_cons_eq_if_modifyHead] at member
      split at member
      · rcases List.mem_cons.mp member with rfl | later
        · exact List.not_mem_nil
        · exact ih later
      · next different =>
          cases parts : rest.splitOn stop with
          | nil => simp [parts] at member
          | cons first others =>
              rw [parts, List.modifyHead_cons, List.mem_cons] at member
              rcases member with rfl | later
              · have fresh : stop ∉ first := ih (by simp [parts])
                have other : stop ≠ c := by
                  intro same
                  subst same
                  simp at different
                simp [fresh, other]
              · exact ih (by simp [parts, later])

theorem mem_intercalate_iff_of_ne_stop (different : c ≠ stop) {parts : List (List Char)} :
    c ∈ [stop].intercalate parts ↔ ∃ part ∈ parts, c ∈ part := by
  induction parts with
  | nil => simp
  | cons first rest ih =>
      cases rest with
      | nil => simp
      | cons next rest =>
          rw [List.intercalate_cons_cons, List.mem_append, List.mem_append, ih,
            List.mem_singleton]
          simp only [different, or_false, List.mem_cons, or_and_right, exists_or, exists_eq_left]

/-- The characters of a text other than the stop are those of its parts. -/
theorem mem_iff_of_ne_stop (different : c ≠ stop) :
    c ∈ chars ↔ ∃ part ∈ chars.splitOn stop, c ∈ part := by
  have spelled : [stop].intercalate (chars.splitOn stop) = chars := List.intercalate_splitOn stop
  rw [← mem_intercalate_iff_of_ne_stop different, spelled]

/-- The characters of a part are characters of the text. -/
theorem mem_of_mem_part (member : part ∈ chars.splitOn stop) (inside : c ∈ part) : c ∈ chars := by
  have different : c ≠ stop := by
    intro same
    subst same
    exact not_mem_of_mem_splitOn member inside
  exact (mem_iff_of_ne_stop different).mpr ⟨part, member, inside⟩

section

variable {separator : String} (spelled : separator.toList = [stop])

include spelled

/-- The parts, with the stop between them, make up the text. -/
theorem join_split (text : String) :
    separator.intercalate ((text.toList.splitOn stop).map String.ofList) = text := by
  have back : String.toList ∘ String.ofList = id := funext fun chars => String.toList_ofList
  apply String.toList_inj.mp
  rw [String.toList_intercalate, spelled, List.map_map, back, List.map_id, List.intercalate_splitOn]

/-- Parts without the stop are those of the text that they make up. -/
theorem split_join {parts : List String} (clean : ∀ part ∈ parts, stop ∉ part.toList)
    (nonempty : parts ≠ []) :
    ((separator.intercalate parts).toList.splitOn stop).map String.ofList = parts := by
  have back : String.ofList ∘ String.toList = id := funext fun text => String.ofList_toList
  rw [String.toList_intercalate, spelled, List.splitOn_intercalate, List.map_map, back, List.map_id]
  · intro chars member
    obtain ⟨part, listed, rfl⟩ := List.mem_map.mp member
    exact clean part listed
  · simpa using nonempty

/-- The parts of two texts with the stop between them are the parts of both. -/
theorem split_append (before after : String) :
    ((before ++ separator ++ after).toList.splitOn stop).map String.ofList =
      (before.toList.splitOn stop).map String.ofList ++
        (after.toList.splitOn stop).map String.ofList := by
  rw [String.toList_append, String.toList_append, spelled, List.append_assoc,
    List.singleton_append, List.splitOn_append_cons_self, List.map_append]

end

end RecordMapper.Text
