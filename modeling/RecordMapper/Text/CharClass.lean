/-!
# Character classes

A character class of the Unicode standard is the list of its closed code point ranges. The tables
of the single classes stand in the modules beside this one.
-/

namespace RecordMapper.Text

/-- A set of characters, given by closed ranges of code points in ascending order. -/
structure CharClass where
  ranges : List (Nat × Nat)

namespace CharClass

/-- Whether a character's code point lies in one of the ranges. -/
def contains (cls : CharClass) (c : Char) : Bool :=
  cls.ranges.any fun range => range.1 ≤ c.toNat && c.toNat ≤ range.2

theorem contains_iff (cls : CharClass) (c : Char) :
    cls.contains c = true ↔
      ∃ range ∈ cls.ranges, range.1 ≤ c.toNat ∧ c.toNat ≤ range.2 := by
  simp [contains]

end CharClass

end RecordMapper.Text
