import Mathlib.Data.List.Lex
import Mathlib.Data.Prod.Lex
import Mathlib.Data.String.Basic
import RecordMapper.Path

/-!
# The order of paths

Paths are in a strict order that does not see their spelling: it is transitive, and of two paths
either one precedes the other or both have the same components (`Path.precedes_of_not`), but never
both at once (`Path.components_ne_of_precedes`).
-/

namespace RecordMapper

/-- The order of components is that of their ranks, and of their labels where the ranks are
equal. -/
theorem Path.Component.precedes_iff_lt {first second : Component} :
    first.precedes second = true ↔
      toLex (first.rank, first.label) < toLex (second.rank, second.label) := by
  simp [precedes, Prod.Lex.toLex_lt_toLex]

theorem Path.Component.eq_of_rank_of_label {first second : Component}
    (ranks : first.rank = second.rank) (labels : first.label = second.label) : first = second := by
  cases first <;> cases second <;> simp_all [rank, label]

/-- Of two different components one precedes the other. -/
instance : Std.Trichotomous fun first second : Path.Component => first.precedes second = true where
  trichotomous first second before after := by
    rw [Path.Component.precedes_iff_lt] at before after
    have same := toLex.injective (le_antisymm (not_lt.mp after) (not_lt.mp before))
    obtain ⟨ranks, labels⟩ := Prod.ext_iff.mp same
    exact Path.Component.eq_of_rank_of_label ranks labels

/-- Of two components at most one precedes the other. -/
instance : Std.Asymm fun first second : Path.Component => first.precedes second = true where
  asymm first second before after := by
    rw [Path.Component.precedes_iff_lt] at before after
    exact lt_asymm before after

namespace Path

variable {first second third : Path}

theorem precedes_iff_lex :
    first.precedes second = true ↔
      List.Lex (fun a b : Component => a.precedes b = true) first.components second.components :=
  List.lex_eq_true_iff_lex _

theorem precedes_trans (before : first.precedes second = true)
    (after : second.precedes third = true) : first.precedes third = true := by
  rw [precedes_iff_lex] at before after ⊢
  refine List.lex_trans ?_ before after
  intro a b c
  simp only [Component.precedes_iff_lt]
  exact lt_trans

/-- A path does not precede another spelling of itself. -/
theorem components_ne_of_precedes (before : first.precedes second = true) :
    first.components ≠ second.components := by
  intro same
  rw [precedes_iff_lex, same] at before
  exact asymm before before

/-- Of two paths that differ in their components, one precedes the other. -/
theorem precedes_of_not (different : first.components ≠ second.components)
    (notBefore : ¬first.precedes second = true) : second.precedes first = true := by
  rw [precedes_iff_lex] at notBefore ⊢
  by_contra notAfter
  exact different (Std.Trichotomous.trichotomous _ _ notBefore notAfter)

end Path

end RecordMapper
