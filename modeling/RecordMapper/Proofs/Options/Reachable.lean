import RecordMapper.Options

/-!
# Reachable options

Options are changed by their setters only, and each setter checks its value. So the package of all
options that can be reached from the default ones is a qualified name, and the file name is a file
name (`Options.Reachable.valid`), also when some of the steps fail on the way.
-/

namespace RecordMapper.Options

/-- Options that are fit for a run. -/
structure Valid (options : Options) : Prop where
  package : QualifiedName.fault? options.package = none
  fileName : FileName.fault? options.fileName = none

/-- Options that the setters lead to from the default ones. A list of pairs that fails leaves the
pairs before the bad one applied. -/
inductive Reachable : Options → Prop
  | default : Reachable .default
  | setPackage {options next : Options} {value : String} : Reachable options →
      options.setPackage value = .ok next → Reachable next
  | setFileName {options next : Options} {value : String} : Reachable options →
      options.setFileName value = .ok next → Reachable next
  | applyAll {options : Options} (pairs : List (String × String)) : Reachable options →
      Reachable (options.applyAll pairs).1

variable {options next : Options}

/-- The default options are fit for a run. -/
theorem Valid.default : Valid .default := by
  constructor <;> decide +kernel

theorem Valid.setPackage {value : String} (valid : options.Valid)
    (success : options.setPackage value = .ok next) : next.Valid := by
  unfold Options.setPackage at success
  cases checked : QualifiedName.fault? (Text.trim value) with
  | some fault => simp [checked] at success
  | none =>
      simp only [checked, Except.ok.injEq] at success
      subst success
      exact ⟨checked, valid.fileName⟩

theorem Valid.setFileName {value : String} (valid : options.Valid)
    (success : options.setFileName value = .ok next) : next.Valid := by
  rw [Options.setFileName] at success
  split at success
  · cases success
  · cases checked : FileName.fault? (Text.trim value) with
    | some fault => simp [checked] at success
    | none =>
        simp only [checked, Except.ok.injEq] at success
        subst success
        exact ⟨valid.package, checked⟩

theorem Valid.setErasure {key value : String} (valid : options.Valid)
    (success : options.setErasure key value = .ok next) : next.Valid := by
  unfold Options.setErasure at success
  split at success
  · cases success
    exact ⟨valid.package, valid.fileName⟩
  · cases success
    exact ⟨valid.package, valid.fileName⟩
  · cases success

theorem Valid.apply {key value : String} (valid : options.Valid)
    (success : options.apply key value = .ok next) : next.Valid := by
  unfold Options.apply at success
  split at success
  · exact valid.setErasure success
  · exact valid.setPackage success
  · exact valid.setFileName success
  · cases success
    exact valid

/-- Applying pairs keeps options valid, whether or not all of them are applied. -/
theorem Valid.applyAll (valid : options.Valid) (pairs : List (String × String)) :
    (options.applyAll pairs).1.Valid := by
  induction pairs generalizing options with
  | nil => exact valid
  | cons pair rest ih =>
      obtain ⟨key, value⟩ := pair
      unfold Options.applyAll
      cases applied : options.apply key value with
      | error fault => exact valid
      | ok next => exact ih (valid.apply applied)

/-- **Reachable options are valid.** -/
theorem Reachable.valid (reachable : options.Reachable) : options.Valid := by
  induction reachable with
  | default => exact .default
  | setPackage _ success ih => exact ih.setPackage success
  | setFileName _ success ih => exact ih.setFileName success
  | applyAll pairs _ ih => exact ih.applyAll pairs

end RecordMapper.Options
