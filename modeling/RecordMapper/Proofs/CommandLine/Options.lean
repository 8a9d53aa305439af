import RecordMapper.CommandLine.Generate
import RecordMapper.Proofs.Options.Pairs
import RecordMapper.Proofs.Options.Reachable
import RecordMapper.Proofs.Options.Texts

/-!
# The options of the command line

The flags for options stand for pairs behind those of the option texts
(`GenerateArguments.runOptions_of_read`). So what is known of applied pairs is known of the command
line. Whatever option texts and flags are given, the options that they lead to are fit for a run.
-/

namespace RecordMapper.CommandLine

open RecordMapper.Options

variable {options next : Options} {pairs : List (String × String)} {fault : OptionFault}

/-- The options that are reached, if all pairs are applied. -/
def completed : Options × Option OptionFault → Except OptionFault Options
  | (reached, none) => .ok reached
  | (_, some fault) => .error fault

theorem completed_applyAll_append (options : Options) (first second : List (String × String)) :
    completed (options.applyAll (first ++ second)) = completed (options.applyAll first) >>=
      fun reached => completed (reached.applyAll second) := by
  rw [applyAll_append]
  rcases options.applyAll first with ⟨reached, _ | fault⟩
  · rfl
  · rfl

/-- Setting a value that may be missing is applying a pair that may be missing. -/
theorem completed_applyAll_toList (key : String) (value? : Option String)
    (setter : String → Except OptionFault Options)
    (same : ∀ value, options.apply key value = setter value) :
    completed (options.applyAll (value?.toList.map (Prod.mk key))) =
      value?.elim (.ok options) setter := by
  cases value? with
  | none => rfl
  | some value =>
      rw [Option.toList_some, List.map_singleton, Option.elim_some, ← same, applyAll]
      cases options.apply key value <;> rfl

theorem completed_eq_ok_iff : completed (options.applyAll pairs) = .ok next ↔
    (∀ pair ∈ pairs, Applicable pair) ∧ options.updated pairs = next := by
  rcases applicable_or_firstFault pairs with all | ⟨fault, before, pair, rest, rfl, good, refuses⟩
  · rw [options.applyAll_of_applicable all, completed, Except.ok.injEq]
    exact (and_iff_right all).symm
  · rw [options.applyAll_of_refuses good refuses]
    refine iff_of_false nofun ?_
    rintro ⟨all, -⟩
    exact (all pair (by simp)).not_refuses refuses

theorem completed_eq_error_iff (options : Options) :
    completed (options.applyAll pairs) = .error fault ↔ FirstFault pairs fault := by
  rw [← applyAll_snd_eq_some_iff options]
  rcases options.applyAll pairs with ⟨reached, _ | found⟩ <;> simp [completed]

namespace GenerateArguments

variable {arguments : GenerateArguments}

/-- The pair that the switch stands for. -/
def switchPairs (arguments : GenerateArguments) : List (String × String) :=
  if arguments.eraseGenerics then [("eraseGenerics", "true")] else []

/-- The pairs that the flags stand for. -/
def flagPairs (arguments : GenerateArguments) : List (String × String) :=
  arguments.package?.toList.map (Prod.mk "package") ++
    (arguments.fileName?.toList.map (Prod.mk "fileName") ++ arguments.switchPairs)

theorem completed_applyAll_flagPairs (reached : Options) :
    completed (reached.applyAll arguments.flagPairs) = (do
      let packaged ← arguments.package?.elim (.ok reached) reached.setPackage
      let named ← arguments.fileName?.elim (.ok packaged) packaged.setFileName
      return if arguments.eraseGenerics then { named with eraseGenerics := true } else named) := by
  rw [flagPairs, completed_applyAll_append,
    completed_applyAll_toList "package" _ reached.setPackage reached.apply_package]
  refine bind_congr fun packaged => ?_
  rw [completed_applyAll_append,
    completed_applyAll_toList "fileName" _ packaged.setFileName packaged.apply_fileName]
  refine bind_congr fun named => ?_
  rw [switchPairs]
  cases arguments.eraseGenerics with
  | false => rfl
  | true => rfl

/-- The flags are applied behind the pairs of the option texts. -/
theorem runOptions_of_read (read : arguments.options.mapM parseKeyValue = .ok pairs) :
    arguments.runOptions =
      completed (Options.default.applyAll (pairs ++ arguments.flagPairs)) := by
  unfold runOptions
  rw [completed_applyAll_append]
  simp only [read, completed_applyAll_flagPairs]
  rcases Options.default.applyAll pairs with ⟨reached, _ | fault⟩
  · rfl
  · rfl

theorem runOptions_eq_ok_iff_of_tells (told : List.Forall₂ Tells arguments.options pairs) :
    arguments.runOptions = .ok options ↔
      (∀ pair ∈ pairs ++ arguments.flagPairs, Applicable pair) ∧
        Options.default.updated (pairs ++ arguments.flagPairs) = options := by
  rw [runOptions_of_read (mapM_parseKeyValue_eq_ok_iff.mpr told), completed_eq_ok_iff]

/-- The arguments lead to options exactly if each text is that of a pair, and these pairs and those
of the flags can be applied. -/
theorem runOptions_eq_ok_iff : arguments.runOptions = .ok options ↔
    ∃ pairs, List.Forall₂ Tells arguments.options pairs ∧
      (∀ pair ∈ pairs ++ arguments.flagPairs, Applicable pair) ∧
      Options.default.updated (pairs ++ arguments.flagPairs) = options := by
  constructor
  · intro settled
    cases read : arguments.options.mapM parseKeyValue with
    | error fault =>
        simp only [runOptions, read] at settled
        cases settled
    | ok pairs =>
        have told := mapM_parseKeyValue_eq_ok_iff.mp read
        exact ⟨pairs, told, (runOptions_eq_ok_iff_of_tells told).mp settled⟩
  · rintro ⟨pairs, told, applied⟩
    exact (runOptions_eq_ok_iff_of_tells told).mpr applied

/-- The arguments fail with the first text that is not that of a pair, or with the first pair, those
of the flags included, that cannot be applied. -/
theorem runOptions_eq_error_iff : arguments.runOptions = .error fault ↔
    FirstMalformed arguments.options fault ∨
      ∃ pairs, List.Forall₂ Tells arguments.options pairs ∧
        FirstFault (pairs ++ arguments.flagPairs) fault := by
  simp only [← mapM_parseKeyValue_eq_ok_iff, ← mapM_parseKeyValue_eq_error_iff,
    ← completed_eq_error_iff .default]
  cases read : arguments.options.mapM parseKeyValue with
  | error found => simp [runOptions, read]
  | ok pairs => simp [runOptions_of_read read]

/-- The options that the arguments lead to are fit for a run. -/
theorem valid_of_runOptions (settled : arguments.runOptions = .ok options) : options.Valid := by
  obtain ⟨pairs, -, all, rfl⟩ := runOptions_eq_ok_iff.mp settled
  have valid := Valid.default.applyAll (pairs ++ arguments.flagPairs)
  rwa [applyAll_of_applicable _ all] at valid

end GenerateArguments

end RecordMapper.CommandLine
