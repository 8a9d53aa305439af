import RecordMapper.Options

/-!
# Pairs of keys and values

Pairs are applied to options in order. If each of them can be applied, every setting has the value
of the last pair for it, and settings without a pair stay (`Options.updated`). The first pair that
cannot be applied ends this with its fault, and the pairs before it stay applied
(`Options.applyAll_until_refused`). So a pair can be left out if it sets nothing, or if the same
setting is set again behind it.
-/

namespace RecordMapper.Options

open RecordMapper.Text

/-! ## Values of settings -/

namespace Setting

/-- The keys of a setting. -/
def keys : Setting → List String
  | erasure => ["ignoreGenericArgs", "eraseGenerics"]
  | package => ["package"]
  | fileName => ["fileName"]

/-- A value that the setting can have. Blanks around it do not count. -/
def Allows : Setting → String → Prop
  | erasure, value => trim value = "true" ∨ trim value = "false"
  | package, value => QualifiedName.fault? (trim value) = none
  | fileName, value => FileName.fault? (trim value) = none

/-- The values that are given for a setting, in order. -/
def values (setting : Setting) (pairs : List (String × String)) : List String :=
  (pairs.filter (·.1 ∈ setting.keys)).map (·.2)

/-- The last value that pairs have for a setting. -/
def lastValue? (setting : Setting) (pairs : List (String × String)) : Option String :=
  (setting.values pairs).getLast?

variable {setting other : Setting} {key value : String} {first second : List (String × String)}

theorem ofKey?_eq_some_iff : ofKey? key = some setting ↔ key ∈ setting.keys := by
  unfold ofKey?
  cases setting <;> simp only [keys, List.mem_cons, List.not_mem_nil, or_false] <;> grind

/-- No key belongs to two settings. -/
theorem eq_of_mem_keys (own : key ∈ setting.keys) (others : key ∈ other.keys) :
    setting = other := by
  rw [← ofKey?_eq_some_iff] at own others
  exact Option.some.inj (own.symm.trans others)

theorem ofKey?_eq_none_iff : ofKey? key = none ↔ ∀ setting : Setting, key ∉ setting.keys := by
  simp only [Option.eq_none_iff_forall_ne_some, ne_eq, ofKey?_eq_some_iff]

theorem values_append : setting.values (first ++ second) =
    setting.values first ++ setting.values second := by
  rw [values, List.filter_append, List.map_append, values, values]

theorem values_cons_of_mem (own : key ∈ setting.keys) :
    setting.values ((key, value) :: second) = value :: setting.values second := by
  rw [values, List.filter_cons_of_pos (by simpa using own), List.map_cons, values]

theorem values_cons_of_not_mem (foreign : key ∉ setting.keys) :
    setting.values ((key, value) :: second) = setting.values second := by
  rw [values, List.filter_cons_of_neg (by simpa using foreign), values]

/-- Later values win. -/
theorem lastValue?_append : setting.lastValue? (first ++ second) =
    (setting.lastValue? second).or (setting.lastValue? first) := by
  rw [lastValue?, values_append, List.getLast?_append, lastValue?, lastValue?]

theorem lastValue?_single (own : key ∈ setting.keys) (value : String) (other : Setting) :
    other.lastValue? [(key, value)] = if setting = other then some value else none := by
  by_cases same : setting = other
  · subst same
    rw [lastValue?, values_cons_of_mem own, if_pos rfl]
    rfl
  · have foreign : key ∉ other.keys := fun listed => same (eq_of_mem_keys own listed)
    rw [lastValue?, values_cons_of_not_mem foreign, if_neg same]
    rfl

theorem lastValue?_concat_of_mem (own : key ∈ setting.keys) :
    setting.lastValue? (first ++ [(key, value)]) = some value := by
  rw [lastValue?, values_append, values_cons_of_mem own]
  exact List.getLast?_concat

end Setting

/-- The options with the last value of each setting, as far as one is given. -/
def updated (options : Options) (pairs : List (String × String)) : Options where
  package := ((Setting.package.lastValue? pairs).map trim).getD options.package
  fileName := ((Setting.fileName.lastValue? pairs).map trim).getD options.fileName
  eraseGenerics :=
    ((Setting.erasure.lastValue? pairs).map fun value => decide (trim value = "true")).getD
      options.eraseGenerics

variable {options : Options} {key value : String} {pair : String × String}
  {pairs others before rest : List (String × String)} {fault : OptionFault}

theorem updated_nil : options.updated [] = options :=
  rfl

theorem updated_append (options : Options) (first second : List (String × String)) :
    options.updated (first ++ second) = (options.updated first).updated second := by
  simp only [updated, Setting.lastValue?_append, Option.map_or, Option.getD_or]

/-- Only the last values count. -/
theorem updated_congr
    (same : ∀ setting : Setting, setting.lastValue? pairs = setting.lastValue? others) :
    options.updated pairs = options.updated others := by
  simp only [updated, same]

/-! ## Applying one pair -/

theorem apply_package (options : Options) (value : String) :
    options.apply "package" value = options.setPackage value :=
  rfl

theorem apply_fileName (options : Options) (value : String) :
    options.apply "fileName" value = options.setFileName value :=
  rfl

/-- A pair that can be applied: if its key is that of a setting, the setting can have its value. -/
def Applicable (pair : String × String) : Prop :=
  ∀ setting : Setting, pair.1 ∈ setting.keys → setting.Allows pair.2

/-- A pair whose key is that of a setting that cannot have its value, and the fault that this is. -/
inductive Refuses : String × String → OptionFault → Prop
  | erasure {key value : String} : key ∈ Setting.erasure.keys → ¬Setting.erasure.Allows value →
      Refuses (key, value) (.invalidBool key (trim value))
  | package {key value : String} {fault : QualifiedName.Fault} : key ∈ Setting.package.keys →
      QualifiedName.fault? (trim value) = some fault →
      Refuses (key, value) (.invalidPackage (trim value) fault)
  | emptyFileName {key value : String} : key ∈ Setting.fileName.keys → trim value = "" →
      Refuses (key, value) .emptyFileName
  | fileName {key value : String} {fault : FileName.Fault} : key ∈ Setting.fileName.keys →
      trim value ≠ "" → FileName.fault? (trim value) = some fault →
      Refuses (key, value) (.invalidFileName (trim value) fault)

theorem applicable_iff_of_mem {setting : Setting} (own : key ∈ setting.keys) :
    Applicable (key, value) ↔ setting.Allows value := by
  constructor
  · intro applicable
    exact applicable setting own
  · intro allowed other listed
    obtain rfl := Setting.eq_of_mem_keys own listed
    exact allowed

/-- Whether all pairs can be applied is decided by the values that they give for the settings. -/
theorem forall_applicable_iff (pairs : List (String × String)) :
    (∀ pair ∈ pairs, Applicable pair) ↔
      ∀ setting : Setting, ∀ value ∈ setting.values pairs, setting.Allows value := by
  simp only [Setting.values, List.forall_mem_map, List.mem_filter, decide_eq_true_eq, and_imp]
  constructor
  · intro applicable setting pair listed own
    exact applicable pair listed setting own
  · intro allowed pair listed setting own
    exact allowed setting pair listed own

theorem applicable_or_refuses (pair : String × String) :
    Applicable pair ∨ ∃ fault, Refuses pair fault := by
  obtain ⟨key, value⟩ := pair
  cases found : Setting.ofKey? key with
  | none =>
      left
      intro setting own
      exact absurd own (Setting.ofKey?_eq_none_iff.mp found setting)
  | some setting =>
      have own := Setting.ofKey?_eq_some_iff.mp found
      by_cases allowed : setting.Allows value
      · left
        exact (applicable_iff_of_mem own).mpr allowed
      · right
        cases setting with
        | erasure => exact ⟨_, .erasure own allowed⟩
        | package =>
            obtain ⟨fault, refused⟩ := Option.ne_none_iff_exists'.mp allowed
            exact ⟨_, .package own refused⟩
        | fileName =>
            obtain ⟨fault, refused⟩ := Option.ne_none_iff_exists'.mp allowed
            by_cases empty : trim value = ""
            · exact ⟨_, .emptyFileName own empty⟩
            · exact ⟨_, .fileName own empty refused⟩

theorem updated_of_unknown (unknown : ∀ setting : Setting, key ∉ setting.keys) :
    options.updated [(key, value)] = options := by
  have nothing (setting : Setting) : setting.lastValue? [(key, value)] = setting.lastValue? [] := by
    rw [Setting.lastValue?, Setting.values_cons_of_not_mem (unknown setting), Setting.lastValue?]
  rw [updated_congr nothing, updated_nil]

/-- A pair that can be applied puts its value in place. -/
theorem apply_of_applicable (options : Options) (applicable : Applicable (key, value)) :
    options.apply key value = .ok (options.updated [(key, value)]) := by
  cases found : Setting.ofKey? key with
  | none =>
      rw [updated_of_unknown (Setting.ofKey?_eq_none_iff.mp found)]
      simp only [apply, found]
  | some setting =>
      have own := Setting.ofKey?_eq_some_iff.mp found
      have allowed : setting.Allows value := applicable setting own
      have last (other : Setting) := Setting.lastValue?_single own value other
      cases setting with
      | erasure =>
          rcases allowed with on | off
          · simp [apply, found, setErasure, on, updated, last]
          · simp [apply, found, setErasure, off, updated, last]
      | package =>
          have valid : QualifiedName.fault? (trim value) = none := allowed
          simp [apply, found, setPackage, valid, updated, last]
      | fileName =>
          have valid : FileName.fault? (trim value) = none := allowed
          have nonempty : trim value ≠ "" := by
            intro empty
            rw [empty] at valid
            cases valid
          simp [apply, found, setFileName, valid, nonempty, updated, last]

theorem apply_of_refuses (options : Options) (refuses : Refuses (key, value) fault) :
    options.apply key value = .error fault := by
  cases refuses with
  | erasure own forbidden =>
      simp only [apply, Setting.ofKey?_eq_some_iff.mpr own, setErasure]
      split
      · next on => exact absurd (.inl on) forbidden
      · next off => exact absurd (.inr off) forbidden
      · rfl
  | package own refused =>
      simp [apply, Setting.ofKey?_eq_some_iff.mpr own, setPackage, refused]
  | emptyFileName own empty =>
      simp [apply, Setting.ofKey?_eq_some_iff.mpr own, setFileName, empty]
  | fileName own nonempty refused =>
      simp [apply, Setting.ofKey?_eq_some_iff.mpr own, setFileName, nonempty, refused]

theorem Applicable.not_refuses (applicable : Applicable pair) : ¬Refuses pair fault := by
  intro refuses
  have applied := default.apply_of_applicable applicable
  rw [default.apply_of_refuses refuses] at applied
  cases applied

/-! ## Applying all pairs -/

/-- A pair that can be applied is applied, and the others after it. -/
theorem applyAll_cons_of_applicable (options : Options) (applicable : Applicable pair) :
    options.applyAll (pair :: rest) = (options.updated [pair]).applyAll rest := by
  rw [applyAll, options.apply_of_applicable applicable]

/-- A pair that cannot be applied ends the application. -/
theorem applyAll_cons_of_refuses (options : Options) (refuses : Refuses pair fault) :
    options.applyAll (pair :: rest) = (options, some fault) := by
  rw [applyAll, options.apply_of_refuses refuses]

/-- The second list is applied if all of the first is. -/
theorem applyAll_append (options : Options) (first second : List (String × String)) :
    options.applyAll (first ++ second) =
      if (options.applyAll first).2 = none then (options.applyAll first).1.applyAll second
      else options.applyAll first := by
  induction first generalizing options with
  | nil => simp [applyAll]
  | cons pair rest ih =>
      rw [List.cons_append]
      rcases applicable_or_refuses pair with applicable | ⟨fault, refuses⟩
      · simp only [options.applyAll_cons_of_applicable applicable, ih]
      · simp [options.applyAll_cons_of_refuses refuses]

/-- Lists that are applied alike are so with the same pairs behind them. -/
theorem applyAll_append_congr (alike : options.applyAll pairs = options.applyAll others)
    (rest : List (String × String)) :
    options.applyAll (pairs ++ rest) = options.applyAll (others ++ rest) := by
  rw [applyAll_append, applyAll_append, alike]

theorem applyAll_of_applicable (options : Options)
    (applicable : ∀ pair ∈ pairs, Applicable pair) :
    options.applyAll pairs = (options.updated pairs, none) := by
  induction pairs generalizing options with
  | nil => rw [applyAll, updated_nil]
  | cons pair rest ih =>
      obtain ⟨first, others⟩ := List.forall_mem_cons.mp applicable
      rw [options.applyAll_cons_of_applicable first, ih _ others, ← updated_append,
        List.singleton_append]

/-- What stands behind a pair that cannot be applied is not looked at. -/
theorem applyAll_of_refuses (options : Options)
    (applicable : ∀ earlier ∈ before, Applicable earlier) (refuses : Refuses pair fault) :
    options.applyAll (before ++ pair :: rest) = (options.updated before, some fault) := by
  rw [applyAll_append, options.applyAll_of_applicable applicable, if_pos rfl,
    applyAll_cons_of_refuses _ refuses]

/-- The fault of the first pair that cannot be applied. -/
def FirstFault (pairs : List (String × String)) (fault : OptionFault) : Prop :=
  ∃ before pair rest, pairs = before ++ pair :: rest ∧
    (∀ earlier ∈ before, Applicable earlier) ∧ Refuses pair fault

theorem applicable_or_firstFault (pairs : List (String × String)) :
    (∀ pair ∈ pairs, Applicable pair) ∨ ∃ fault, FirstFault pairs fault := by
  induction pairs with
  | nil => exact .inl nofun
  | cons pair rest ih =>
      rcases applicable_or_refuses pair with applicable | ⟨fault, refuses⟩
      · rcases ih with others | ⟨fault, before, bad, behind, rfl, good, refuses⟩
        · exact .inl (List.forall_mem_cons.mpr ⟨applicable, others⟩)
        · exact .inr ⟨fault, pair :: before, bad, behind, rfl,
            List.forall_mem_cons.mpr ⟨applicable, good⟩, refuses⟩
      · exact .inr ⟨fault, [], pair, rest, rfl, nofun, refuses⟩

theorem applyAll_snd_eq_none_iff (options : Options) :
    (options.applyAll pairs).2 = none ↔ ∀ pair ∈ pairs, Applicable pair := by
  constructor
  · intro applied
    rcases applicable_or_firstFault pairs with all | ⟨fault, before, pair, rest, rfl, good, refuses⟩
    · exact all
    · rw [options.applyAll_of_refuses good refuses] at applied
      cases applied
  · intro all
    rw [options.applyAll_of_applicable all]

theorem applyAll_snd_eq_some_iff (options : Options) :
    (options.applyAll pairs).2 = some fault ↔ FirstFault pairs fault := by
  constructor
  · intro failed
    rcases applicable_or_firstFault pairs with all | ⟨found, first⟩
    · rw [options.applyAll_of_applicable all] at failed
      cases failed
    · obtain ⟨before, pair, rest, rfl, good, refuses⟩ := first
      rw [options.applyAll_of_refuses good refuses] at failed
      obtain rfl := Option.some.inj failed
      exact ⟨before, pair, rest, rfl, good, refuses⟩
  · rintro ⟨before, pair, rest, rfl, good, refuses⟩
    rw [options.applyAll_of_refuses good refuses]

/-- The first fault of two lists in a row is that of the second only if the first has none. -/
theorem firstFault_append_iff : FirstFault (before ++ rest) fault ↔
    FirstFault before fault ∨ (∀ pair ∈ before, Applicable pair) ∧ FirstFault rest fault := by
  rw [← applyAll_snd_eq_some_iff default, applyAll_append, ← applyAll_snd_eq_some_iff default,
    ← applyAll_snd_eq_none_iff default]
  by_cases applied : (default.applyAll before).2 = none
  · simp only [applied, ↓reduceIte, reduceCtorEq, false_or, true_and]
    exact applyAll_snd_eq_some_iff _
  · simp only [applied, ↓reduceIte, false_and, or_false]

theorem not_firstFault (applicable : ∀ pair ∈ pairs, Applicable pair) :
    ¬FirstFault pairs fault := by
  rintro ⟨before, pair, rest, rfl, -, refuses⟩
  exact (applicable pair (List.mem_append_right before List.mem_cons_self)).not_refuses refuses

theorem firstFault_singleton_iff : FirstFault [pair] fault ↔ Refuses pair fault := by
  constructor
  · rintro ⟨before, bad, rest, split, good, refuses⟩
    cases before with
    | nil =>
        obtain rfl := (List.cons.inj split).1
        exact refuses
    | cons first others => simp at split
  · intro refuses
    exact ⟨[], pair, [], rfl, nofun, refuses⟩

/-! ## Pairs that can be left out -/

/-- A pair that is followed by another one for the same setting does not count. -/
theorem updated_overridden {setting : Setting} {middle : List (String × String)}
    {pair later : String × String} (own : pair.1 ∈ setting.keys)
    (again : later.1 ∈ setting.keys) :
    options.updated (before ++ pair :: middle ++ [later]) =
      options.updated (before ++ middle ++ [later]) := by
  apply updated_congr
  intro other
  by_cases same : setting = other
  · subst same
    rw [Setting.lastValue?_concat_of_mem again, Setting.lastValue?_concat_of_mem again]
  · have foreign : pair.1 ∉ other.keys := fun listed => same (Setting.eq_of_mem_keys own listed)
    simp only [Setting.lastValue?, Setting.values_append, Setting.values_cons_of_not_mem foreign]

/-- **Pairs are applied until one is refused.**
* Either all pairs can be applied and are, or the first that cannot be applied is blamed and the
  pairs before it are applied. That pair sets nothing, and what stands behind it is not looked at.
* Of two lists in a row, the second is applied after the first if all of the first is applied.
* A pair whose key is that of no setting can be left out.
* So can a pair for a setting that is set again behind it, if the application gets that far. -/
theorem applyAll_until_refused (options : Options) :
    (∀ pairs : List (String × String),
      (∀ pair ∈ pairs, Applicable pair) ∧ options.applyAll pairs = (options.updated pairs, none) ∨
      ∃ before pair rest fault, pairs = before ++ pair :: rest ∧
        (∀ earlier ∈ before, Applicable earlier) ∧ Refuses pair fault ∧
        options.applyAll before = (options.updated before, none) ∧
        ∀ others, options.applyAll (before ++ pair :: others) =
          (options.updated before, some fault)) ∧
    (∀ first second : List (String × String), options.applyAll (first ++ second) =
      if (options.applyAll first).2 = none then (options.applyAll first).1.applyAll second
      else options.applyAll first) ∧
    (∀ (before rest : List (String × String)) (pair : String × String),
      (∀ setting : Setting, pair.1 ∉ setting.keys) →
      options.applyAll (before ++ pair :: rest) = options.applyAll (before ++ rest)) ∧
    ∀ (before middle rest : List (String × String)) (setting : Setting)
      (pair later : String × String), pair.1 ∈ setting.keys → later.1 ∈ setting.keys →
      (options.applyAll (before ++ pair :: middle ++ [later])).2 = none →
      options.applyAll (before ++ pair :: middle ++ later :: rest) =
        options.applyAll (before ++ middle ++ later :: rest) := by
  refine ⟨?stops, options.applyAll_append, ?unknown, ?overridden⟩
  case stops =>
    intro pairs
    rcases applicable_or_firstFault pairs with all | ⟨fault, first⟩
    · exact .inl ⟨all, options.applyAll_of_applicable all⟩
    · obtain ⟨before, pair, rest, split, good, refuses⟩ := first
      exact .inr ⟨before, pair, rest, fault, split, good, refuses,
        options.applyAll_of_applicable good, fun _ => options.applyAll_of_refuses good refuses⟩
  case unknown =>
    intro before rest pair unknown
    have applicable : Applicable pair := fun setting own => absurd own (unknown setting)
    simp only [applyAll_append _ before, applyAll_cons_of_applicable _ applicable,
      updated_of_unknown unknown]
  case overridden =>
    intro before middle rest setting pair later own again applied
    have long : ∀ found ∈ before ++ pair :: middle ++ [later], Applicable found :=
      options.applyAll_snd_eq_none_iff.mp applied
    have fewer : (before ++ middle ++ [later]).Sublist (before ++ pair :: middle ++ [later]) :=
      ((List.sublist_cons_self pair middle).append_left before).append_right [later]
    have short : ∀ found ∈ before ++ middle ++ [later], Applicable found :=
      fun found listed => long found (fewer.subset listed)
    have alike : options.applyAll (before ++ pair :: middle ++ [later]) =
        options.applyAll (before ++ middle ++ [later]) := by
      rw [options.applyAll_of_applicable long, options.applyAll_of_applicable short,
        updated_overridden own again]
    calc options.applyAll (before ++ pair :: middle ++ later :: rest)
        = options.applyAll ((before ++ pair :: middle ++ [later]) ++ rest) := by simp
      _ = options.applyAll ((before ++ middle ++ [later]) ++ rest) :=
          applyAll_append_congr alike rest
      _ = options.applyAll (before ++ middle ++ later :: rest) := by simp

/-- The pair for a file name is refused, and the package behind it is not looked at. Of the pairs
before it, the first for the erasure and the one with another key can be left out. -/
theorem applyAll_until_refused_sample :
    (default.applyAll [("package", " ron.out "), ("ignoreGenericArgs", "true"), ("log", "x"),
      ("eraseGenerics", "false ")]).2 = none ∧
    default.applyAll [("package", " ron.out "), ("ignoreGenericArgs", "true"), ("log", "x"),
      ("eraseGenerics", "false "), ("fileName", "../out"), ("package", "a.b")] =
      default.applyAll [("package", " ron.out "), ("log", "x"), ("eraseGenerics", "false "),
        ("fileName", "../out"), ("package", "a.b")] ∧
    default.applyAll [("package", " ron.out "), ("log", "x"), ("eraseGenerics", "false "),
      ("fileName", "../out"), ("package", "a.b")] =
      default.applyAll [("package", " ron.out "), ("eraseGenerics", "false "),
        ("fileName", "../out"), ("package", "a.b")] ∧
    default.applyAll [("package", " ron.out "), ("eraseGenerics", "false "), ("fileName", "../out"),
      ("package", "a.b")] =
      (⟨"ron.out", "GeneratedMapperFunctions", false⟩,
        some (.invalidFileName "../out" .dots)) := by
  obtain ⟨-, -, unknown, overridden⟩ := applyAll_until_refused default
  have applied : (default.applyAll [("package", " ron.out "), ("ignoreGenericArgs", "true"),
      ("log", "x"), ("eraseGenerics", "false ")]).2 = none := by
    decide +kernel
  have noKey : ∀ setting : Setting, "log" ∉ setting.keys := by
    intro setting
    cases setting <;> simp [Setting.keys]
  refine ⟨applied, ?overridden, ?unknown, by decide +kernel⟩
  case overridden =>
    exact overridden [("package", " ron.out ")] [("log", "x")]
      [("fileName", "../out"), ("package", "a.b")] .erasure ("ignoreGenericArgs", "true")
      ("eraseGenerics", "false ") (by simp [Setting.keys]) (by simp [Setting.keys]) applied
  case unknown =>
    exact unknown [("package", " ron.out ")]
      [("eraseGenerics", "false "), ("fileName", "../out"), ("package", "a.b")] ("log", "x") noKey

end RecordMapper.Options
