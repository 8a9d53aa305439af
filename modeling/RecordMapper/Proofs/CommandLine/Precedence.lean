import RecordMapper.Proofs.CommandLine.Options

/-!
# Precedence of options

A value on the command line comes from a flag, or else from the last option text for its setting, or
else it is the default one. All texts and flags have to be in order, those that are overridden as
well, and the first that is not is blamed: a text that is not that of a pair, then a pair, then the
package flag, then the flag for the file name (`GenerateArguments.runOptions_precedence`).
-/

namespace RecordMapper.CommandLine.GenerateArguments

open RecordMapper.Options RecordMapper.Text

/-- Arguments of which every option text and every flag is in order, whether or not it counts. -/
structure Acceptable (arguments : GenerateArguments) : Prop where
  texts : ∀ text ∈ arguments.options, ∃ pair, Tells text pair
  values : ∀ text ∈ arguments.options, ∀ pair, Tells text pair → Applicable pair
  package : ∀ value ∈ arguments.package?, Setting.package.Allows value
  fileName : ∀ value ∈ arguments.fileName?, Setting.fileName.Allows value

/-- The first fault of the arguments: that of a text, or else of a pair, or else of a flag. -/
inductive Blames (arguments : GenerateArguments) (fault : OptionFault) : Prop
  | text : FirstMalformed arguments.options fault → Blames arguments fault
  | pair {pairs : List (String × String)} : List.Forall₂ Tells arguments.options pairs →
      FirstFault pairs fault → Blames arguments fault
  | package {pairs : List (String × String)} {value : String} :
      List.Forall₂ Tells arguments.options pairs → (∀ pair ∈ pairs, Applicable pair) →
      arguments.package? = some value → Refuses ("package", value) fault → Blames arguments fault
  | fileName {pairs : List (String × String)} {value : String} :
      List.Forall₂ Tells arguments.options pairs → (∀ pair ∈ pairs, Applicable pair) →
      (∀ other ∈ arguments.package?, Setting.package.Allows other) →
      arguments.fileName? = some value → Refuses ("fileName", value) fault → Blames arguments fault

variable {arguments : GenerateArguments} {pairs : List (String × String)} {fault : OptionFault}
  {setting : Setting} {key : String} {value? : Option String}

/-! ## Flags as pairs -/

theorem mem_keys_package : "package" ∈ Setting.package.keys :=
  List.mem_cons_self

theorem mem_keys_fileName : "fileName" ∈ Setting.fileName.keys :=
  List.mem_cons_self

theorem mem_keys_erasure : "eraseGenerics" ∈ Setting.erasure.keys :=
  List.mem_cons_of_mem _ List.mem_cons_self

theorem lastValue?_flag (own : key ∈ setting.keys) (other : Setting) :
    other.lastValue? (value?.toList.map (Prod.mk key)) =
      if setting = other then value? else none := by
  cases value? with
  | none => simp [Setting.lastValue?, Setting.values]
  | some value => exact Setting.lastValue?_single own value other

theorem applicable_flag_iff (own : key ∈ setting.keys) :
    (∀ pair ∈ value?.toList.map (Prod.mk key), Applicable pair) ↔
      ∀ value ∈ value?, setting.Allows value := by
  simp [applicable_iff_of_mem own]

theorem firstFault_flag_iff : FirstFault (value?.toList.map (Prod.mk key)) fault ↔
    ∃ value ∈ value?, Refuses (key, value) fault := by
  cases value? with
  | none => simp [FirstFault]
  | some value =>
      rw [Option.toList_some, List.map_singleton, firstFault_singleton_iff]
      simp

theorem trim_true : trim "true" = "true" :=
  rfl

/-- The pair of the switch can be applied. -/
theorem applicable_switchPairs : ∀ pair ∈ arguments.switchPairs, Applicable pair := by
  have on : Applicable ("eraseGenerics", "true") :=
    (applicable_iff_of_mem mem_keys_erasure).mpr (.inl trim_true)
  rw [switchPairs]
  cases arguments.eraseGenerics with
  | false => exact List.forall_mem_nil _
  | true => exact List.forall_mem_singleton.mpr on

/-- The value that the flags give for a setting. -/
def flagValue? (arguments : GenerateArguments) : Setting → Option String
  | .erasure => if arguments.eraseGenerics then some "true" else none
  | .package => arguments.package?
  | .fileName => arguments.fileName?

theorem lastValue?_flagPairs (setting : Setting) :
    setting.lastValue? arguments.flagPairs = arguments.flagValue? setting := by
  have switch : setting.lastValue? arguments.switchPairs =
      if .erasure = setting ∧ arguments.eraseGenerics = true then some "true" else none := by
    rw [switchPairs]
    cases arguments.eraseGenerics with
    | false => simp [Setting.lastValue?, Setting.values]
    | true => simpa using Setting.lastValue?_single mem_keys_erasure "true" setting
  rw [flagPairs, Setting.lastValue?_append, Setting.lastValue?_append, switch,
    lastValue?_flag mem_keys_package, lastValue?_flag mem_keys_fileName]
  cases setting <;> simp [flagValue?]

theorem applicable_flagPairs_iff : (∀ pair ∈ arguments.flagPairs, Applicable pair) ↔
    (∀ value ∈ arguments.package?, Setting.package.Allows value) ∧
      ∀ value ∈ arguments.fileName?, Setting.fileName.Allows value := by
  rw [flagPairs, List.forall_mem_append, List.forall_mem_append,
    applicable_flag_iff mem_keys_package, applicable_flag_iff mem_keys_fileName]
  exact and_congr_right fun _ => and_iff_left applicable_switchPairs

theorem firstFault_flagPairs_iff : FirstFault arguments.flagPairs fault ↔
    (∃ value ∈ arguments.package?, Refuses ("package", value) fault) ∨
      (∀ value ∈ arguments.package?, Setting.package.Allows value) ∧
        ∃ value ∈ arguments.fileName?, Refuses ("fileName", value) fault := by
  have switch : ¬FirstFault arguments.switchPairs fault :=
    not_firstFault applicable_switchPairs
  rw [flagPairs, firstFault_append_iff, firstFault_append_iff, firstFault_flag_iff,
    firstFault_flag_iff, applicable_flag_iff mem_keys_package]
  simp only [switch, and_false, or_false]

/-! ## Values -/

/-- The value that the last text for a setting gives is a trimmed one. -/
theorem map_trim_lastValue? (told : List.Forall₂ Tells arguments.options pairs)
    (setting : Setting) :
    (setting.lastValue? pairs).map trim = setting.lastValue? pairs := by
  cases last : setting.lastValue? pairs with
  | none => rfl
  | some value =>
      obtain ⟨pair, listed, rfl⟩ := List.mem_map.mp (List.mem_of_getLast? last)
      rw [Option.map_some, trim_of_mem_values told pair (List.mem_filter.mp listed).1]

/-- The value for a setting comes from the flag, or else from the last text, or else it stays. -/
theorem getD_lastValue? (told : List.Forall₂ Tells arguments.options pairs) (setting : Setting)
    (fallback : String) :
    ((setting.lastValue? (pairs ++ arguments.flagPairs)).map trim).getD fallback =
      ((arguments.flagValue? setting).map trim).getD
        ((setting.lastValue? pairs).getD fallback) := by
  rw [Setting.lastValue?_append, lastValue?_flagPairs, Option.map_or, Option.getD_or,
    map_trim_lastValue? told]

/-- Type arguments are erased if the switch says so, or else the last text for that. -/
theorem eraseGenerics_updated_iff (told : List.Forall₂ Tells arguments.options pairs) :
    (Options.default.updated (pairs ++ arguments.flagPairs)).eraseGenerics = true ↔
      arguments.eraseGenerics = true ∨ Setting.erasure.lastValue? pairs = some "true" := by
  have trimmed := map_trim_lastValue? told .erasure
  simp only [updated, Setting.lastValue?_append, lastValue?_flagPairs, flagValue?]
  cases arguments.eraseGenerics with
  | true => simp [trim_true]
  | false =>
      cases last : Setting.erasure.lastValue? pairs with
      | none => simp [Options.default]
      | some value =>
          rw [last, Option.map_some, Option.some.injEq] at trimmed
          simp [trimmed]

/-! ## Acceptance -/

theorem exists_options_iff :
    (∃ options, arguments.runOptions = .ok options) ↔ arguments.Acceptable := by
  constructor
  · rintro ⟨options, settled⟩
    obtain ⟨pairs, told, all, -⟩ := runOptions_eq_ok_iff.mp settled
    obtain ⟨inTexts, inFlags⟩ := List.forall_mem_append.mp all
    obtain ⟨package, fileName⟩ := applicable_flagPairs_iff.mp inFlags
    exact ⟨exists_tells_iff.mp ⟨pairs, told⟩, (forall_mem_iff_of_tells told).mp inTexts, package,
      fileName⟩
  · intro acceptable
    obtain ⟨pairs, told⟩ := exists_tells_iff.mpr acceptable.texts
    have inTexts := (forall_mem_iff_of_tells told).mpr acceptable.values
    have inFlags := applicable_flagPairs_iff.mpr ⟨acceptable.package, acceptable.fileName⟩
    exact ⟨_, runOptions_eq_ok_iff.mpr
      ⟨pairs, told, List.forall_mem_append.mpr ⟨inTexts, inFlags⟩, rfl⟩⟩

theorem runOptions_eq_error_iff_blames :
    arguments.runOptions = .error fault ↔ arguments.Blames fault := by
  rw [runOptions_eq_error_iff]
  constructor
  · rintro (malformed | ⟨pairs, told, first⟩)
    · exact .text malformed
    · rcases firstFault_append_iff.mp first with first | ⟨all, first⟩
      · exact .pair told first
      · rcases firstFault_flagPairs_iff.mp first with ⟨value, given, refuses⟩ |
          ⟨package, value, given, refuses⟩
        · exact .package told all given refuses
        · exact .fileName told all package given refuses
  · intro blames
    cases blames with
    | text malformed => exact .inl malformed
    | pair told first => exact .inr ⟨_, told, firstFault_append_iff.mpr (.inl first)⟩
    | package told all given refuses =>
        have first := firstFault_flagPairs_iff.mpr (.inl ⟨_, given, refuses⟩)
        exact .inr ⟨_, told, firstFault_append_iff.mpr (.inr ⟨all, first⟩)⟩
    | fileName told all package given refuses =>
        have first := firstFault_flagPairs_iff.mpr (.inr ⟨package, _, given, refuses⟩)
        exact .inr ⟨_, told, firstFault_append_iff.mpr (.inr ⟨all, first⟩)⟩

/-- **Precedence of options.**
* The arguments lead to options exactly if every text is that of a pair that can be applied and
  every flag is in order.
* The package is then that of the flag, or else the value of the last text for it, or else the
  default one. So is the file name. Type arguments are erased if the switch is given, or if the last
  text for that says so.
* Texts that give the same values for each setting in the same order lead to the same options. So it
  does not matter how texts for different settings are mixed, nor which other keys there are.
* The arguments fail exactly with their first fault. -/
theorem runOptions_precedence (arguments : GenerateArguments) :
    ((∃ options, arguments.runOptions = .ok options) ↔ arguments.Acceptable) ∧
    (∀ options, arguments.runOptions = .ok options →
      ∃ pairs, List.Forall₂ Tells arguments.options pairs ∧
        options.package = (arguments.package?.map trim).getD
          ((Setting.package.lastValue? pairs).getD Options.default.package) ∧
        options.fileName = (arguments.fileName?.map trim).getD
          ((Setting.fileName.lastValue? pairs).getD Options.default.fileName) ∧
        (options.eraseGenerics = true ↔ arguments.eraseGenerics = true ∨
          Setting.erasure.lastValue? pairs = some "true")) ∧
    (∀ texts pairs others, List.Forall₂ Tells arguments.options pairs →
      List.Forall₂ Tells texts others →
      (∀ setting : Setting, setting.values pairs = setting.values others) →
      ∀ options, arguments.runOptions = .ok options ↔
        { arguments with options := texts }.runOptions = .ok options) ∧
    ∀ fault, arguments.runOptions = .error fault ↔ arguments.Blames fault := by
  refine ⟨exists_options_iff, ?settled, ?mixed, fun _ => runOptions_eq_error_iff_blames⟩
  case settled =>
    intro options settled
    obtain ⟨pairs, told, -, rfl⟩ := runOptions_eq_ok_iff.mp settled
    exact ⟨pairs, told, getD_lastValue? told .package _, getD_lastValue? told .fileName _,
      eraseGenerics_updated_iff told⟩
  case mixed =>
    intro texts pairs others told otherTold same options
    have flags : { arguments with options := texts }.flagPairs = arguments.flagPairs := rfl
    have alike : Options.default.updated pairs = Options.default.updated others := by
      apply updated_congr
      intro setting
      rw [Setting.lastValue?, same, Setting.lastValue?]
    rw [runOptions_eq_ok_iff_of_tells told, runOptions_eq_ok_iff_of_tells otherTold, flags,
      updated_append, updated_append, alike, List.forall_mem_append, List.forall_mem_append,
      forall_applicable_iff pairs, forall_applicable_iff others]
    simp only [same]

/-- Arguments with a flag for the package and with texts for all settings. -/
def sampleFlags : GenerateArguments where
  input := ⟨"declarations.json"⟩
  out := ⟨"out"⟩
  package? := some " from.flag "
  fileName? := none
  eraseGenerics := false
  options := ["package=from.text", "fileName = First", "log=on", "eraseGenerics=true",
    "fileName=Second "]
  check := false
  report? := none

/-- The texts of the arguments, mixed in another way and with other keys. -/
def sampleMixed : List String :=
  ["ignoreGenericArgs=true", "fileName=First", "fileName=Second", "package=from.text", "level="]

/-- The flag wins over the text for the package, and the later text over the earlier one for the
file name. With a package flag that is not in order, the arguments are blamed for that. -/
theorem runOptions_precedence_sample :
    sampleFlags.runOptions = .ok ⟨"from.flag", "Second", true⟩ ∧ sampleFlags.Acceptable ∧
    (∃ pairs, List.Forall₂ Tells sampleFlags.options pairs ∧
      "Second" = (Setting.fileName.lastValue? pairs).getD Options.default.fileName) ∧
    { sampleFlags with options := sampleMixed }.runOptions =
      .ok ⟨"from.flag", "Second", true⟩ ∧
    { sampleFlags with package? := some "a..b" }.Blames
      (.invalidPackage "a..b" .emptySegment) := by
  obtain ⟨accepted, wins, mixed, -⟩ := runOptions_precedence sampleFlags
  obtain ⟨-, -, -, failed⟩ := runOptions_precedence { sampleFlags with package? := some "a..b" }
  have settled : sampleFlags.runOptions = .ok ⟨"from.flag", "Second", true⟩ := by
    decide +kernel
  have told : List.Forall₂ Tells sampleFlags.options [("package", "from.text"),
      ("fileName", "First"), ("log", "on"), ("eraseGenerics", "true"), ("fileName", "Second")] :=
    mapM_parseKeyValue_eq_ok_iff.mp (by decide +kernel)
  have otherTold : List.Forall₂ Tells sampleMixed [("ignoreGenericArgs", "true"),
      ("fileName", "First"), ("fileName", "Second"), ("package", "from.text"), ("level", "")] :=
    mapM_parseKeyValue_eq_ok_iff.mp (by decide +kernel)
  obtain ⟨pairs, toldPairs, -, fileName, -⟩ := wins _ settled
  refine ⟨settled, accepted.mp ⟨_, settled⟩, ⟨pairs, toldPairs, fileName⟩, ?_,
    (failed _).mp (by decide +kernel)⟩
  apply (mixed _ _ _ told otherTold ?_ _).mp settled
  intro setting
  cases setting <;> rfl

end RecordMapper.CommandLine.GenerateArguments
