import Mathlib.Data.List.Induction
import RecordMapper.Proofs.Options.Reachable

/-!
# Steps on options

Options are built up in steps: lists of pairs, values for the setters, and texts of pairs. A step can
fail. A setter that fails leaves the options as they are, and a list of pairs leaves the pairs before
the bad one applied. The options after any steps are the reachable ones
(`Options.reachable_iff_exists_after`).
-/

namespace RecordMapper.Options

/-- A step on options. -/
inductive Step
  | pairs (listed : List (String × String))
  | package (value : String)
  | fileName (value : String)
  /-- The text of a pair. -/
  | raw (text : String)

/-- The options after a setter, and its fault. If it fails, the options stay. -/
def settle (options : Options) : Except OptionFault Options → Options × Option OptionFault
  | .ok next => (next, none)
  | .error fault => (options, some fault)

/-- The options after a step, and its fault. -/
def Step.run (options : Options) : Step → Options × Option OptionFault
  | pairs listed => options.applyAll listed
  | package value => options.settle (options.setPackage value)
  | fileName value => options.settle (options.setFileName value)
  | raw text =>
    match parseKeyValue text with
    | .error fault => (options, some fault)
    | .ok pair => options.applyAll [pair]

/-- The options after some steps from the default ones, whether or not each of the steps succeeds. -/
def after (steps : List Step) : Options :=
  steps.foldl (fun options step => (step.run options).1) .default

theorem after_concat (steps : List Step) (step : Step) :
    after (steps ++ [step]) = (step.run (after steps)).1 := by
  rw [after, List.foldl_append, after, List.foldl_cons, List.foldl_nil]

variable {options : Options}

/-- A step leads from reachable options to reachable ones. -/
theorem Reachable.run (reachable : options.Reachable) (step : Step) :
    (step.run options).1.Reachable := by
  cases step with
  | pairs listed => exact reachable.applyAll listed
  | package value =>
      rw [Step.run]
      cases set : options.setPackage value with
      | error fault => exact reachable
      | ok next => exact reachable.setPackage set
  | fileName value =>
      rw [Step.run]
      cases set : options.setFileName value with
      | error fault => exact reachable
      | ok next => exact reachable.setFileName set
  | raw text =>
      rw [Step.run]
      cases parseKeyValue text with
      | error fault => exact reachable
      | ok pair => exact reachable.applyAll [pair]

theorem reachable_after (steps : List Step) : (after steps).Reachable := by
  induction steps using List.reverseRecOn with
  | nil => exact .default
  | append_singleton steps step ih =>
      rw [after_concat]
      exact ih.run step

/-- **Options are reachable exactly if some steps lead to them.** -/
theorem reachable_iff_exists_after : options.Reachable ↔ ∃ steps, after steps = options := by
  constructor
  · intro reachable
    induction reachable with
    | default => exact ⟨[], rfl⟩
    | setPackage _ success ih =>
        obtain ⟨steps, rfl⟩ := ih
        exact ⟨steps ++ [.package _], by rw [after_concat, Step.run, success, settle]⟩
    | setFileName _ success ih =>
        obtain ⟨steps, rfl⟩ := ih
        exact ⟨steps ++ [.fileName _], by rw [after_concat, Step.run, success, settle]⟩
    | applyAll listed _ ih =>
        obtain ⟨steps, rfl⟩ := ih
        exact ⟨steps ++ [.pairs listed], by rw [after_concat, Step.run]⟩
  · rintro ⟨steps, rfl⟩
    exact reachable_after steps

/-- The first step and the two before the last fail, and the list of pairs stops at its bad pair. -/
example :
    after [.package "a..b", .pairs [("package", " ron.out "), ("fileName", ""), ("package", "c")],
      .fileName "../Mappers", .raw "=x", .raw " fileName = Row.Mappers"] =
      ⟨"ron.out", "Row.Mappers", false⟩ := by
  decide +kernel

end RecordMapper.Options
