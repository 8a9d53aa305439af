import Mathlib.Data.List.Basic
import RecordMapper.MemoryStore.Session

/-!
# What a history has written

A history is the list of the steps so far. It tells by itself what the current store has to hold:
which sinks are still open on it (`MemoryStep.sinksAfter`), which files were created on it
(`MemoryStep.Created`), and which bytes were written to a file since its latest creation
(`MemoryStep.Contents`). One further step changes this in one of three ways
(`MemoryStep.Contents.reset`, `MemoryStep.Contents.create`, `MemoryStep.Contents.keep`).
-/

namespace RecordMapper.MemoryStep

open MemoryStore (sameKey)

/-- What a step makes of the sinks. A sink that was opened on the current store is listed with its
path, a sink whose store has been replaced with `none`. -/
def nextSinks (sinks : List (Option Path)) : MemoryStep → List (Option Path)
  | create package fileName => sinks ++ [some (outputPath package fileName)]
  | write .. | read .. => sinks
  | reset => sinks.map fun _ => none

/-- The sinks after the steps of a history, in opening order. -/
def sinksAfter (history : List MemoryStep) : List (Option Path) :=
  history.foldl nextSinks []

/-- The bytes that a step writes to a path: those that go through a sink of the path that was opened
on the current store. -/
def bytesTo (path : Path) (sinks : List (Option Path)) : MemoryStep → List UInt8
  | write sink bytes =>
    match sinks[sink]? with
    | some (some opened) => if sameKey opened path then bytes else []
    | _ => []
  | create .. | read .. | reset => []

/-- The bytes that steps write to a path, in order, when they come after `earlier` steps. -/
def bytesSince (path : Path) (earlier : List MemoryStep) : List MemoryStep → List UInt8
  | [] => []
  | step :: rest =>
    step.bytesTo path (sinksAfter earlier) ++ bytesSince path (earlier ++ [step]) rest

/-- The step creates the file of a path. -/
def Creates (path : Path) (step : MemoryStep) : Prop :=
  ∃ package fileName, step = create package fileName ∧
    sameKey (outputPath package fileName) path = true

/-- The file of the path was created on the current store. -/
def Created (path : Path) (history : List MemoryStep) : Prop :=
  ∃ before step since, history = before ++ step :: since ∧ step.Creates path ∧ reset ∉ since

/-- The history is cut behind the latest step that created the file of the path on the current
store. -/
structure LatestCreation (path : Path) (history earlier since : List MemoryStep) : Prop where
  split : history = earlier ++ since
  created : ∃ before step, earlier = before ++ [step] ∧ step.Creates path
  current : reset ∉ since
  latest : ∀ step ∈ since, ¬step.Creates path

/-- What the current store has to hold under a path after a history. -/
inductive Contents (path : Path) (history : List MemoryStep) : Option (List UInt8) → Prop
  /-- The file was not created. -/
  | absent (missing : ¬Created path history) : Contents path history none
  /-- All that was written to the file since its latest creation. -/
  | written {earlier since : List MemoryStep}
      (latest : LatestCreation path history earlier since) :
      Contents path history (some (bytesSince path earlier since))

variable {path : Path} {history earlier since : List MemoryStep} {step : MemoryStep}
  {bytes? : Option (List UInt8)}

theorem sinksAfter_concat :
    sinksAfter (history ++ [step]) = step.nextSinks (sinksAfter history) := by
  rw [sinksAfter, List.foldl_append]
  rfl

theorem bytesSince_concat :
    bytesSince path earlier (since ++ [step]) =
      bytesSince path earlier since ++ step.bytesTo path (sinksAfter (earlier ++ since)) := by
  induction since generalizing earlier with
  | nil => simp [bytesSince]
  | cons first rest ih => simp [bytesSince, ih]

theorem LatestCreation.toCreated (latest : LatestCreation path history earlier since) :
    Created path history := by
  obtain ⟨before, step, rfl, creates⟩ := latest.created
  exact ⟨before, step, since, by simpa using latest.split, creates, latest.current⟩

/-- Nothing is held exactly if the file was not created. -/
theorem Contents.eq_none_iff (contents : Contents path history bytes?) :
    bytes? = none ↔ ¬Created path history := by
  cases contents with
  | absent missing => simp [missing]
  | written latest => simp [latest.toCreated]

/-! ## One more step -/

/-- The latest step creates the file, or it was created before and the store is not replaced. -/
theorem created_concat_iff :
    Created path (history ++ [step]) ↔
      step.Creates path ∨ step ≠ MemoryStep.reset ∧ Created path history := by
  constructor
  · intro created
    obtain ⟨before, creation, since, split, creates, current⟩ := created
    rcases List.eq_nil_or_concat' since with rfl | ⟨front, last, rfl⟩
    · obtain ⟨-, last⟩ := List.append_inj' split rfl
      rw [List.singleton_inj.mp last]
      exact .inl creates
    · rw [← List.cons_append, ← List.append_assoc] at split
      obtain ⟨rfl, same⟩ := List.append_inj' split rfl
      obtain rfl := List.singleton_inj.mp same
      rw [List.mem_append, List.mem_singleton, not_or] at current
      exact .inr ⟨Ne.symm current.2, before, creation, front, rfl, creates, current.1⟩
  · intro created
    rcases created with creates | ⟨notReset, before, creation, since, rfl, creates, current⟩
    · exact ⟨history, step, [], rfl, creates, List.not_mem_nil⟩
    · refine ⟨before, creation, since ++ [step], by simp, creates, ?_⟩
      rw [List.mem_append, List.mem_singleton, not_or]
      exact ⟨current, notReset.symm⟩

theorem not_creates_reset : ¬MemoryStep.reset.Creates path := by
  simp [Creates]

theorem not_creates_write {sink : Nat} {bytes : List UInt8} :
    ¬(write sink bytes).Creates path := by
  simp [Creates]

theorem not_creates_read {package fileName : String} : ¬(read package fileName).Creates path := by
  simp [Creates]

/-- A new store has no files. -/
theorem Contents.reset : Contents path (history ++ [MemoryStep.reset]) none :=
  .absent (by simp [created_concat_iff, not_creates_reset])

/-- A file is empty when it is created. -/
theorem Contents.create (creates : step.Creates path) :
    Contents path (history ++ [step]) (some []) :=
  .written ⟨(List.append_nil _).symm, ⟨history, step, rfl, creates⟩, List.not_mem_nil,
    fun _ => by simp⟩

/-- Any other step adds the bytes that it writes to the path. -/
theorem Contents.keep (contents : Contents path history bytes?) (notCreates : ¬step.Creates path)
    (notReset : step ≠ MemoryStep.reset) :
    Contents path (history ++ [step])
      (bytes?.map (· ++ step.bytesTo path (sinksAfter history))) := by
  cases contents with
  | absent missing => exact .absent (by simp [created_concat_iff, notCreates, missing])
  | written latest =>
      rw [Option.map_some, latest.split, ← bytesSince_concat]
      refine .written ⟨by simp, latest.created, ?_, ?_⟩
      · simp [latest.current, notReset.symm]
      · intro other member
        rcases List.mem_append.mp member with former | last
        · exact latest.latest other former
        · rw [List.mem_singleton.mp last]
          exact notCreates

end RecordMapper.MemoryStep
