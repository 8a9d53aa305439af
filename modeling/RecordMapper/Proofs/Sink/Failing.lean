import RecordMapper.Proofs.Run.Accounting
import RecordMapper.Proofs.Steps
import RecordMapper.Sink.Failing

/-!
# Runs into sinks that fail

A sink that takes some number of chunks and refuses every other one is left with exactly the first
chunks of the file (`Sink.run_writeAll_refused`). Skipped candidates have no chunk, so the number
of chunks that a sink takes decides how a run ends, and a run has no other faults than those of its
sink (`Manifest.run_leaves_first_chunks`).
-/

namespace RecordMapper

namespace Sink

variable {σ : Type} {sink : Sink (StateM σ)} {written : σ → List String} {handle : sink.Handle}
  {count : Nat} {state : σ} {chunks : List String}

/-- While fewer than `count` chunks are written, a write through the handle succeeds and adds its
chunk. What is written is seen through `written`, and flushing does not change it. -/
structure Takes (sink : Sink (StateM σ)) (written : σ → List String) (handle : sink.Handle)
    (count : Nat) : Prop where
  write : ∀ chunk state, (written state).length < count → ∃ next,
    (sink.write handle chunk).run state = (.ok (), next) ∧ written next = written state ++ [chunk]
  flush : ∀ state, written ((sink.flush handle).run state).2 = written state

/-- Once `count` chunks are written, every write through the handle fails and adds nothing. -/
def Refuses (sink : Sink (StateM σ)) (written : σ → List String) (handle : sink.Handle)
    (count : Nat) : Prop :=
  ∀ chunk state, count ≤ (written state).length → ∃ cause next,
    (sink.write handle chunk).run state = (.error cause, next) ∧ written next = written state

/-- A step of the sink fails for this reason at this stage of a run. -/
inductive Gives (sink : Sink (StateM σ)) : RunStage → FileFault → Prop
  | create {package fileName : String} {before after : σ} {cause : FileFault} :
      (sink.create package fileName).run before = (.error cause, after) → Gives sink .create cause
  | write {handle : sink.Handle} {chunk : String} {before after : σ} {cause : FileFault} :
      (sink.write handle chunk).run before = (.error cause, after) → Gives sink .write cause
  | flush {handle : sink.Handle} {before after : σ} {cause : FileFault} :
      (sink.flush handle).run before = (.error cause, after) → Gives sink .write cause

/-! ## Chunk by chunk -/

theorem run_writeAll_cons (handle : sink.Handle) (chunk : String) (rest : List String)
    (state : σ) :
    (sink.writeAll handle (chunk :: rest)).run state =
      match (sink.write handle chunk).run state with
      | (.error cause, next) => (.error cause, next)
      | (.ok (), next) => (sink.writeAll handle rest).run next := by
  rw [writeAll, StateT.run_bind]
  rcases (sink.write handle chunk).run state with ⟨cause | done, next⟩ <;> rfl

theorem run_writeFile (handle : sink.Handle) (chunks : List String) (state : σ) :
    (sink.writeFile handle chunks).run state =
      match (sink.writeAll handle chunks).run state with
      | (.error cause, next) => (.error cause, next)
      | (.ok (), next) => (sink.flush handle).run next := by
  rw [writeFile, StateT.run_bind]
  rcases (sink.writeAll handle chunks).run state with ⟨cause | done, next⟩ <;> rfl

/-- Chunks for which there is room are all written. -/
theorem run_writeAll_taken (takes : sink.Takes written handle count)
    (room : (written state).length + chunks.length ≤ count) :
    ∃ next, (sink.writeAll handle chunks).run state = (.ok (), next) ∧
      written next = written state ++ chunks := by
  induction chunks generalizing state with
  | nil => exact ⟨state, rfl, by rw [List.append_nil]⟩
  | cons chunk rest ih =>
      rw [List.length_cons] at room
      obtain ⟨middle, first, added⟩ := takes.write chunk state (by omega)
      obtain ⟨next, others, all⟩ := @ih middle (by
        rw [added, List.length_append, List.length_singleton]
        omega)
      refine ⟨next, ?_, ?_⟩
      · rw [run_writeAll_cons, first]
        exact others
      · rw [all, added, List.append_assoc, List.singleton_append]

/-- **Of chunks for which there is no room the first ones are written**, as many as there is room
for. -/
theorem run_writeAll_refused (takes : sink.Takes written handle count)
    (refuses : sink.Refuses written handle count) (fits : (written state).length ≤ count)
    (noRoom : count < (written state).length + chunks.length) :
    ∃ cause next, (sink.writeAll handle chunks).run state = (.error cause, next) ∧
      written next = written state ++ chunks.take (count - (written state).length) := by
  -- Each chunk that is taken leaves room for one less, down to the chunk that meets no room.
  induction chunks generalizing state with
  | nil =>
      rw [List.length_nil] at noRoom
      omega
  | cons chunk rest ih =>
      rw [List.length_cons] at noRoom
      by_cases full : (written state).length = count
      · obtain ⟨cause, next, refused, kept⟩ := refuses chunk state (by omega)
        refine ⟨cause, next, ?_, ?_⟩
        · rw [run_writeAll_cons, refused]
        · rw [kept, full, Nat.sub_self, List.take_zero, List.append_nil]
      · obtain ⟨middle, first, added⟩ := takes.write chunk state (by omega)
        have longer : (written middle).length = (written state).length + 1 := by
          rw [added, List.length_append, List.length_singleton]
        obtain ⟨cause, next, others, prefixed⟩ := @ih middle (by omega) (by omega)
        have room : count - (written state).length = count - (written middle).length + 1 := by
          omega
        refine ⟨cause, next, ?_, ?_⟩
        · rw [run_writeAll_cons, first]
          exact others
        · rw [prefixed, room, List.take_succ_cons, added, List.append_assoc, List.singleton_append]

/-- Writing chunks fails for a reason that a write gives. -/
theorem gives_of_run_writeAll {cause : FileFault} {next : σ}
    (failed : (sink.writeAll handle chunks).run state = (.error cause, next)) :
    sink.Gives .write cause := by
  induction chunks generalizing state with
  | nil => cases failed
  | cons chunk rest ih =>
      rw [run_writeAll_cons] at failed
      cases first : (sink.write handle chunk).run state with
      | mk result middle =>
          cases result with
          | error fault =>
              rw [first] at failed
              cases failed
              exact .write first
          | ok done =>
              rw [first] at failed
              exact ih failed

theorem gives_of_run_writeFile {cause : FileFault} {next : σ}
    (failed : (sink.writeFile handle chunks).run state = (.error cause, next)) :
    sink.Gives .write cause := by
  rw [run_writeFile] at failed
  cases all : (sink.writeAll handle chunks).run state with
  | mk result filled =>
      rw [all] at failed
      cases result with
      | error fault =>
          cases failed
          exact gives_of_run_writeAll all
      | ok done => exact .flush failed

/-! ## Refusing one thing -/

theorem run_write_failing (limit : Nat) (reason : FileFault) (chunk : String) (taken : Taken) :
    ((Sink.failing (.writeAfter limit) reason).write () chunk).run taken =
      if limit ≤ taken.chunks.length then (.error reason, taken)
      else (.ok (), ⟨taken.chunks ++ [chunk]⟩) := by
  have read : (get : StateM Taken Taken).run taken = (taken, taken) := rfl
  change StateT.run (get >>= _) taken = _
  rw [run_bind_eq read]
  by_cases full : limit ≤ taken.chunks.length
  · simp only [full, ↓reduceIte]
    rfl
  · simp only [full, ↓reduceIte]
    rfl

/-- A sink that refuses one thing takes as many chunks as it does not refuse. -/
theorem takes_failing {refusal : Refusal} (reason : FileFault)
    (room : ∀ limit, refusal = .writeAfter limit → count ≤ limit) :
    (Sink.failing refusal reason).Takes Taken.chunks () count := by
  refine ⟨?_, fun _ => rfl⟩
  intro chunk taken fits
  refine ⟨⟨taken.chunks ++ [chunk]⟩, ?_, rfl⟩
  cases refusal with
  | create => rfl
  | flush => rfl
  | writeAfter limit =>
      have more := room limit rfl
      rw [run_write_failing, if_neg (by omega)]

theorem refuses_failing (count : Nat) (reason : FileFault) :
    (Sink.failing (.writeAfter count) reason).Refuses Taken.chunks () count := by
  intro chunk taken full
  refine ⟨reason, taken, ?_, rfl⟩
  rw [run_write_failing, if_pos full]

/-! ## Whole files -/

variable {options : Options} {report : Report} {before : σ}

theorem run_deliver_of_refused {cause : FileFault} {after : σ}
    (created : (sink.create options.package options.fileName).run before = (.error cause, after))
    (chunks : List String) (report : Report) :
    (sink.deliver options chunks report).run before =
      (.error ⟨.create, options.outputPath.text, cause⟩, after) := by
  rw [deliver, run_bind_eq created]
  rfl

theorem run_deliver_of_created {opened : σ}
    (created : (sink.create options.package options.fileName).run before = (.ok handle, opened))
    (chunks : List String) (report : Report) :
    (sink.deliver options chunks report).run before =
      match (sink.writeFile handle chunks).run opened with
      | (.error cause, after) => (.error ⟨.write, options.outputPath.text, cause⟩, after)
      | (.ok (), after) => (.ok report, after) := by
  rw [deliver, run_bind_eq created]
  dsimp only
  rw [StateT.run_bind]
  rcases (sink.writeFile handle chunks).run opened with ⟨cause | done, after⟩ <;> rfl

/-- **A file is delivered unless a step of the sink fails**: either the given report is made, or
there is the fault of that step. -/
theorem run_deliver_cases (options : Options) (chunks : List String) (report : Report)
    (before : σ) :
    (∃ after, (sink.deliver options chunks report).run before = (.ok report, after)) ∨
      ∃ fault after, (sink.deliver options chunks report).run before = (.error fault, after) ∧
        sink.Gives fault.stage fault.cause := by
  rcases created : (sink.create options.package options.fileName).run before with
    ⟨cause | handle, opened⟩
  · rw [run_deliver_of_refused created]
    exact .inr ⟨_, _, rfl, .create created⟩
  · rw [run_deliver_of_created created]
    rcases filled : (sink.writeFile handle chunks).run opened with ⟨cause | done, after⟩
    · exact .inr ⟨_, _, rfl, gives_of_run_writeFile filled⟩
    · exact .inl ⟨after, rfl⟩

end Sink

namespace Manifest

variable {σ : Type}

/-- A run has no other faults than those of its sink. -/
theorem gives_of_run {manifest : Manifest} {options : Options} {sink : Sink (StateM σ)}
    {before after : σ} {fault : RunFault}
    (failed : (manifest.run options sink).run before = (.error fault, after)) :
    manifest.candidates ≠ [] ∧ sink.Gives fault.stage fault.cause := by
  by_cases unmarked : manifest.candidates = []
  · rw [manifest.run_unmarked options sink unmarked] at failed
    cases failed
  · rw [manifest.run_eq_deliver options sink unmarked] at failed
    rcases sink.run_deliver_cases options (manifest.chunks options) (manifest.report options) before
      with ⟨_, delivered⟩ | ⟨_, _, refused, gives⟩
    · rw [delivered] at failed
      cases failed
    · rw [refused] at failed
      cases failed
      exact ⟨unmarked, gives⟩

/-- A run that makes a report makes the report of all outcomes, whatever its sink does. -/
theorem eq_report_of_run {manifest : Manifest} {options : Options} {sink : Sink (StateM σ)}
    {before after : σ} {found : Report}
    (ran : (manifest.run options sink).run before = (.ok found, after)) :
    found = manifest.report options := by
  by_cases unmarked : manifest.candidates = []
  · rw [manifest.run_unmarked options sink unmarked] at ran
    cases ran
    rw [report, if_pos (by simpa using unmarked)]
  · rw [manifest.run_eq_deliver options sink unmarked] at ran
    rcases sink.run_deliver_cases options (manifest.chunks options) (manifest.report options) before
      with ⟨_, delivered⟩ | ⟨_, _, refused, -⟩
    · rw [delivered] at ran
      cases ran
      rfl
    · rw [refused] at ran
      cases ran

/-- A run that makes a report has the diagnostics of its skipped markers, in marker order. -/
theorem diagnostics_of_run {manifest : Manifest} {options : Options} {sink : Sink (StateM σ)}
    {before after : σ} {found : Report}
    (ran : (manifest.run options sink).run before = (.ok found, after)) :
    found.diagnostics =
      (manifest.markerOutcomes options.eraseGenerics).filterMap (·.diagnostic?) := by
  rw [eq_report_of_run ran]
  exact (manifest.report_accounts options).diagnostics

/-- **A failing sink is left with the first chunks.** A manifest without markers never fails and
leaves every sink alone. The file of any other manifest has one chunk for its header and one for
each marker that is emitted, and:

* if the file cannot be created, the run fails for that and does nothing else;
* if fewer chunks than these can be written, the run fails to write, and what is written is exactly
  as many first chunks as the sink took;
* if all of them can be written, they are, and the report accounts for all markers, unless flushing
  fails, which is a failure to write with all chunks written.

A fault of a run is always one that a step of the sink gave, however many markers are skipped. -/
theorem run_leaves_first_chunks (manifest : Manifest) (options : Options) (sink : Sink (StateM σ))
    (before : σ) :
    manifest.chunks options = fileHeader options.package ::
      Outcome.texts (manifest.markerOutcomes options.eraseGenerics) ∧
    (manifest.markerCount = 0 →
      (manifest.run options sink).run before = (.ok ⟨none, none, [], []⟩, before)) ∧
    (manifest.markerCount ≠ 0 →
      (∀ cause after,
        (sink.create options.package options.fileName).run before = (.error cause, after) →
        (manifest.run options sink).run before =
          (.error ⟨.create, options.outputPath.text, cause⟩, after)) ∧
      ∀ handle opened written count,
        (sink.create options.package options.fileName).run before = (.ok handle, opened) →
        written opened = [] → sink.Takes written handle count →
        (count < (manifest.chunks options).length → sink.Refuses written handle count →
          ∃ cause after,
            (manifest.run options sink).run before =
              (.error ⟨.write, options.outputPath.text, cause⟩, after) ∧
            written after = (manifest.chunks options).take count) ∧
        ((manifest.chunks options).length ≤ count → ∃ filled,
          written filled = manifest.chunks options ∧
          (∀ after, (sink.flush handle).run filled = (.ok (), after) → ∃ report : Report,
            (manifest.run options sink).run before = (.ok report, after) ∧
            written after = manifest.chunks options ∧
            report.output? = some options.outputFile ∧
            report.Accounts (manifest.markerOutcomes options.eraseGenerics)) ∧
          ∀ cause after, (sink.flush handle).run filled = (.error cause, after) →
            (manifest.run options sink).run before =
              (.error ⟨.write, options.outputPath.text, cause⟩, after) ∧
            written after = manifest.chunks options)) ∧
    ∀ fault after, (manifest.run options sink).run before = (.error fault, after) →
      manifest.markerCount ≠ 0 ∧ sink.Gives fault.stage fault.cause := by
  refine ⟨?chunks, ?unmarked, ?marked, ?faults⟩
  case chunks =>
    rw [← outcomes_eq_markerOutcomes]
    rfl
  case unmarked =>
    intro noMarkers
    rw [manifest.run_unmarked options sink (manifest.candidates_eq_nil_iff.mpr noMarkers)]
    rfl
  case marked =>
    intro hasMarkers
    have marked : manifest.candidates ≠ [] := mt manifest.candidates_eq_nil_iff.mp hasMarkers
    rw [manifest.run_eq_deliver options sink marked]
    refine ⟨fun cause after created => Sink.run_deliver_of_refused created _ _, ?_⟩
    intro handle opened written count created fresh takes
    have unwritten : (written opened).length = 0 := by rw [fresh, List.length_nil]
    rw [Sink.run_deliver_of_created created, Sink.run_writeFile]
    constructor
    · intro short refuses
      obtain ⟨cause, after, failed, first⟩ := @Sink.run_writeAll_refused _ _ written _ count opened
        (manifest.chunks options) takes refuses (by omega) (by omega)
      rw [unwritten, fresh, List.nil_append, Nat.sub_zero] at first
      rw [failed]
      exact ⟨cause, after, rfl, first⟩
    · intro room
      obtain ⟨filled, done, all⟩ := @Sink.run_writeAll_taken _ _ written _ count opened
        (manifest.chunks options) takes (by omega)
      rw [fresh, List.nil_append] at all
      have kept := takes.flush filled
      rw [done]
      dsimp only
      refine ⟨filled, all, ?_, ?_⟩
      · intro after flushed
        rw [flushed] at kept ⊢
        refine ⟨manifest.report options, rfl, kept.trans all, ?_,
          manifest.report_accounts options⟩
        rw [report, if_neg (by simpa using marked)]
      · intro cause after flushed
        rw [flushed] at kept ⊢
        exact ⟨rfl, kept.trans all⟩
  case faults =>
    intro fault after failed
    obtain ⟨marked, gives⟩ := gives_of_run failed
    exact ⟨mt manifest.candidates_eq_nil_iff.mpr marked, gives⟩

/-- The file of the sample has two chunks. A sink that takes one of them is left with the header,
and one that takes both but cannot be flushed has both. -/
theorem run_leaves_first_chunks_sample :
    (∃ cause after,
      (sample.run .default (Sink.failing (.writeAfter 1) (.refused "no space left"))).run ⟨[]⟩ =
        (.error ⟨.write, "ron/GeneratedMapperFunctions.kt", cause⟩, after) ∧
      after.chunks = ["package ron\n\n"]) ∧
    ∃ after,
      (sample.run .default (Sink.failing .flush (.refused "no space left"))).run ⟨[]⟩ =
        (.error ⟨.write, "ron/GeneratedMapperFunctions.kt", .refused "no space left"⟩, after) ∧
      after.chunks = sample.chunks .default ∧ after.chunks.length = 2 := by
  have path : Options.default.outputPath.text = "ron/GeneratedMapperFunctions.kt" := by
    decide +kernel
  have marked : sample.markerCount ≠ 0 := by decide
  have two : (sample.chunks .default).length = 2 := rfl
  rw [← path]
  constructor
  · obtain ⟨-, -, runs, -⟩ := sample.run_leaves_first_chunks .default
      (.failing (.writeAfter 1) (.refused "no space left")) ⟨[]⟩
    obtain ⟨short, -⟩ := (runs marked).2 () ⟨[]⟩ Taken.chunks 1 rfl rfl
      (Sink.takes_failing _ (by simp))
    exact short (by omega) (Sink.refuses_failing 1 _)
  · obtain ⟨-, -, runs, -⟩ := sample.run_leaves_first_chunks .default
      (.failing .flush (.refused "no space left")) ⟨[]⟩
    obtain ⟨-, all⟩ := (runs marked).2 () ⟨[]⟩ Taken.chunks 2 rfl rfl
      (Sink.takes_failing _ (by simp))
    obtain ⟨filled, -, -, unflushed⟩ := all (by omega)
    obtain ⟨failed, kept⟩ := unflushed (.refused "no space left") filled rfl
    exact ⟨filled, failed, kept, by rw [kept, two]⟩

end Manifest

end RecordMapper
