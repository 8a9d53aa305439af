import Mathlib.Data.List.Induction
import RecordMapper.Proofs.MemoryStore.Files
import RecordMapper.Proofs.MemoryStore.History

/-!
# Sessions and their histories

A session is at every moment in the state that its history leads to (`MemorySession.Reflects`). What
carries this from step to step is that every sink has its file, in the store that it was opened on,
so that no write fails (`MemorySession.Reflects.write_cases`). The current store therefore shows
what the history has written to it, whatever the order of creating, writing and replacing
(`MemorySession.trace_shows`).
-/

namespace RecordMapper

/-- The path of a sink that was opened on the store of this number. -/
def OpenSink.pathOn (generation : Nat) (sink : OpenSink) : Option Path :=
  if sink.generation = generation then some sink.path else none

namespace MemorySession

open RecordMapper.Text
open MemoryStore (sameKey)
open MemoryStep

/-- The store of a number: a replaced one, or the current one. -/
def storeOf (session : MemorySession) (generation : Nat) : MemoryStore :=
  session.replaced[generation]?.getD session.store

/-- The sinks as a history lists them. -/
def openSinks (session : MemorySession) : List (Option Path) :=
  session.sinks.map (·.pathOn session.generation)

/-- The session is in the state that the history leads to. Every sink has its file, in the current
store as well as in the replaced ones. -/
structure Reflects (session : MemorySession) (history : List MemoryStep) : Prop where
  sinks : session.openSinks = sinksAfter history
  numbered : ∀ sink ∈ session.sinks, sink.generation ≤ session.generation
  held : ∀ sink ∈ session.sinks, (session.storeOf sink.generation).bytes? sink.path ≠ none
  contents : ∀ path, Contents path history (session.store.bytes? path)
  ascending : session.store.Ascending

variable {session next : MemorySession} {history : List MemoryStep} {sink : OpenSink}

theorem storeOf_generation (session : MemorySession) :
    session.storeOf session.generation = session.store := by
  simp [storeOf, generation]

theorem reflects_start : start.Reflects [] where
  sinks := rfl
  numbered := by simp [start]
  held := by simp [start]
  contents path := .absent (by simp [Created])
  ascending := List.Pairwise.nil

/-! ## Writing -/

/-- What a write through a sink leaves of a session: the bytes are appended to the file of the sink
in its own store, and all else stays. -/
structure Wrote (session : MemorySession) (sink : OpenSink) (bytes : List UInt8)
    (next : MemorySession) : Prop where
  sinks : next.sinks = session.sinks
  generation : next.generation = session.generation
  own : (session.storeOf sink.generation).append sink.path bytes =
    .ok (next.storeOf sink.generation)
  others : ∀ number ≤ session.generation, number ≠ sink.generation →
    next.storeOf number = session.storeOf number

/-- A write through a sink that has its file succeeds. -/
theorem exists_write (numbered : sink.generation ≤ session.generation)
    (held : (session.storeOf sink.generation).bytes? sink.path ≠ none) (bytes : List UInt8) :
    ∃ next, session.write sink bytes = .ok next ∧ session.Wrote sink bytes next := by
  obtain ⟨store, appended⟩ := MemoryStore.exists_append held bytes
  unfold write
  cases replaced : session.replaced[sink.generation]? with
  | some old =>
      have own : session.storeOf sink.generation = old := by rw [storeOf, replaced]; rfl
      have inside := (List.getElem?_eq_some_iff.mp replaced).1
      rw [own] at appended
      refine ⟨{ session with replaced := session.replaced.set sink.generation store },
        by simp only [appended], rfl, ?_, ?_, ?_⟩
      · simp [generation]
      · rw [own, appended]
        simp [storeOf, inside]
      · intro number _ different
        simp [storeOf, List.getElem?_set_ne (Ne.symm different)]
  | none =>
      have current : sink.generation = session.generation :=
        Nat.le_antisymm numbered (List.getElem?_eq_none_iff.mp replaced)
      rw [current, storeOf_generation] at appended
      refine ⟨{ session with store := store }, by simp only [appended], rfl, rfl, ?_, ?_⟩
      · rw [current, storeOf_generation, appended]
        exact congrArg _ (storeOf_generation { session with store := store }).symm
      · intro number bound different
        rw [current] at different
        have inside : number < session.replaced.length := Nat.lt_of_le_of_ne bound different
        simp [storeOf, inside]

/-- A write takes no file away from any store. -/
theorem Wrote.bytes?_ne_none {bytes : List UInt8} (wrote : session.Wrote sink bytes next)
    {number : Nat} (bound : number ≤ session.generation) {path : Path}
    (present : (session.storeOf number).bytes? path ≠ none) :
    (next.storeOf number).bytes? path ≠ none := by
  by_cases own : number = sink.generation
  · subst own
    rw [MemoryStore.bytes?_append wrote.own]
    split
    · simpa using present
    · exact present
  · rw [wrote.others number bound own]
    exact present

/-- A write into a replaced store leaves the current store alone. -/
theorem Wrote.store_of_ne {bytes : List UInt8} (wrote : session.Wrote sink bytes next)
    (replaced : sink.generation ≠ session.generation) : next.store = session.store := by
  rw [← storeOf_generation, ← storeOf_generation session, wrote.generation]
  exact wrote.others _ le_rfl replaced.symm

theorem Wrote.append_of_eq {bytes : List UInt8} (wrote : session.Wrote sink bytes next)
    (current : sink.generation = session.generation) :
    session.store.append sink.path bytes = .ok next.store := by
  have own := wrote.own
  rw [current, storeOf_generation, ← wrote.generation, storeOf_generation] at own
  exact own

/-! ## One step -/

namespace Reflects

variable (reflects : session.Reflects history)

include reflects

/-- A step that opens nothing, writes nothing and replaces nothing goes into the history only. -/
theorem unchanged {step : MemoryStep}
    (sinks : step.nextSinks (sinksAfter history) = sinksAfter history)
    (idle : ∀ path, step.bytesTo path (sinksAfter history) = [])
    (notCreates : ∀ path, ¬step.Creates path) (notReset : step ≠ .reset) :
    session.Reflects (history ++ [step]) where
  sinks := by rw [sinksAfter_concat, sinks, reflects.sinks]
  numbered := reflects.numbered
  held := reflects.held
  contents path := by
    have kept := (reflects.contents path).keep (notCreates path) notReset
    simpa [idle path] using kept
  ascending := reflects.ascending

theorem create (package fileName : String) :
    (session.step (.create package fileName)).2.Reflects
      (history ++ [.create package fileName]) where
  sinks := by
    rw [sinksAfter_concat, nextSinks, ← reflects.sinks]
    have opened : (⟨session.generation, outputPath package fileName⟩ : OpenSink).pathOn
        session.generation = some (outputPath package fileName) := if_pos rfl
    rw [← opened]
    exact List.map_append
  numbered sink listed := by
    rcases List.mem_append.mp listed with former | opened
    · exact reflects.numbered sink former
    · rw [List.mem_singleton.mp opened]
      exact le_rfl
  held sink listed := by
    have kept (number : Nat) (path : Path) (present : (session.storeOf number).bytes? path ≠ none) :
        ((session.step (.create package fileName)).2.storeOf number).bytes? path ≠ none := by
      simp only [storeOf, MemorySession.step] at present ⊢
      cases replaced : session.replaced[number]? with
      | some old => simpa [replaced] using present
      | none =>
          simp only [replaced, Option.getD_none] at present ⊢
          rw [MemoryStore.bytes?_create]
          split
          · simp
          · exact present
    rcases List.mem_append.mp listed with former | opened
    · exact kept _ _ (reflects.held sink former)
    · rw [List.mem_singleton.mp opened]
      simp [storeOf, MemorySession.step, generation, MemoryStore.bytes?_create,
        MemoryStore.sameKey_iff]
  contents path := by
    change Contents path _ ((session.store.create (outputPath package fileName)).bytes? path)
    rw [MemoryStore.bytes?_create]
    by_cases own : sameKey (outputPath package fileName) path = true
    · rw [if_pos own]
      exact .create ⟨package, fileName, rfl, own⟩
    · rw [if_neg own]
      have notCreates : ¬(MemoryStep.create package fileName).Creates path := by
        intro creates
        obtain ⟨otherPackage, otherName, same, alike⟩ := creates
        cases same
        exact own alike
      simpa [bytesTo] using (reflects.contents path).keep notCreates (by simp)
  ascending := reflects.ascending.create _

theorem reset : (session.step .reset).2.Reflects (history ++ [.reset]) where
  sinks := by
    rw [sinksAfter_concat, nextSinks, ← reflects.sinks, openSinks, openSinks, List.map_map]
    apply List.map_congr_left
    intro sink listed
    have bound := reflects.numbered sink listed
    have next : (session.step .reset).2.generation = session.generation + 1 := by
      simp [MemorySession.step, generation]
    rw [next]
    exact if_neg (by omega)
  numbered sink listed := by
    have bound := reflects.numbered sink listed
    simp only [MemorySession.step, generation, List.length_append] at bound ⊢
    omega
  held sink listed := by
    have bound := reflects.numbered sink listed
    have same : (session.step .reset).2.storeOf sink.generation =
        session.storeOf sink.generation := by
      simp only [MemorySession.step, storeOf]
      rcases Nat.lt_or_eq_of_le bound with inside | current
      · rw [List.getElem?_append_left inside]
        simp [List.getElem?_eq_getElem inside]
      · rw [current]
        simp [generation]
    rw [same]
    exact reflects.held sink listed
  contents path := .reset
  ascending := List.Pairwise.nil

/-- What a write does: there is no such sink, or the bytes go through a sink of the session. -/
theorem write_cases (number : Nat) (bytes : List UInt8) :
    ((sinksAfter history)[number]? = none ∧
      session.step (.write number bytes) = (.noSuchSink, session)) ∨
    ∃ sink next, (sinksAfter history)[number]? = some (sink.pathOn session.generation) ∧
      session.step (.write number bytes) = (.done, next) ∧ session.Wrote sink bytes next := by
  rw [← reflects.sinks, openSinks, List.getElem?_map]
  simp only [MemorySession.step]
  cases found : session.sinks[number]? with
  | none => exact .inl ⟨rfl, rfl⟩
  | some sink =>
      have listed := List.mem_of_getElem? found
      obtain ⟨next, written, wrote⟩ :=
        exists_write (reflects.numbered sink listed) (reflects.held sink listed) bytes
      exact .inr ⟨sink, next, rfl, by simp only [written], wrote⟩

/-- The bytes of a write come to the path of its sink, if the sink is one of the current store. -/
theorem wrote {number : Nat} {bytes : List UInt8} (wrote : session.Wrote sink bytes next)
    (found : (sinksAfter history)[number]? = some (sink.pathOn session.generation)) :
    next.Reflects (history ++ [.write number bytes]) where
  sinks := by
    rw [sinksAfter_concat, nextSinks, ← reflects.sinks, openSinks, openSinks, wrote.sinks,
      wrote.generation]
  numbered other listed := by
    rw [wrote.sinks] at listed
    rw [wrote.generation]
    exact reflects.numbered other listed
  held other listed := by
    rw [wrote.sinks] at listed
    exact wrote.bytes?_ne_none (reflects.numbered other listed) (reflects.held other listed)
  contents path := by
    have notReset : MemoryStep.write number bytes ≠ .reset := by simp
    have kept := (reflects.contents path).keep not_creates_write notReset
    rw [bytesTo, found, OpenSink.pathOn] at kept
    by_cases current : sink.generation = session.generation
    · rw [if_pos current] at kept
      rw [MemoryStore.bytes?_append (wrote.append_of_eq current)]
      cases same : sameKey sink.path path <;> simpa [same] using kept
    · rw [wrote.store_of_ne current]
      simpa [current] using kept
  ascending := by
    by_cases current : sink.generation = session.generation
    · exact reflects.ascending.append (wrote.append_of_eq current)
    · unfold MemoryStore.Ascending
      rw [wrote.store_of_ne current]
      exact reflects.ascending

/-- **One step** leads a session that is in the state of its history to the state of the longer
history. -/
theorem step (step : MemoryStep) : (session.step step).2.Reflects (history ++ [step]) := by
  cases step with
  | create package fileName => exact reflects.create package fileName
  | reset => exact reflects.reset
  | read package fileName =>
      exact reflects.unchanged rfl (fun _ => rfl) (fun _ => not_creates_read) (by simp)
  | write number bytes =>
      rcases reflects.write_cases number bytes with
        ⟨missing, same⟩ | ⟨sink, next, found, done, wrote⟩
      · rw [same]
        exact reflects.unchanged rfl (fun _ => by simp [bytesTo, missing])
          (fun _ => not_creates_write) (by simp)
      · rw [done]
        exact reflects.wrote wrote found

end Reflects

/-! ## Whole sessions -/

/-- The session after some steps. -/
def after (session : MemorySession) (steps : List MemoryStep) : MemorySession :=
  steps.foldl (fun session step => (session.step step).2) session

/-- **Every session is in the state of its history.** -/
theorem reflects_after (history : List MemoryStep) : (start.after history).Reflects history := by
  induction history using List.reverseRecOn with
  | nil => exact reflects_start
  | append_singleton history step ih =>
      rw [after, List.foldl_append]
      exact ih.step step

theorem length_trace (session : MemorySession) (steps : List MemoryStep) :
    (session.trace steps).length = steps.length := by
  induction steps generalizing session with
  | nil => rfl
  | cons step rest ih => simp [trace, ih]

theorem trace_append (session : MemorySession) (first second : List MemoryStep) :
    session.trace (first ++ second) =
      session.trace first ++ (session.after first).trace second := by
  induction first generalizing session with
  | nil => rfl
  | cons step rest ih =>
      rw [List.cons_append, trace, trace, List.cons_append, ih]
      rfl

/-- A trace has the answer to each step, with the session after it. -/
theorem getElem?_trace (history : List MemoryStep) (step : MemoryStep) (rest : List MemoryStep) :
    (start.trace (history ++ step :: rest))[history.length]? =
      some ((start.after history).step step) := by
  rw [trace_append, List.getElem?_append_right (by rw [length_trace]), length_trace, Nat.sub_self]
  rfl

/-- What can be read from the current store after a history: each file that was created on it, with
the text of all bytes written to it since its latest creation, and no other file; and its paths in
strictly ascending order, one for each file. -/
structure Shows (session : MemorySession) (history : List MemoryStep) : Prop where
  absent : ∀ package fileName, session.store.text? package fileName = none ↔
    ¬Created (outputPath package fileName) history
  text : ∀ package fileName, Created (outputPath package fileName) history →
    ∃ earlier since, LatestCreation (outputPath package fileName) history earlier since ∧
      session.store.text? package fileName =
        some (Utf8.decodeLossy (bytesSince (outputPath package fileName) earlier since))
  ascending : session.store.paths.Pairwise fun first second => first.precedes second = true
  listed : ∀ key ∈ session.store.paths, Created key history
  once : ∀ path, Created path history →
    ∃! key, key ∈ session.store.paths ∧ sameKey key path = true

theorem Reflects.shows (reflects : session.Reflects history) : session.Shows history where
  absent package fileName := by
    rw [MemoryStore.text?, Option.map_eq_none_iff, (reflects.contents _).eq_none_iff]
  text package fileName created := by
    have contents := reflects.contents (outputPath package fileName)
    rw [MemoryStore.text?]
    generalize session.store.bytes? (outputPath package fileName) = bytes? at contents
    cases contents with
    | absent missing => exact absurd created missing
    | written latest => exact ⟨_, _, latest, rfl⟩
  ascending := reflects.ascending
  listed key member := by
    by_contra missing
    have absent := (reflects.contents key).eq_none_iff.mpr missing
    exact MemoryStore.bytes?_eq_none_iff.mp absent key member (MemoryStore.sameKey_iff.mpr rfl)
  once path created := by
    have present := mt (reflects.contents path).eq_none_iff.mp (not_not.mpr created)
    rw [MemoryStore.bytes?_eq_none_iff] at present
    push Not at present
    obtain ⟨key, member, same⟩ := present
    refine ⟨key, ⟨member, same⟩, ?_⟩
    intro other both
    apply reflects.ascending.eq_of_sameKey both.1 member
    rw [MemoryStore.sameKey_iff] at same ⊢
    exact (MemoryStore.sameKey_iff.mp both.2).trans same.symm

/-- The answer to a step that comes after a history and leads to a session. Writes through sinks
that were opened never fail. -/
def answerTo (session : MemorySession) (history : List MemoryStep) : MemoryStep → MemoryAnswer
  | .create .. => .opened (sinksAfter history).length
  | .write number _ => if number < (sinksAfter history).length then .done else .noSuchSink
  | .read package fileName => .text (session.store.text? package fileName)
  | .reset => .done

theorem Reflects.answer (reflects : session.Reflects history) (step : MemoryStep) :
    (session.step step).1 = (session.step step).2.answerTo history step := by
  cases step with
  | create package fileName =>
      rw [answerTo, ← reflects.sinks, openSinks, List.length_map]
      rfl
  | read package fileName => rfl
  | reset => rfl
  | write number bytes =>
      rw [answerTo]
      rcases reflects.write_cases number bytes with ⟨missing, same⟩ | ⟨sink, next, found, done, -⟩
      · rw [same, if_neg (by simpa using missing)]
      · rw [done, if_pos (List.getElem?_eq_some_iff.mp found).1]

/-- A write through a sink of a replaced store leaves the current store alone. -/
theorem Reflects.store_of_replaced (reflects : session.Reflects history) {number : Nat}
    (bytes : List UInt8) (replaced : (sinksAfter history)[number]? = some none) :
    (session.step (.write number bytes)).2.store = session.store := by
  rcases reflects.write_cases number bytes with ⟨missing, -⟩ | ⟨sink, next, found, done, wrote⟩
  · rw [missing] at replaced
    cases replaced
  · rw [done]
    apply wrote.store_of_ne
    intro current
    rw [found, OpenSink.pathOn, if_pos current] at replaced
    cases replaced

/-- **Sessions under any interleaving.** After every step of every history, the current store shows
exactly what the history has created and written on it. Every step is answered, no write through an
opened sink fails, and a write through a sink of a replaced store leaves the current store alone. -/
theorem trace_shows (history : List MemoryStep) (step : MemoryStep) (rest : List MemoryStep) :
    ∃ answer session,
      (start.trace (history ++ step :: rest))[history.length]? = some (answer, session) ∧
      session.Shows (history ++ [step]) ∧
      answer = session.answerTo history step ∧
      ∀ number bytes, step = .write number bytes → (sinksAfter history)[number]? = some none →
        session.store = (start.after history).store := by
  have reflects := reflects_after history
  refine ⟨((start.after history).step step).1, ((start.after history).step step).2,
    getElem?_trace history step rest, (reflects.step step).shows, reflects.answer step, ?_⟩
  intro number bytes write replaced
  rw [write]
  exact reflects.store_of_replaced bytes replaced

/-- A file is created, written, and created again with another spelling of its path, while the first
sink stays open. -/
def sampleHistory : List MemoryStep :=
  [.create "ron" "F", .write 0 [97], .create "" "ron//F"]

/-- The first sink writes to the file that was created anew, which then holds this and nothing that
was written before. After the store has been replaced, it is still written through, but not into the
current store. -/
theorem trace_shows_sample :
    (∃ answer session,
      (start.trace (sampleHistory ++ [.write 0 [98], .reset, .write 0 [99]]))[3]? =
        some (answer, session) ∧
      answer = .done ∧ session.Shows (sampleHistory ++ [.write 0 [98]]) ∧
      session.store.text? "ron" "F" = some "b") ∧
    ∃ answer session,
      (start.trace (sampleHistory ++ [.write 0 [98], .reset, .write 0 [99]]))[5]? =
        some (answer, session) ∧
      answer = .done ∧
      session.store = (start.after (sampleHistory ++ [.write 0 [98], .reset])).store := by
  constructor
  · obtain ⟨answer, session, traced, shows, told, -⟩ :=
      trace_shows sampleHistory (.write 0 [98]) [.reset, .write 0 [99]]
    have read : ((start.trace (sampleHistory ++ [.write 0 [98], .reset, .write 0 [99]]))[
        sampleHistory.length]?.bind fun found => found.2.store.text? "ron" "F") = some "b" := by
      decide +kernel
    rw [traced, Option.bind_some] at read
    exact ⟨answer, session, traced, told, shows, read⟩
  · obtain ⟨answer, session, traced, -, told, kept⟩ :=
      trace_shows (sampleHistory ++ [.write 0 [98], .reset]) (.write 0 [99]) []
    exact ⟨answer, session, traced, told, kept 0 [99] rfl rfl⟩

end MemorySession

end RecordMapper
