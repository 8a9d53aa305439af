import RecordMapper.MemoryStore
import RecordMapper.Proofs.Run.Writing
import RecordMapper.Proofs.Steps
import RecordMapper.Proofs.Text.Utf8

/-!
# Runs into memory

A run into an empty store cannot fail. It leaves one file with the whole text
(`Manifest.run_memory`), and that text is read back from the store (`Manifest.text?_run_memory`).
-/

namespace RecordMapper

open RecordMapper.Text

theorem MemoryStore.sameKey_self (path : Path) : sameKey path path = true := by
  simp [sameKey]

/-- The run of writing a chunk. -/
theorem Sink.run_write_memory (path : Path) (chunk : String) (store : MemoryStore) :
    (Sink.memory.write path chunk).run store =
      match store.append path (Utf8.encode chunk) with
      | .error fault => (.error fault, store)
      | .ok after => (.ok (), after) := by
  have read : (get : StateM MemoryStore MemoryStore).run store = (store, store) := rfl
  change StateT.run (get >>= _) store = _
  rw [run_bind_eq read]
  cases store.append path (Utf8.encode chunk) <;> rfl

/-- Chunks that are written to the only file of a store stand behind what it holds. -/
theorem Sink.run_writeAll_memory (path : Path) (bytes : List UInt8) (chunks : List String) :
    (Sink.memory.writeAll path chunks).run ⟨[(path, bytes)]⟩ =
      (.ok (), ⟨[(path, bytes ++ chunks.flatMap Utf8.encode)]⟩) := by
  induction chunks generalizing bytes with
  | nil =>
      rw [List.flatMap_nil, List.append_nil]
      rfl
  | cons chunk rest ih =>
      have appended : (⟨[(path, bytes)]⟩ : MemoryStore).append path (Utf8.encode chunk) =
          .ok ⟨[(path, bytes ++ Utf8.encode chunk)]⟩ := by
        simp [MemoryStore.append, MemoryStore.appendIn?, MemoryStore.sameKey_self]
      have written : (Sink.memory.write path chunk).run ⟨[(path, bytes)]⟩ =
          (.ok (), ⟨[(path, bytes ++ Utf8.encode chunk)]⟩) := by
        rw [run_write_memory, appended]
      have others := ih (bytes ++ Utf8.encode chunk)
      rw [List.append_assoc, ← List.flatMap_cons] at others
      change StateT.run (Sink.memory.write path chunk >>= _) _ = _
      rw [run_bind_eq written]
      exact others

namespace Manifest

variable {manifest : Manifest}

/-- **A run into an empty store** leaves its whole text in one file. -/
theorem run_memory (marked : manifest.candidates ≠ []) (options : Options) :
    (manifest.run options Sink.memory).run .empty =
      (.ok (manifest.report options),
        ⟨[(options.outputPath, Utf8.encode (manifest.fileText options))]⟩) := by
  have written := Sink.run_writeAll_memory options.outputPath [] (manifest.chunks options)
  rw [List.nil_append, ← Utf8.encode_join] at written
  have filled : (Sink.memory.writeFile options.outputPath (manifest.chunks options)).run
      ⟨[(options.outputPath, [])]⟩ =
        (.ok (), ⟨[(options.outputPath, Utf8.encode (manifest.fileText options))]⟩) := by
    change StateT.run (Sink.memory.writeAll options.outputPath (manifest.chunks options) >>= _)
      _ = _
    rw [run_bind_eq written]
    rfl
  rw [manifest.run_eq_deliver options _ marked, Sink.deliver, StateT.run_bind]
  change StateT.run (Sink.memory.writeFile options.outputPath (manifest.chunks options) >>= _)
    ⟨[(options.outputPath, [])]⟩ = _
  rw [run_bind_eq filled]
  rfl

/-- The text of a run is read back from the store. -/
theorem text?_run_memory (marked : manifest.candidates ≠ []) (options : Options) :
    ((manifest.run options Sink.memory).run .empty).2.text? options.package options.fileName =
      some (manifest.fileText options) := by
  rw [run_memory marked options]
  change Option.map Utf8.decodeLossy (MemoryStore.bytes?
    ⟨[(options.outputPath, Utf8.encode (manifest.fileText options))]⟩ options.outputPath) = _
  simp [MemoryStore.bytes?, MemoryStore.sameKey_self, Utf8.decodeLossy_encode]

end Manifest

end RecordMapper
