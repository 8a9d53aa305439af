import RecordMapper.FileFault

/-!
# Sinks

A sink is where the text of a generated file goes. A file is created once, takes its text in chunks,
and is flushed at the end. Each step may fail.
-/

namespace RecordMapper

/-- A place to create files in, with effects in the monad `m`. -/
structure Sink (m : Type → Type) where
  /-- What a created file is written through. -/
  Handle : Type
  /-- Creates an empty file for a package and a file name. -/
  create : String → String → m (Except FileFault Handle)
  /-- Appends a chunk of text. -/
  write : Handle → String → m (Except FileFault Unit)
  /-- Brings all that was written to its place. -/
  flush : Handle → m (Except FileFault Unit)

namespace Sink

variable {m : Type → Type} [Monad m]

/-- Writes chunks in order, up to the first one that fails. -/
def writeAll (sink : Sink m) (handle : sink.Handle) : List String → m (Except FileFault Unit)
  | [] => pure (.ok ())
  | chunk :: rest => do
    match ← sink.write handle chunk with
    | .error fault => pure (.error fault)
    | .ok () => sink.writeAll handle rest

/-- Writes all chunks and flushes. Nothing is flushed after a chunk that could not be written. -/
def writeFile (sink : Sink m) (handle : sink.Handle) (chunks : List String) :
    m (Except FileFault Unit) := do
  match ← sink.writeAll handle chunks with
  | .error fault => pure (.error fault)
  | .ok () => sink.flush handle

end Sink

end RecordMapper
