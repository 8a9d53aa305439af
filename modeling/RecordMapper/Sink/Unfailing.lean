import RecordMapper.Sink

/-!
# Sinks that never fail

A sink none of whose steps can fail is given by what its steps do. `SinkActions.recording` only
keeps the chunks that it is given.
-/

namespace RecordMapper

/-- What the steps of a sink do that never fails. -/
structure SinkActions (m : Type → Type) where
  /-- What a created file is written through. -/
  Handle : Type
  /-- Creates an empty file for a package and a file name. -/
  create : String → String → m Handle
  /-- Appends a chunk of text. -/
  write : Handle → String → m Unit
  /-- Brings all that was written to its place. -/
  flush : Handle → m Unit

/-- The sink with these steps, each of which succeeds. -/
abbrev Sink.ofActions {m : Type → Type} [Functor m] (actions : SinkActions m) : Sink m where
  Handle := actions.Handle
  create package fileName := .ok <$> actions.create package fileName
  write handle text := .ok <$> actions.write handle text
  flush handle := .ok <$> actions.flush handle

/-- Creates a file, writes chunks into it in order, and flushes it. -/
def SinkActions.writeFile {m : Type → Type} [Monad m] (actions : SinkActions m)
    (package fileName : String) (chunks : List String) : m Unit := do
  let handle ← actions.create package fileName
  forM chunks (actions.write handle)
  actions.flush handle

/-- Keeps the chunks that are written, in order. -/
def SinkActions.recording : SinkActions (StateM (List String)) where
  Handle := Unit
  create _ _ := return ()
  write _ text := modify (· ++ [text])
  flush _ := return ()

end RecordMapper
