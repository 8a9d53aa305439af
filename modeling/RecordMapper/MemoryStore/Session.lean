import RecordMapper.MemoryStore

/-!
# Sessions on stores

A session works on one current store and may replace it by a new one. A sink that was opened on an
earlier store stays open and writes into that store, which the session keeps.
-/

namespace RecordMapper

/-- A file that was opened for writing: the number of its store, and its path. -/
structure OpenSink where
  generation : Nat
  path : Path
  deriving Repr

/-- The current store, the stores that were replaced, in the order of their numbers, and all sinks
that were opened, in opening order. -/
structure MemorySession where
  store : MemoryStore
  replaced : List MemoryStore
  sinks : List OpenSink
  deriving Repr

/-- A step of a session. -/
inductive MemoryStep
  | create (package fileName : String)
  | write (sink : Nat) (bytes : List UInt8)
  | read (package fileName : String)
  | reset
  deriving Repr

/-- What a step answers. -/
inductive MemoryAnswer
  | opened (sink : Nat)
  | done
  | text (content? : Option String)
  | failed (fault : FileFault)
  | noSuchSink
  deriving Repr

namespace MemorySession

/-- The session that nothing has been done in. -/
def start : MemorySession :=
  ⟨.empty, [], []⟩

/-- The number of the current store. -/
def generation (session : MemorySession) : Nat :=
  session.replaced.length

/-- Appends bytes to the file of a sink, in the store that the sink was opened on. -/
def write (session : MemorySession) (sink : OpenSink) (bytes : List UInt8) :
    Except FileFault MemorySession :=
  match session.replaced[sink.generation]? with
  | some old =>
    match old.append sink.path bytes with
    | .error fault => .error fault
    | .ok store =>
      .ok { session with replaced := session.replaced.set sink.generation store }
  | none =>
    match session.store.append sink.path bytes with
    | .error fault => .error fault
    | .ok store => .ok { session with store := store }

/-- Does one step. -/
def step (session : MemorySession) : MemoryStep → MemoryAnswer × MemorySession
  | .create package fileName =>
    let path := outputPath package fileName
    (.opened session.sinks.length,
      { session with
        store := session.store.create path
        sinks := session.sinks ++ [⟨session.generation, path⟩] })
  | .write sink bytes =>
    match session.sinks[sink]? with
    | none => (.noSuchSink, session)
    | some opened =>
      match session.write opened bytes with
      | .error fault => (.failed fault, session)
      | .ok next => (.done, next)
  | .read package fileName => (.text (session.store.text? package fileName), session)
  | .reset =>
    (.done, { session with store := .empty, replaced := session.replaced ++ [session.store] })

/-- Does steps in order: the answers, each with the session after its step. -/
def trace (session : MemorySession) : List MemoryStep → List (MemoryAnswer × MemorySession)
  | [] => []
  | step :: rest =>
    let answered := session.step step
    answered :: answered.2.trace rest

end MemorySession

end RecordMapper
