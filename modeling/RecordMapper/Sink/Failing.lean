import RecordMapper.Sink

/-!
# Sinks that fail

A sink that refuses one thing: opening, every write after some number of writes, or flushing. It
keeps the text that it took.
-/

namespace RecordMapper

/-- What a sink refuses. -/
inductive Refusal
  | create
  | writeAfter (count : Nat)
  | flush
  deriving DecidableEq, Repr

/-- The chunks that a failing sink took, in order. -/
structure Taken where
  chunks : List String
  deriving Repr

/-- The sink that refuses one thing for the given reason. -/
def Sink.failing (refusal : Refusal) (reason : FileFault) : Sink (StateM Taken) where
  Handle := Unit
  create _ _ := return if refusal = .create then .error reason else .ok ()
  write _ text := do
    let taken ← get
    match refusal with
    | .writeAfter count =>
      if count ≤ taken.chunks.length then return .error reason
    | _ => pure ()
    set (Taken.mk (taken.chunks ++ [text]))
    return .ok ()
  flush _ := return if refusal = .flush then .error reason else .ok ()

end RecordMapper
