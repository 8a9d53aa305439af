import RecordMapper.Diagnostic
import RecordMapper.Manifest
import RecordMapper.MappingFunction

/-!
# Outcomes of candidates

Each candidate of a manifest has one outcome, a mapping function or a diagnostic. It depends on the
origin and on the declaration with the target's name, and on no other candidate.
-/

namespace RecordMapper

/-- What becomes of a candidate. -/
inductive Outcome
  | emitted (function : MappingFunction)
  | skipped (diagnostic : Diagnostic)
  deriving DecidableEq, Repr

namespace Outcome

/-- The function of an outcome, if it is emitted. -/
def function? : Outcome → Option MappingFunction
  | emitted function => some function
  | skipped _ => none

/-- The diagnostic of an outcome, if it is skipped. -/
def diagnostic? : Outcome → Option Diagnostic
  | emitted _ => none
  | skipped diagnostic => some diagnostic

@[simp] theorem function?_emitted (function : MappingFunction) :
    (emitted function).function? = some function := rfl

@[simp] theorem function?_skipped (diagnostic : Diagnostic) :
    (skipped diagnostic).function? = none := rfl

@[simp] theorem diagnostic?_emitted (function : MappingFunction) :
    (emitted function).diagnostic? = none := rfl

@[simp] theorem diagnostic?_skipped (diagnostic : Diagnostic) :
    (skipped diagnostic).diagnostic? = some diagnostic := rfl

end Outcome

namespace Manifest

/-- The schemas of a candidate's two sides. The origin is validated before the target is looked
up. -/
def schemas (manifest : Manifest) (candidate : Candidate) :
    Except Diagnostic (Schema × Schema) :=
  match Schema.ofDeclaration candidate.origin with
  | .error rejection => .error (rejection.diagnostic .origin)
  | .ok origin =>
    match manifest.find? candidate.target with
    | none => .error (.unknownTarget candidate.target)
    | some declaration =>
      match Schema.ofDeclaration declaration with
      | .error rejection => .error (rejection.diagnostic .target)
      | .ok target => .ok (origin, target)

/-- The outcome of a candidate. -/
def outcome (manifest : Manifest) (erase : Bool) (candidate : Candidate) : Outcome :=
  match manifest.schemas candidate with
  | .error diagnostic => .skipped diagnostic
  | .ok (origin, target) => .emitted (.between erase origin target)

/-- The outcomes of all candidates, in candidate order. -/
def outcomes (manifest : Manifest) (erase : Bool) : List Outcome :=
  manifest.candidates.map (manifest.outcome erase)

/-- The functions of a manifest, in candidate order. -/
def functions (manifest : Manifest) (erase : Bool) : List MappingFunction :=
  (manifest.outcomes erase).filterMap (·.function?)

/-- The diagnostics of a manifest, in candidate order. -/
def diagnostics (manifest : Manifest) (erase : Bool) : List Diagnostic :=
  (manifest.outcomes erase).filterMap (·.diagnostic?)

end Manifest

end RecordMapper
