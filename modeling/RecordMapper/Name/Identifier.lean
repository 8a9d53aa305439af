import RecordMapper.Text.Letter
import RecordMapper.Text.Quoted

/-!
# Identifiers

An identifier is a letter or an underscore, followed by letters, digits and underscores. The names
of fields, of classes and of package segments in generated code are identifiers.
-/

namespace RecordMapper.Identifier

open RecordMapper.Text

/-- A character that can begin an identifier. -/
def isStart (c : Char) : Bool :=
  isLetter c || c = '_'

/-- A character that can stand after the first one of an identifier. -/
def isPart (c : Char) : Bool :=
  isLetterOrDigit c || c = '_'

/-- Why a text is not an identifier. -/
inductive Fault
  | empty
  | badStart
  | badPart
  deriving DecidableEq, Repr

/-- The first reason why a text is not an identifier, `none` if it is one. -/
def fault? (name : String) : Option Fault :=
  match name.toList with
  | [] => some .empty
  | first :: rest =>
    if !isStart first then some .badStart
    else if !rest.all isPart then some .badPart
    else none

/-- The text of a fault of a name. -/
def Fault.message (name : String) : Fault → String
  | empty => "identifier must be non-empty"
  | badStart => "invalid identifier start (must be a letter or '_'): " ++ quote name
  | badPart => "invalid identifier char (allowed letters, digits, '_'): " ++ quote name

theorem isPart_of_isStart {c : Char} (start : isStart c = true) : isPart c = true := by
  simp only [isStart, isPart, Bool.or_eq_true] at start ⊢
  exact start.imp_left isLetterOrDigit_of_isLetter

/-- A text is an identifier exactly if it begins with a start character and goes on with part
characters. -/
theorem fault?_eq_none_iff {name : String} :
    fault? name = none ↔
      ∃ first rest, name.toList = first :: rest ∧ isStart first = true ∧
        rest.all isPart = true := by
  unfold fault?
  cases name.toList with
  | nil => simp
  | cons first rest =>
    have spelled :
        (∃ head tail, first :: rest = head :: tail ∧ isStart head = true ∧
            tail.all isPart = true) ↔
          isStart first = true ∧ rest.all isPart = true :=
      ⟨by rintro ⟨_, _, same, start, parts⟩; cases same; exact ⟨start, parts⟩,
        fun valid => ⟨first, rest, rfl, valid⟩⟩
    rw [spelled]
    dsimp only
    cases isStart first <;> cases rest.all isPart <;> simp

end RecordMapper.Identifier
