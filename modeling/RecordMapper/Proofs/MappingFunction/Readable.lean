import RecordMapper.Proofs.MappingFunction.WellFormed
import RecordMapper.Proofs.Text.Readable

/-!
# Readable mapping functions

The text of a mapping function is not escaped. It can be read back all the same, because the names
and types that stand in it hold none of the characters that come right after them
(`MappingFunction.readable`). A value is told from a transform by the parenthesis that a spelled
type cannot hold, and a default by the equals sign.
-/

namespace RecordMapper

open RecordMapper.Text

/-! ## Parameters -/

/-- The text of a parameter's type with its default. -/
def ParameterKind.chars : ParameterKind → List Char
  | .value type => type.toList
  | .transform source result identityDefault =>
    '(' :: source.toList ++ ')' :: " -> ".toList ++ result.toList ++
      if identityDefault then " = \x7b it \x7d".toList else []

theorem Parameter.toList_line (parameter : Parameter) :
    parameter.line.toList =
      "    ".toList ++ (parameter.name.toList ++
        ':' :: ' ' :: (parameter.kind.chars ++ [','] ++ ['\n'])) := by
  obtain ⟨name, kind⟩ := parameter
  cases kind with
  | value type => simp [line, typeText, default?, ParameterKind.chars]
  | transform source result identityDefault =>
      cases identityDefault <;>
        simp [line, typeText, default?, ParameterKind.chars, identityText]

theorem ParameterKind.WellFormed.noBreak {kind : ParameterKind} (wellFormed : kind.WellFormed) :
    '\n' ∉ kind.chars := by
  cases kind with
  | value type => exact wellFormed.not_mem (by decide)
  | transform source result identityDefault =>
      have fromSource : '\n' ∉ source.toList := wellFormed.1.not_mem (by decide)
      have fromResult : '\n' ∉ result.toList := wellFormed.2.not_mem (by decide)
      cases identityDefault <;> simp [ParameterKind.chars, fromSource, fromResult]

/-- Only a transform shows an opening parenthesis. -/
theorem ParameterKind.value_chars_ne {type source result : String} {identityDefault : Bool}
    (consists : SpelledType.Consists type) :
    (ParameterKind.value type).chars ≠ (transform source result identityDefault).chars := by
  intro same
  have opened : '(' ∈ (transform source result identityDefault).chars := by
    simp only [chars, List.mem_append, List.mem_cons, true_or]
  rw [← same] at opened
  exact consists.not_mem (by decide) opened

/-- The text of a default can be told from a spelled type before it. -/
theorem ParameterKind.default_injective {first second : String} {one two : Bool}
    (consists : SpelledType.Consists first) (otherConsists : SpelledType.Consists second)
    (same : first.toList ++ (if one then " = \x7b it \x7d".toList else []) =
      second.toList ++ if two then " = \x7b it \x7d".toList else []) :
    first = second ∧ one = two := by
  -- Only a default has an equals sign, so a text with one is never a text without.
  have marked : '=' ∈ " = \x7b it \x7d".toList := by decide
  have noMark : '=' ∉ first.toList := consists.not_mem (by decide)
  have otherNoMark : '=' ∉ second.toList := otherConsists.not_mem (by decide)
  cases one with
  | true =>
      cases two with
      | true => exact ⟨String.toList_inj.mp (List.append_cancel_right same), rfl⟩
      | false =>
          rw [if_pos rfl, if_neg Bool.false_ne_true, List.append_nil] at same
          exact absurd (same ▸ List.mem_append_right _ marked) otherNoMark
  | false =>
      cases two with
      | true =>
          rw [if_pos rfl, if_neg Bool.false_ne_true, List.append_nil] at same
          exact absurd (same ▸ List.mem_append_right _ marked) noMark
      | false => exact ⟨String.toList_inj.mp (List.append_cancel_right same), rfl⟩

/-- **A parameter's types can be told from their text**: whether it is a value, each type, and
whether there is a default. -/
theorem ParameterKind.chars_injective {first second : ParameterKind} (one : first.WellFormed)
    (two : second.WellFormed) (same : first.chars = second.chars) : first = second := by
  cases first with
  | value type =>
      cases second with
      | value otherType => rw [String.toList_inj.mp same]
      | transform source result identityDefault => exact absurd same (value_chars_ne one)
  | transform source result identityDefault =>
      cases second with
      | value type => exact absurd same.symm (value_chars_ne two)
      | transform otherSource otherResult otherDefault =>
          simp only [chars, List.cons_append, List.append_assoc, List.cons.injEq, true_and] at same
          obtain ⟨sources, rests⟩ := eq_of_append_stop (one.1.not_mem (by decide))
            (two.1.not_mem (by decide)) same
          obtain ⟨results, defaults⟩ := default_injective one.2 two.2
            (List.append_cancel_left rests)
          rw [String.toList_inj.mp sources, results, defaults]

theorem Parameter.readable_line :
    Readable Parameter.WellFormed fun parameter => parameter.line.toList := by
  rintro ⟨name, kind⟩ ⟨otherName, otherKind⟩ ⟨identifier, types⟩ ⟨otherIdentifier, otherTypes⟩
    rest other same
  simp only [toList_line, List.append_assoc, List.cons_append] at same
  obtain ⟨names, rests⟩ := eq_of_append_stop (Identifier.not_mem identifier (by decide))
    (Identifier.not_mem otherIdentifier (by decide)) (List.append_cancel_left same)
  have lines : (kind.chars ++ [',']) ++ '\n' :: rest =
      (otherKind.chars ++ [',']) ++ '\n' :: other := by
    simpa using rests
  obtain ⟨kinds, ends⟩ := eq_of_append_stop (by simpa using types.noBreak)
    (by simpa using otherTypes.noBreak) lines
  obtain rfl : name = otherName := String.toList_inj.mp names
  obtain rfl : kind = otherKind :=
    ParameterKind.chars_injective types otherTypes (List.append_cancel_right kinds)
  exact ⟨rfl, ends⟩

/-! ## Arguments -/

theorem ConstructorArg.toList_line (arg : ConstructorArg) :
    arg.line.toList =
      "    ".toList ++ (arg.field.toList ++
        ' ' :: '=' :: ' ' :: (arg.value.toList ++ [','] ++ ['\n'])) := by
  simp [line]

theorem ConstructorArg.readable_line :
    Readable ConstructorArg.WellFormed fun arg => arg.line.toList := by
  rintro ⟨field, value⟩ ⟨otherField, otherValue⟩ ⟨identifier, whole⟩ ⟨otherIdentifier, otherWhole⟩
    rest other same
  simp only [toList_line, List.append_assoc, List.cons_append] at same
  obtain ⟨fields, rests⟩ := eq_of_append_stop (Identifier.not_mem identifier (by decide))
    (Identifier.not_mem otherIdentifier (by decide)) (List.append_cancel_left same)
  have lines : (value.toList ++ [',']) ++ '\n' :: rest =
      (otherValue.toList ++ [',']) ++ '\n' :: other := by
    simpa using rests
  obtain ⟨values, ends⟩ := eq_of_append_stop (by simpa using whole)
    (by simpa using otherWhole) lines
  obtain rfl : field = otherField := String.toList_inj.mp fields
  obtain rfl : value = otherValue := String.toList_inj.mp (List.append_cancel_right values)
  exact ⟨rfl, ends⟩

/-! ## Functions -/

namespace MappingFunction

/-- What stands between the name of a function and its first parenthesis: the receiver and the
name. -/
def headChars (function : MappingFunction) : List Char :=
  function.receiver.toList ++ '.' :: function.name.toList

/-- What stands after the opening parenthesis of the constructor call. -/
def callChars (function : MappingFunction) : List Char :=
  '\n' :: (function.constructorArgs.flatMap (fun arg => arg.line.toList) ++ [')', '\n', '\n'])

/-- What stands after the opening parenthesis of the parameters. -/
def bodyChars (function : MappingFunction) : List Char :=
  '\n' :: (function.parameters.flatMap (fun parameter => parameter.line.toList) ++
    ')' :: ' ' :: '=' :: ' ' :: (function.returnType.toList ++ '(' :: function.callChars))

/-- The text of a function, character by character. -/
theorem toList_text (function : MappingFunction) :
    function.text.toList =
      "inline fun ".toList ++ (function.headChars ++ '(' :: function.bodyChars) := by
  have opening : "(\n".toList = ['(', '\n'] := rfl
  have dot : ".".toList = ['.'] := rfl
  have result : ") = ".toList = [')', ' ', '=', ' '] := rfl
  have closing : ")\n\n".toList = [')', '\n', '\n'] := rfl
  unfold text headChars bodyChars callChars
  simp only [String.toList_append, String.toList_join, List.flatMap_map, opening, dot, result,
    closing, List.append_assoc, List.cons_append, List.nil_append]

namespace WellFormed

variable {function : MappingFunction}

theorem name_clean (wellFormed : function.WellFormed) {c : Char}
    (listed : c ∈ '.' :: Identifier.delimiters) : c ∉ function.name.toList := by
  intro member
  exact absurd (wellFormed.name c member) (by rw [Identifier.isPart_delimiter listed]; simp)

/-- Neither the receiver nor the name of a function holds a parenthesis. -/
theorem head_clean (wellFormed : function.WellFormed) : '(' ∉ function.headChars := by
  have receiver : '(' ∉ function.receiver.toList :=
    QualifiedName.not_mem wellFormed.receiver (by decide)
  have name : '(' ∉ function.name.toList := wellFormed.name_clean (by decide)
  simp [headChars, receiver, name]

end WellFormed

/-- The arguments of a function can be told from its call. -/
theorem constructorArgs_of_callChars {first second : MappingFunction} (one : first.WellFormed)
    (two : second.WellFormed) {rest other : List Char}
    (same : first.callChars ++ rest = second.callChars ++ other) :
    first.constructorArgs = second.constructorArgs ∧ rest = other := by
  have begins (arg : ConstructorArg) : arg.line.toList.head? = some ' ' := by
    rw [ConstructorArg.toList_line]
    rfl
  simp only [callChars, List.cons_append, List.append_assoc, List.cons.injEq, true_and] at same
  obtain ⟨args, ends⟩ := ConstructorArg.readable_line.flatMap begins one.constructorArgs
    two.constructorArgs (by simp) (by simp) same
  exact ⟨args, by simpa using ends⟩

/-- The parameters, the return type and the arguments of a function can be told from its body. -/
theorem body_of_bodyChars {first second : MappingFunction} (one : first.WellFormed)
    (two : second.WellFormed) {rest other : List Char}
    (same : first.bodyChars ++ rest = second.bodyChars ++ other) :
    first.parameters = second.parameters ∧ first.returnType = second.returnType ∧
      first.constructorArgs = second.constructorArgs ∧ rest = other := by
  have begins (parameter : Parameter) : parameter.line.toList.head? = some ' ' := by
    rw [Parameter.toList_line]
    rfl
  simp only [bodyChars, List.cons_append, List.append_assoc, List.cons.injEq, true_and] at same
  obtain ⟨parameters, results⟩ := Parameter.readable_line.flatMap begins one.parameters
    two.parameters (by simp) (by simp) same
  simp only [List.cons.injEq, true_and] at results
  obtain ⟨returnTypes, calls⟩ := eq_of_append_stop
    (QualifiedName.not_mem one.returnType (by decide))
    (QualifiedName.not_mem two.returnType (by decide)) results
  obtain ⟨args, ends⟩ := constructorArgs_of_callChars one two calls
  exact ⟨parameters, String.toList_inj.mp returnTypes, args, ends⟩

/-- **The text of a mapping function is readable**: its names, its parameters with their types and
defaults and its arguments can be told from it, whatever comes after. -/
theorem readable : Readable WellFormed fun function => function.text.toList := by
  intro first second one two rest other same
  simp only [toList_text, List.append_assoc, List.cons_append, List.append_cancel_left_eq] at same
  obtain ⟨heads, bodies⟩ := eq_of_append_stop one.head_clean two.head_clean same
  obtain ⟨receivers, names⟩ := eq_of_stop_append (one.name_clean (by decide))
    (two.name_clean (by decide)) heads
  obtain ⟨parameters, returnTypes, args, ends⟩ := body_of_bodyChars one two bodies
  refine ⟨?_, ends⟩
  cases first
  cases second
  obtain rfl := String.toList_inj.mp receivers
  obtain rfl := String.toList_inj.mp names
  obtain rfl := parameters
  obtain rfl := returnTypes
  obtain rfl := args
  rfl

end MappingFunction

end RecordMapper
