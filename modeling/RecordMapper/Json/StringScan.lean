import RecordMapper.Json.Fault

/-!
# Strings in JSON texts

`scanString` reads a string after its opening quotation mark: the bytes it stands for, with the
escapes replaced, and the bytes after the closing mark. Bytes above 0x7F are taken as they are;
whether they are well-formed is checked by the caller.
-/

namespace RecordMapper.Json

/-- The byte that an escape with a single letter stands for. -/
def letterEscape? (b : UInt8) : Option UInt8 :=
  if isByte '"' b || isByte '\\' b || isByte '/' b then some b
  else if isByte 'b' b then some 0x08
  else if isByte 'f' b then some 0x0C
  else if isByte 'n' b then some 0x0A
  else if isByte 'r' b then some 0x0D
  else if isByte 't' b then some 0x09
  else none

/-- The value of a hexadecimal digit, in lower or upper case. -/
def hexDigit? (b : UInt8) : Option Nat :=
  if 0x30 ≤ b && b ≤ 0x39 then some (b.toNat - 0x30)
  else if 0x41 ≤ b && b ≤ 0x46 then some (b.toNat - 0x41 + 10)
  else if 0x61 ≤ b && b ≤ 0x66 then some (b.toNat - 0x61 + 10)
  else none

/-- The unit that four hexadecimal digits stand for. -/
def hexUnit? (a b c d : UInt8) : Option Nat := do
  return (← hexDigit? a) * 0x1000 + (← hexDigit? b) * 0x100 + (← hexDigit? c) * 0x10
    + (← hexDigit? d)

/-- A unit that begins a pair of units. -/
def isLeadingUnit (unit : Nat) : Bool :=
  0xD800 ≤ unit && unit ≤ 0xDBFF

/-- A unit that ends a pair of units. -/
def isTrailingUnit (unit : Nat) : Bool :=
  0xDC00 ≤ unit && unit ≤ 0xDFFF

/-- The character of a pair of units. -/
def pairedChar (leading trailing : Nat) : Char :=
  Char.ofNat (0x10000 + (leading - 0xD800) * 0x400 + (trailing - 0xDC00))

/-- Puts bytes in front of the bytes that were read. -/
def prepend (bytes : List UInt8) :
    Except Fault (List UInt8 × List UInt8) → Except Fault (List UInt8 × List UInt8)
  | .ok (read, rest) => .ok (bytes ++ read, rest)
  | .error fault => .error fault

/-- Reads a string up to its closing quotation mark. -/
def scanString : List UInt8 → Except Fault (List UInt8 × List UInt8)
  | [] => failAtEnd .endInString
  | b :: rest =>
    if isByte '"' b then .ok ([], rest)
    else if isByte '\\' b then
      match rest with
      | [] => failAtEnd .endInString
      | e :: rest =>
        if isByte 'u' e then
          match rest with
          | h₁ :: h₂ :: h₃ :: h₄ :: rest =>
            match hexUnit? h₁ h₂ h₃ h₄ with
            | none => failBefore rest .badEscape
            | some unit =>
              if isTrailingUnit unit then failBefore rest .loneSurrogate
              else if isLeadingUnit unit then
                match rest with
                | [] => failAtEnd .endInString
                | slash :: rest =>
                  if isByte '\\' slash then
                    match rest with
                    | [] => failAtEnd .endInString
                    | e :: rest =>
                      if isByte 'u' e then
                        match rest with
                        | h₁ :: h₂ :: h₃ :: h₄ :: rest =>
                          match hexUnit? h₁ h₂ h₃ h₄ with
                          | none => failBefore rest .badEscape
                          | some trailing =>
                            if isTrailingUnit trailing then
                              prepend (String.utf8EncodeChar (pairedChar unit trailing))
                                (scanString rest)
                            else failBefore rest .loneSurrogate
                        | _ => failAtEnd .endInString
                      else failBefore rest .unpairedSurrogate
                  else failBefore rest .unpairedSurrogate
              else prepend (String.utf8EncodeChar (Char.ofNat unit)) (scanString rest)
          | _ => failAtEnd .endInString
        else
          match letterEscape? e with
          | some byte => prepend [byte] (scanString rest)
          | none => failBefore rest .badEscape
    else if b < 0x20 then failBefore rest .controlCharacter
    else prepend [b] (scanString rest)

theorem prepend_eq_ok {bytes read rest : List UInt8}
    {result : Except Fault (List UInt8 × List UInt8)}
    (scanned : prepend bytes result = .ok (read, rest)) :
    ∃ later, result = .ok (later, rest) ∧ read = bytes ++ later := by
  cases result with
  | error fault => simp [prepend] at scanned
  | ok value =>
    obtain ⟨later, after⟩ := value
    simp only [prepend, Except.ok.injEq, Prod.mk.injEq] at scanned
    exact ⟨later, by rw [scanned.2], scanned.1.symm⟩

/-- What is left after a string is shorter than the text from its first byte on. -/
theorem length_scanString_lt {bytes read rest : List UInt8}
    (scanned : scanString bytes = .ok (read, rest)) : rest.length < bytes.length := by
  fun_induction scanString bytes generalizing read <;>
    simp_all [failAtEnd, failBefore] <;>
    (obtain ⟨later, scanned, -⟩ := prepend_eq_ok scanned; grind)

end RecordMapper.Json
