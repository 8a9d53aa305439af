import RecordMapper.Json
import RecordMapper.Json.Fault

/-!
# Numbers in JSON texts

`scanNumber` reads a number. A whole number of 64 bits stays whole. Any other number becomes a
floating point number: its digits are collected into a significand as long as it fits into 64 bits,
and the significand, rounded, is multiplied or divided by a rounded power of ten.
-/

namespace RecordMapper.Json

/-- Whether a byte is a decimal digit. -/
def isDigit (b : UInt8) : Bool :=
  0x30 ≤ b && b ≤ 0x39

/-- The value of a decimal digit. -/
def digitValue (b : UInt8) : Nat :=
  b.toNat - 0x30

/-- The greatest significand, which has 64 bits. -/
def maxSignificand : Nat := 0xFFFFFFFFFFFFFFFF

/-- The greatest exponent that is read digit by digit. -/
def maxExponent : Nat := 0x7FFFFFFF

/-- The digits of a number as a significand and a power of ten. -/
structure Scaled where
  significand : Nat
  exponent : Int
  deriving DecidableEq, Repr

/-- Takes in the digits before the point. From the first digit on that does not fit, a digit only
raises the exponent. -/
def Scaled.whole (scaled : Scaled) : List UInt8 → Scaled
  | [] => scaled
  | digit :: rest =>
    let next := scaled.significand * 10 + digitValue digit
    if maxSignificand < next then
      { scaled with exponent := scaled.exponent + 1 + rest.length }
    else Scaled.whole { scaled with significand := next } rest

/-- Takes in the digits after the point, up to the first one that does not fit. -/
def Scaled.fraction (scaled : Scaled) : List UInt8 → Scaled
  | [] => scaled
  | digit :: rest =>
    let next := scaled.significand * 10 + digitValue digit
    if maxSignificand < next then scaled
    else Scaled.fraction ⟨next, scaled.exponent - 1⟩ rest

/-- The magnitude nearest to a power of ten. -/
def powerOfTen (exponent : Nat) : Binary64 :=
  (Binary64.nearest (Nat.pow 10 exponent) 1).getD .zero

/-- The greatest exponent whose power of ten is a magnitude. -/
def maxPower : Nat := 308

/-- A magnitude times a power of ten, `none` if it is out of range. Exponents far below zero are
taken in steps. -/
def scaleByTen (x : Binary64) (exponent : Int) : Option Binary64 :=
  if exponent.natAbs ≤ maxPower then
    if 0 ≤ exponent then x.mul (powerOfTen exponent.natAbs)
    else x.div (powerOfTen exponent.natAbs)
  else if x.mantissa = 0 then some x
  else if 0 ≤ exponent then none
  else
    (x.div (powerOfTen maxPower)).bind fun smaller => scaleByTen smaller (exponent + maxPower)
termination_by exponent.natAbs
decreasing_by
  have step : maxPower = 308 := rfl
  omega

/-- The magnitude of scaled digits, `none` if it is out of range. -/
def Scaled.magnitude? (scaled : Scaled) : Option Binary64 := do
  scaleByTen (← Binary64.nearest scaled.significand 1) scaled.exponent

/-- A whole number of 64 bits; a negative zero and numbers with more bits are floating point. -/
def wholeNumber (negative : Bool) (significand : Nat) : JsonNumber :=
  if !negative then .integer significand
  else if 0 < significand && significand ≤ 0x8000000000000000 then .integer (-significand)
  else .real true ((Binary64.nearest significand 1).getD .zero)

/-- The digits at the front of a byte sequence, and what is after them. -/
def spanDigits (bytes : List UInt8) : List UInt8 × List UInt8 :=
  (bytes.takeWhile isDigit, bytes.dropWhile isDigit)

/-- Reads the digits before the point. A zero has to be the only one. -/
def scanWhole : List UInt8 → Except Fault (List UInt8 × List UInt8)
  | [] => failAtEnd .endInValue
  | first :: rest =>
    if isByte '0' first then
      match rest with
      | next :: after => if isDigit next then failBefore after .badNumber else .ok ([first], rest)
      | [] => .ok ([first], rest)
    else if isDigit first then .ok (first :: (spanDigits rest).1, (spanDigits rest).2)
    else failBefore rest .badNumber

/-- Reads the digits after the point; there has to be one. -/
def scanFraction (bytes : List UInt8) : Except Fault (List UInt8 × List UInt8) :=
  match spanDigits bytes with
  | ([], []) => failAtEnd .endInValue
  | ([], _ :: after) => failBefore after .badNumber
  | digits => .ok digits

/-- Reads the digits of an exponent. `some` holds its absolute value; `none` means that it is too
large to matter, and the digits left over are skipped. The number is out of range at the digit that
makes the exponent too large, if it is positive and the significand is not zero. -/
def scanExponentDigits (fatal : Bool) (value : Nat) :
    List UInt8 → Except Fault (Option Nat × List UInt8)
  | [] => .ok (some value, [])
  | digit :: rest =>
    if isDigit digit then
      let next := value * 10 + digitValue digit
      if maxExponent < next then
        if fatal then failBefore rest .numberOutOfRange
        else .ok (none, rest.dropWhile isDigit)
      else scanExponentDigits fatal next rest
    else .ok (some value, digit :: rest)

/-- Reads an exponent after its letter: the sign, and at least one digit. -/
def scanExponent (significand : Nat) (bytes : List UInt8) :
    Except Fault (Option Int × List UInt8) :=
  let (negative, digits) :=
    match bytes with
    | sign :: rest =>
      if isByte '-' sign then (true, rest) else if isByte '+' sign then (false, rest)
      else (false, bytes)
    | [] => (false, [])
  match digits with
  | [] => failAtEnd .endInValue
  | first :: rest =>
    if isDigit first then
      match scanExponentDigits (significand ≠ 0 && !negative) 0 digits with
      | .error fault => .error fault
      | .ok (none, rest) => .ok (none, rest)
      | .ok (some value, rest) => .ok (some (if negative then -(value : Int) else value), rest)
    else failBefore rest .badNumber

/-- The number of scaled digits with an exponent, which ends before `rest`. -/
def finishReal (negative : Bool) (scaled : Scaled) (rest : List UInt8) :
    Except Fault (JsonNumber × List UInt8) :=
  match scaled.magnitude? with
  | some magnitude => .ok (.real negative magnitude, rest)
  | none => failBefore rest .numberOutOfRange

/-- Reads what may follow the digits of a number: an exponent. -/
def scanTail (negative : Bool) (scaled : Scaled) (bytes : List UInt8) :
    Except Fault (JsonNumber × List UInt8) :=
  match bytes with
  | letter :: rest =>
    if isByte 'e' letter || isByte 'E' letter then
      match scanExponent scaled.significand rest with
      | .error fault => .error fault
      | .ok (none, rest) => .ok (.real negative .zero, rest)
      | .ok (some exponent, rest) =>
        finishReal negative { scaled with exponent := scaled.exponent + exponent } rest
    else finishReal negative scaled bytes
  | [] => finishReal negative scaled bytes

/-- Whether a byte goes on with a number after its whole digits. -/
def continuesNumber (b : UInt8) : Bool :=
  isByte '.' b || isByte 'e' b || isByte 'E' b

/-- Scans a number after its sign: a whole part, then perhaps a fraction and an exponent. -/
def scanUnsigned (negative : Bool) (bytes : List UInt8) :
    Except Fault (JsonNumber × List UInt8) :=
  match scanWhole bytes with
  | .error fault => .error fault
  | .ok (digits, rest) =>
    let scaled := Scaled.whole ⟨0, 0⟩ digits
    match rest with
    | next :: after =>
      if isByte '.' next then
        match scanFraction after with
        | .error fault => .error fault
        | .ok (digits, rest) => scanTail negative (scaled.fraction digits) rest
      else if continuesNumber next || scaled.exponent ≠ 0 then scanTail negative scaled rest
      else .ok (wholeNumber negative scaled.significand, rest)
    | [] =>
      if scaled.exponent = 0 then .ok (wholeNumber negative scaled.significand, [])
      else finishReal negative scaled []

/-- Scans a number with its sign, if it has one. -/
def scanNumber : List UInt8 → Except Fault (JsonNumber × List UInt8)
  | [] => failAtEnd .endInValue
  | first :: rest =>
    if isByte '-' first then scanUnsigned true rest else scanUnsigned false (first :: rest)

theorem length_dropWhile_le (p : UInt8 → Bool) (bytes : List UInt8) :
    (bytes.dropWhile p).length ≤ bytes.length :=
  (List.dropWhile_suffix p).length_le

theorem length_scanWhole_lt {bytes digits rest : List UInt8}
    (scanned : scanWhole bytes = .ok (digits, rest)) : rest.length < bytes.length := by
  unfold scanWhole at scanned
  have shorter := length_dropWhile_le isDigit
  grind [failAtEnd, failBefore, spanDigits]

theorem length_scanFraction_le {bytes digits rest : List UInt8}
    (scanned : scanFraction bytes = .ok (digits, rest)) : rest.length ≤ bytes.length := by
  have shorter := length_dropWhile_le isDigit bytes
  unfold scanFraction at scanned
  split at scanned <;> simp_all [failAtEnd, failBefore, spanDigits]

theorem length_scanExponentDigits_le {fatal : Bool} {value : Nat} {bytes rest : List UInt8}
    {result : Option Nat} (scanned : scanExponentDigits fatal value bytes = .ok (result, rest)) :
    rest.length ≤ bytes.length := by
  induction bytes generalizing value with
  | nil => simp_all [scanExponentDigits]
  | cons digit bytes ih =>
    have shorter := length_dropWhile_le isDigit bytes
    unfold scanExponentDigits at scanned
    grind [failBefore]

theorem length_scanExponent_le {significand : Nat} {bytes rest : List UInt8} {result : Option Int}
    (scanned : scanExponent significand bytes = .ok (result, rest)) :
    rest.length ≤ bytes.length := by
  unfold scanExponent at scanned
  have shorter := @length_scanExponentDigits_le
  grind [failBefore, failAtEnd]

theorem length_finishReal {negative : Bool} {scaled : Scaled} {bytes rest : List UInt8}
    {number : JsonNumber} (scanned : finishReal negative scaled bytes = .ok (number, rest)) :
    rest = bytes := by
  unfold finishReal at scanned
  grind [failBefore]

theorem length_scanTail_le {negative : Bool} {scaled : Scaled} {bytes rest : List UInt8}
    {number : JsonNumber} (scanned : scanTail negative scaled bytes = .ok (number, rest)) :
    rest.length ≤ bytes.length := by
  unfold scanTail at scanned
  have shorter := @length_scanExponent_le
  have finished := @length_finishReal
  grind

theorem length_scanUnsigned_lt {negative : Bool} {bytes rest : List UInt8} {number : JsonNumber}
    (scanned : scanUnsigned negative bytes = .ok (number, rest)) :
    rest.length < bytes.length := by
  unfold scanUnsigned at scanned
  have whole := @length_scanWhole_lt
  have fraction := @length_scanFraction_le
  have tail := @length_scanTail_le
  have finished := @length_finishReal
  grind

/-- What is left after a number is shorter than the text from its first byte on. -/
theorem length_scanNumber_lt {bytes rest : List UInt8} {number : JsonNumber}
    (scanned : scanNumber bytes = .ok (number, rest)) : rest.length < bytes.length := by
  unfold scanNumber at scanned
  have unsigned := @length_scanUnsigned_lt
  grind [failAtEnd]

end RecordMapper.Json
