import RecordMapper.Json.Printer
import RecordMapper.Json.Token
import RecordMapper.Proofs.Text.Utf8

/-!
# Strings that are written and read

The scanner undoes what the printer does to each character of a string: some are escaped by a
letter, other control characters by their number, and all others stand for themselves
(`Json.scanString_escapeChar`). So a printed string is read as the same string, whatever comes
after it (`Json.stringLexeme_escaped`).
-/

namespace RecordMapper.Json

open RecordMapper.Text

/-! ## Bytes that stand for themselves -/

/-- A byte that stands for itself inside a string. -/
structure IsPlain (b : UInt8) : Prop where
  printable : 0x20 ≤ b.toNat
  noQuote : b.toNat ≠ 0x22
  noBackslash : b.toNat ≠ 0x5C

theorem prepend_nil (result : Except Fault (List UInt8 × List UInt8)) :
    prepend [] result = result := by
  cases result <;> rfl

theorem prepend_prepend (first second : List UInt8)
    (result : Except Fault (List UInt8 × List UInt8)) :
    prepend first (prepend second result) = prepend (first ++ second) result := by
  cases result with
  | error fault => rfl
  | ok pair => simp [prepend]

theorem scanString_plain {b : UInt8} (plain : IsPlain b) (rest : List UInt8) :
    scanString (b :: rest) = prepend [b] (scanString rest) := by
  have quote : isByte '"' b = false := by simpa [isByte] using plain.noQuote
  have slash : isByte '\\' b = false := by simpa [isByte] using plain.noBackslash
  have control : ¬b < 0x20 := by
    rw [UInt8.lt_iff_toNat_lt]
    simpa using plain.printable
  rw [scanString.eq_def]
  simp [quote, slash, control]

theorem scanString_append_of_plain {bytes : List UInt8} (plain : ∀ b ∈ bytes, IsPlain b)
    (rest : List UInt8) : scanString (bytes ++ rest) = prepend bytes (scanString rest) := by
  induction bytes with
  | nil => rw [List.nil_append, prepend_nil]
  | cons b more ih =>
      rw [List.forall_mem_cons] at plain
      rw [List.cons_append, scanString_plain plain.1, ih plain.2, prepend_prepend,
        List.singleton_append]

/-- A byte of a character is its code point, or it lies above all characters of one byte. -/
theorem toNat_of_mem_encodeChar {c : Char} {b : UInt8} (member : b ∈ String.utf8EncodeChar c) :
    b.toNat = c.toNat ∨ 0x80 ≤ b.toNat := by
  have sequence := Utf8.sequence_encodeChar c
  revert member sequence
  generalize String.utf8EncodeChar c = bytes
  intro member sequence
  cases sequence with
  | one low value =>
      obtain rfl := List.mem_singleton.mp member
      exact .inl value
  | two _ _ lead second =>
      simp only [List.mem_cons, List.not_mem_nil, or_false] at member
      rcases member with rfl | rfl <;> omega
  | three _ _ _ lead second third =>
      simp only [List.mem_cons, List.not_mem_nil, or_false] at member
      rcases member with rfl | rfl | rfl <;> omega
  | four _ _ lead second third fourth =>
      simp only [List.mem_cons, List.not_mem_nil, or_false] at member
      rcases member with rfl | rfl | rfl | rfl <;> omega

/-- The bytes of a printable character are plain, unless it is one of the two marks. -/
theorem isPlain_of_mem_encodeChar {c : Char} (printable : 0x20 ≤ c.toNat) (noQuote : c ≠ '"')
    (noBackslash : c ≠ '\\') {b : UInt8} (member : b ∈ String.utf8EncodeChar c) : IsPlain b := by
  have quote : c.toNat ≠ 0x22 := fun same => noQuote (Char.toNat_inj.mp same)
  have slash : c.toNat ≠ 0x5C := fun same => noBackslash (Char.toNat_inj.mp same)
  have bytes := toNat_of_mem_encodeChar member
  constructor <;> omega

/-! ## Escapes -/

/-- The characters that are escaped by a letter. -/
def letterEscaped : List Char :=
  ['"', '\\', '\x08', '\x0c', '\n', '\r', '\t']

/-- An escape by a letter is read as the byte of the letter. -/
theorem scanString_letterEscape {letter byte : UInt8} (escape : letterEscape? letter = some byte)
    (rest : List UInt8) :
    scanString (0x5C :: letter :: rest) = prepend [byte] (scanString rest) := by
  have quote : isByte '"' 0x5C = false := by decide
  have slash : isByte '\\' 0x5C = true := by decide
  have noUnit : isByte 'u' letter = false := by
    rw [Bool.eq_false_iff]
    intro unit
    obtain rfl : letter = 0x75 := UInt8.toNat_inj.mp (by simpa [isByte] using unit)
    simp [letterEscape?, isByte] at escape
  rw [scanString.eq_def]
  simp [quote, slash, noUnit, escape]

/-- The digits of a control character are read as its number. -/
theorem hexUnit?_control : ∀ code < 0x20,
    hexUnit? 0x30 0x30 (UInt8.ofNat (Nat.digitChar (code / 16)).toNat)
      (UInt8.ofNat (Nat.digitChar (code % 16)).toNat) = some code := by
  decide

theorem encodeChar_digitChar : ∀ digit < 0x10,
    String.utf8EncodeChar (Nat.digitChar digit) = [UInt8.ofNat (Nat.digitChar digit).toNat] := by
  decide

/-- An escape by the number of a control character is read as this character. -/
theorem scanString_numberEscape {c : Char} (control : c.toNat < 0x20) (rest : List UInt8) :
    scanString (['\\', 'u', '0', '0', Nat.digitChar (c.toNat / 16),
        Nat.digitChar (c.toNat % 16)].flatMap String.utf8EncodeChar ++ rest) =
      prepend (String.utf8EncodeChar c) (scanString rest) := by
  have unit := hexUnit?_control c.toNat control
  have single : ¬isTrailingUnit c.toNat = true ∧ ¬isLeadingUnit c.toNat = true := by
    simp only [isTrailingUnit, isLeadingUnit, Bool.and_eq_true, decide_eq_true_eq]
    omega
  have marks : isByte '"' 0x5C = false ∧ isByte '\\' 0x5C = true ∧ isByte 'u' 0x75 = true := by
    decide
  have bytes : ['\\', 'u', '0', '0', Nat.digitChar (c.toNat / 16),
      Nat.digitChar (c.toNat % 16)].flatMap String.utf8EncodeChar =
        [0x5C, 0x75, 0x30, 0x30, UInt8.ofNat (Nat.digitChar (c.toNat / 16)).toNat,
          UInt8.ofNat (Nat.digitChar (c.toNat % 16)).toNat] := by
    simp only [List.flatMap_cons, List.flatMap_nil, encodeChar_digitChar (c.toNat / 16) (by omega),
      encodeChar_digitChar (c.toNat % 16) (by omega)]
    rfl
  rw [bytes, scanString.eq_def]
  simp [marks, unit, single]

/-- **The scanner undoes the escape of a character.** -/
theorem scanString_escapeChar (c : Char) (rest : List UInt8) :
    scanString ((escapeChar c).flatMap String.utf8EncodeChar ++ rest) =
      prepend (String.utf8EncodeChar c) (scanString rest) := by
  by_cases lettered : c ∈ letterEscaped
  · simp only [letterEscaped, List.mem_cons, List.not_mem_nil, or_false] at lettered
    rcases lettered with rfl | rfl | rfl | rfl | rfl | rfl | rfl <;>
      exact scanString_letterEscape rfl rest
  · simp only [letterEscaped, List.mem_cons, List.not_mem_nil, or_false, not_or] at lettered
    obtain ⟨quote, slash, backspace, feed, newline, carriage, tab⟩ := lettered
    unfold escapeChar
    rw [if_neg quote, if_neg slash, if_neg backspace, if_neg feed, if_neg newline, if_neg carriage,
      if_neg tab]
    by_cases control : c.toNat < 0x20
    · rw [if_pos control]
      exact scanString_numberEscape control rest
    · rw [if_neg control, List.flatMap_singleton]
      exact scanString_append_of_plain
        (fun b => isPlain_of_mem_encodeChar (by omega) quote slash) rest

/-! ## Whole strings -/

/-- The escaped characters of a string are read up to the closing mark. -/
theorem scanString_escaped (chars : List Char) (rest : List UInt8) :
    scanString ((chars.flatMap escapeChar).flatMap String.utf8EncodeChar ++ 0x22 :: rest) =
      .ok (chars.flatMap String.utf8EncodeChar, rest) := by
  induction chars with
  | nil =>
      have closing : isByte '"' 0x22 = true := by decide
      rw [scanString.eq_def]
      simp [closing]
  | cons c others ih =>
      rw [List.flatMap_cons, List.flatMap_append, List.append_assoc, scanString_escapeChar, ih]
      rfl

/-- **A printed string is read as the same string.** -/
theorem stringLexeme_escaped (text : String) (rest : List UInt8) :
    stringLexeme ((text.toList.flatMap escapeChar).flatMap String.utf8EncodeChar ++
      0x22 :: rest) = (.string text, rest) := by
  have decoded := Utf8.decode?_encode text
  rw [Utf8.encode] at decoded
  rw [stringLexeme, scanString_escaped]
  simp only [decoded, String.ofList_toList]

end RecordMapper.Json
