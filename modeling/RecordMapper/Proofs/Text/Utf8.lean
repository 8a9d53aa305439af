import RecordMapper.Text.Utf8

/-!
# Encoding and decoding

The bytes of a character are read as one piece, whatever comes after them
(`Piece.read_sequence`). So decoding undoes encoding, also in its lossy form (`decode?_encode`,
`decodeLossy_encode`), and only encoded texts can be decoded (`encode_of_decode?`).
-/

namespace RecordMapper.Text.Utf8

/-! ## Bytes as numbers -/

theorem isContinuation_iff (b : UInt8) :
    isContinuation b = true ↔ 0x80 ≤ b.toNat ∧ b.toNat ≤ 0xBF := by
  simp [isContinuation, UInt8.le_iff_toNat_le]

theorem secondOfThree_iff (first second : UInt8) :
    secondOfThree first second = true ↔ (0x80 ≤ second.toNat ∧ second.toNat ≤ 0xBF) ∧
      (first.toNat = 0xE0 → 0xA0 ≤ second.toNat) ∧ (first.toNat = 0xED → second.toNat ≤ 0x9F) := by
  unfold secondOfThree
  by_cases least : first = 0xE0
  · subst least
    simp [UInt8.le_iff_toNat_le]
    omega
  · by_cases surrogate : first = 0xED
    · subst surrogate
      simp [UInt8.le_iff_toNat_le]
      omega
    · have one : first.toNat ≠ 0xE0 := fun same => least (UInt8.toNat_inj.mp same)
      have two : first.toNat ≠ 0xED := fun same => surrogate (UInt8.toNat_inj.mp same)
      simp [least, surrogate, one, two, isContinuation_iff]

theorem secondOfFour_iff (first second : UInt8) :
    secondOfFour first second = true ↔ (0x80 ≤ second.toNat ∧ second.toNat ≤ 0xBF) ∧
      (first.toNat = 0xF0 → 0x90 ≤ second.toNat) ∧ (first.toNat = 0xF4 → second.toNat ≤ 0x8F) := by
  unfold secondOfFour
  by_cases least : first = 0xF0
  · subst least
    simp [UInt8.le_iff_toNat_le]
    omega
  · by_cases last : first = 0xF4
    · subst last
      simp [UInt8.le_iff_toNat_le]
      omega
    · have one : first.toNat ≠ 0xF0 := fun same => least (UInt8.toNat_inj.mp same)
      have two : first.toNat ≠ 0xF4 := fun same => last (UInt8.toNat_inj.mp same)
      simp [least, last, one, two, isContinuation_iff]

theorem payload_eq {b : UInt8} {n : Nat} (value : b.toNat = 0x80 + n) : payload b = n := by
  unfold payload
  omega

theorem toNat_eq_payload {b : UInt8} (continued : 0x80 ≤ b.toNat) :
    b.toNat = 0x80 + payload b := by
  unfold payload
  omega

/-! ## One character -/

/-- The bytes of the character with the given code point: as few as hold it, the high bits first. -/
inductive Sequence (code : Nat) : List UInt8 → Prop
  | one {first : UInt8} : code < 0x80 → first.toNat = code → Sequence code [first]
  | two {first second : UInt8} : 0x80 ≤ code → code < 0x800 →
      first.toNat = 0xC0 + code / 0x40 → second.toNat = 0x80 + code % 0x40 →
      Sequence code [first, second]
  | three {first second third : UInt8} : 0x800 ≤ code → code < 0x10000 →
      (code < 0xD800 ∨ 0xDFFF < code) → first.toNat = 0xE0 + code / 0x1000 →
      second.toNat = 0x80 + code / 0x40 % 0x40 → third.toNat = 0x80 + code % 0x40 →
      Sequence code [first, second, third]
  | four {first second third fourth : UInt8} : 0x10000 ≤ code → code < 0x110000 →
      first.toNat = 0xF0 + code / 0x40000 → second.toNat = 0x80 + code / 0x1000 % 0x40 →
      third.toNat = 0x80 + code / 0x40 % 0x40 → fourth.toNat = 0x80 + code % 0x40 →
      Sequence code [first, second, third, fourth]

/-- The code point of a character is not that of a surrogate and lies below the last one. -/
theorem codePoint_bounds (c : Char) :
    c.toNat < 0xD800 ∨ 0xDFFF < c.toNat ∧ c.toNat < 0x110000 :=
  c.valid

/-- The bytes of a character are those of its code point. -/
theorem sequence_encodeChar (c : Char) : Sequence c.toNat (String.utf8EncodeChar c) := by
  have bounds := codePoint_bounds c
  simp only [String.utf8EncodeChar, Char.toNat_val]
  generalize c.toNat = code at *
  split
  · refine .one (by omega) ?_
    simp only [UInt8.toNat_ofNat']
    omega
  · split
    · refine .two (by omega) (by omega) ?_ ?_ <;> simp only [UInt8.toNat_ofNat'] <;> omega
    · split
      · refine .three (by omega) (by omega) (by omega) ?_ ?_ ?_ <;>
          simp only [UInt8.toNat_ofNat'] <;> omega
      · refine .four (by omega) (by omega) ?_ ?_ ?_ ?_ <;>
          simp only [UInt8.toNat_ofNat'] <;> omega

theorem Sequence.ne_nil {code : Nat} {bytes : List UInt8} (sequence : Sequence code bytes) :
    bytes ≠ [] := by
  cases sequence <;> exact List.cons_ne_nil _ _

theorem Sequence.unique {code : Nat} {bytes others : List UInt8} (sequence : Sequence code bytes)
    (other : Sequence code others) : bytes = others := by
  have same {a b : UInt8} {n : Nat} (left : a.toNat = n) (right : b.toNat = n) : a = b :=
    UInt8.toNat_inj.mp (left.trans right.symm)
  cases sequence with
  | one low value =>
      cases other with
      | one _ otherValue => rw [same value otherValue]
      | _ => omega
  | two high low lead second =>
      cases other with
      | two _ _ otherLead otherSecond => rw [same lead otherLead, same second otherSecond]
      | _ => omega
  | three high low _ lead second third =>
      cases other with
      | three _ _ _ otherLead otherSecond otherThird =>
          rw [same lead otherLead, same second otherSecond, same third otherThird]
      | _ => omega
  | four high low lead second third fourth =>
      cases other with
      | four _ _ otherLead otherSecond otherThird otherFourth =>
          rw [same lead otherLead, same second otherSecond, same third otherThird,
            same fourth otherFourth]
      | _ => omega

/-! ## Reading one character -/

namespace Piece

variable {first : UInt8} {more rest : List UInt8}

/-- The bytes of a code point are read as one piece, whatever comes after. -/
theorem read_sequence {code : Nat} (sequence : Sequence code (first :: more)) (rest : List UInt8) :
    read first (more ++ rest) = ⟨some (Char.ofNat code), more.length⟩ := by
  cases sequence with
  | one low value =>
      have single : first < 0x80 := by
        rw [UInt8.lt_iff_toNat_lt]
        simpa [value] using low
      rw [read.eq_def, if_pos single, value]
      rfl
  | @two _ second high low lead follow =>
      have value : (first.toNat - 0xC0) * 0x40 + payload second = code := by
        rw [lead, payload_eq follow]
        omega
      have noSingle : ¬first < 0x80 := by
        rw [UInt8.lt_iff_toNat_lt]
        simp
        omega
      have double : (0xC2 ≤ first && first ≤ 0xDF) = true := by
        simp [UInt8.le_iff_toNat_le]
        omega
      have continued : isContinuation second = true := by
        rw [isContinuation_iff]
        omega
      rw [List.cons_append, List.nil_append, read, if_neg noSingle, if_pos double]
      simp only [continued, ↓reduceIte, value, List.length_cons, List.length_nil]
  | @three _ second third high low noSurrogate lead follow last =>
      have value :
          (first.toNat - 0xE0) * 0x1000 + payload second * 0x40 + payload third = code := by
        rw [lead, payload_eq follow, payload_eq last]
        omega
      have noSingle : ¬first < 0x80 := by
        rw [UInt8.lt_iff_toNat_lt]
        simp
        omega
      have noDouble : ¬(0xC2 ≤ first && first ≤ 0xDF) = true := by
        simp [UInt8.le_iff_toNat_le]
        omega
      have triple : (0xE0 ≤ first && first ≤ 0xEF) = true := by
        simp [UInt8.le_iff_toNat_le]
        omega
      have allowed : secondOfThree first second = true := by
        rw [secondOfThree_iff]
        omega
      have continued : isContinuation third = true := by
        rw [isContinuation_iff]
        omega
      rw [List.cons_append, List.cons_append, List.nil_append, read, if_neg noSingle,
        if_neg noDouble, if_pos triple]
      simp only [allowed, continued, Bool.not_true, Bool.false_eq_true, ↓reduceIte, value,
        List.length_cons, List.length_nil]
  | @four _ second third fourth high low lead follow next last =>
      have value : (first.toNat - 0xF0) * 0x40000 + payload second * 0x1000 + payload third * 0x40
          + payload fourth = code := by
        rw [lead, payload_eq follow, payload_eq next, payload_eq last]
        omega
      have noSingle : ¬first < 0x80 := by
        rw [UInt8.lt_iff_toNat_lt]
        simp
        omega
      have noDouble : ¬(0xC2 ≤ first && first ≤ 0xDF) = true := by
        simp [UInt8.le_iff_toNat_le]
        omega
      have noTriple : ¬(0xE0 ≤ first && first ≤ 0xEF) = true := by
        simp [UInt8.le_iff_toNat_le]
        omega
      have fourfold : (0xF0 ≤ first && first ≤ 0xF4) = true := by
        simp [UInt8.le_iff_toNat_le]
        omega
      have allowed : secondOfFour first second = true := by
        rw [secondOfFour_iff]
        omega
      have continued : isContinuation third = true := by
        rw [isContinuation_iff]
        omega
      have ended : isContinuation fourth = true := by
        rw [isContinuation_iff]
        omega
      rw [List.cons_append, List.cons_append, List.cons_append, List.nil_append, read,
        if_neg noSingle, if_neg noDouble, if_neg noTriple, if_pos fourfold]
      simp only [allowed, continued, ended, Bool.not_true, Bool.false_eq_true, ↓reduceIte, value,
        List.length_cons, List.length_nil]

/-- A piece that is a character was read from the bytes of its code point. -/
theorem sequence_of_read {c : Char} {tail : Nat} (success : read first rest = ⟨some c, tail⟩) :
    Sequence c.toNat (first :: rest.take tail) := by
  have code {n : Nat} (bounds : n < 0xD800 ∨ 0xDFFF < n ∧ n < 0x110000) :
      (Char.ofNat n).toNat = n := by
    rw [Char.ofNat, dif_pos (show n.isValidChar from bounds)]
    rfl
  rw [read.eq_def] at success
  split at success
  · next single =>
      rw [UInt8.lt_iff_toNat_lt] at single
      simp only [mk.injEq, Option.some.injEq] at success
      obtain ⟨rfl, rfl⟩ := success
      rw [code (by simp at single; omega)]
      exact .one (by simpa using single) rfl
  · split at success
    · next double =>
        have lead : 0xC2 ≤ first.toNat ∧ first.toNat ≤ 0xDF := by
          simpa [UInt8.le_iff_toNat_le] using double
        cases rest with
        | nil => simp at success
        | cons second rest =>
            by_cases continued : isContinuation second = true
            · simp only [continued, ↓reduceIte, mk.injEq, Option.some.injEq] at success
              obtain ⟨rfl, rfl⟩ := success
              rw [isContinuation_iff] at continued
              have follow := toNat_eq_payload continued.1
              rw [code (by omega)]
              exact .two (by omega) (by omega) (by omega) (by omega)
            · simp [continued] at success
    · split at success
      · next triple =>
          have lead : 0xE0 ≤ first.toNat ∧ first.toNat ≤ 0xEF := by
            simpa [UInt8.le_iff_toNat_le] using triple
          rcases rest with _ | ⟨second, _ | ⟨third, rest⟩⟩
          · simp at success
          · simp at success
          · by_cases allowed : secondOfThree first second = true
            · by_cases continued : isContinuation third = true
              · simp only [allowed, continued, Bool.not_true, Bool.false_eq_true, ↓reduceIte,
                  mk.injEq, Option.some.injEq] at success
                obtain ⟨rfl, rfl⟩ := success
                rw [secondOfThree_iff] at allowed
                rw [isContinuation_iff] at continued
                have follow := toNat_eq_payload allowed.1.1
                have last := toNat_eq_payload continued.1
                rw [code (by omega)]
                exact .three (by omega) (by omega) (by omega) (by omega) (by omega) (by omega)
              · simp [allowed, continued] at success
            · simp [allowed] at success
      · split at success
        · next fourfold =>
            have lead : 0xF0 ≤ first.toNat ∧ first.toNat ≤ 0xF4 := by
              simpa [UInt8.le_iff_toNat_le] using fourfold
            rcases rest with _ | ⟨second, _ | ⟨third, _ | ⟨fourth, rest⟩⟩⟩
            · simp at success
            · simp at success
            · simp at success
            · by_cases allowed : secondOfFour first second = true
              · by_cases continued : isContinuation third = true
                · by_cases ended : isContinuation fourth = true
                  · simp only [allowed, continued, ended, Bool.not_true, Bool.false_eq_true,
                      ↓reduceIte, mk.injEq, Option.some.injEq] at success
                    obtain ⟨rfl, rfl⟩ := success
                    rw [secondOfFour_iff] at allowed
                    rw [isContinuation_iff] at continued ended
                    have follow := toNat_eq_payload allowed.1.1
                    have next := toNat_eq_payload continued.1
                    have last := toNat_eq_payload ended.1
                    rw [code (by omega)]
                    exact .four (by omega) (by omega) (by omega) (by omega) (by omega) (by omega)
                  · simp [allowed, continued, ended] at success
                · simp [allowed, continued] at success
              · simp [allowed] at success
        · simp at success

end Piece

/-! ## Texts -/

theorem encode_append (first second : String) :
    encode (first ++ second) = encode first ++ encode second := by
  rw [encode, String.toList_append, List.flatMap_append]
  rfl

theorem encode_join (texts : List String) : encode (String.join texts) = texts.flatMap encode := by
  rw [encode, String.toList_join, List.flatMap_assoc]
  rfl

/-- The pieces of encoded characters are these characters. -/
theorem char?_pieces_flatMap (chars : List Char) :
    (pieces (chars.flatMap String.utf8EncodeChar)).map Piece.char? = chars.map some := by
  induction chars with
  | nil => simp [pieces]
  | cons c rest ih =>
      rw [List.flatMap_cons]
      cases encoded : String.utf8EncodeChar c with
      | nil => exact absurd encoded (sequence_encodeChar c).ne_nil
      | cons first more =>
          have piece := Piece.read_sequence (encoded ▸ sequence_encodeChar c)
            (rest.flatMap String.utf8EncodeChar)
          rw [Char.ofNat_toNat] at piece
          rw [List.cons_append, pieces, piece]
          dsimp only
          rw [List.drop_left, List.map_cons, List.map_cons, ih]

/-- Pieces are read as characters exactly if each of them is one. -/
theorem mapM_char?_eq_some_iff {pieces : List Piece} {chars : List Char} :
    pieces.mapM Piece.char? = some chars ↔ pieces.map Piece.char? = chars.map some := by
  induction pieces generalizing chars with
  | nil => cases chars <;> simp
  | cons piece rest ih =>
      rw [List.mapM_cons, List.map_cons]
      cases first : piece.char? with
      | none => cases chars <;> simp
      | some c =>
          cases chars with
          | nil => cases rest.mapM Piece.char? <;> simp
          | cons other others =>
              rw [List.map_cons, List.cons.injEq, ← ih]
              cases rest.mapM Piece.char? <;> simp

/-- **Decoding undoes encoding.** -/
theorem decode?_encode (text : String) : decode? (encode text) = some text.toList :=
  mapM_char?_eq_some_iff.mpr (char?_pieces_flatMap text.toList)

/-- Lossy decoding undoes encoding too: there is nothing to lose. -/
theorem decodeLossy_encode (text : String) : decodeLossy (encode text) = text := by
  have each := congrArg (List.map (·.getD '\uFFFD')) (char?_pieces_flatMap text.toList)
  simp only [List.map_map, Function.comp_def, Option.getD_some, List.map_id'] at each
  rw [decodeLossy, encode, each, String.ofList_toList]

/-- **Only encoded texts can be decoded.** -/
theorem encode_of_decode? {bytes : List UInt8} {chars : List Char}
    (decoded : decode? bytes = some chars) : encode (String.ofList chars) = bytes := by
  rw [encode, String.toList_ofList]
  have each := mapM_char?_eq_some_iff.mp decoded
  clear decoded
  fun_induction pieces bytes generalizing chars with
  | case1 =>
      obtain rfl := List.map_eq_nil_iff.mp each.symm
      rfl
  | case2 first rest piece =>
      rename_i ih
      rw [List.map_cons] at each
      obtain ⟨c, others, rfl, read, each⟩ := List.map_eq_cons_iff.mp each.symm
      have taken : Piece.read first rest = ⟨some c, piece.tail⟩ := by
        rw [read]
      have encoded := (sequence_encodeChar c).unique (Piece.sequence_of_read taken)
      rw [List.flatMap_cons, encoded, ih each.symm, List.cons_append, List.take_append_drop]

end RecordMapper.Text.Utf8
