import Mathlib.Data.List.GetD
import Mathlib.Data.Nat.Digits.Lemmas
import Mathlib.Data.Nat.Prime.Basic
import RecordMapper.Digest.Sha256

/-!
# The digest is SHA-256

What the standard asks of the digest of a message (`Digests`), however it is computed, and that the
digest is what it asks for (`digests_digest`). Numbers are written with the highest digit first, on
bytes as well as in the text.
-/

namespace RecordMapper.Sha256

/-! ## The standard -/

/-- The word holds the first 32 bits of the fraction of a root of the number. -/
def FractionOfRoot (degree number : Nat) (word : UInt32) : Prop :=
  ∃ whole ≤ number,
    (whole * 2 ^ 32 + word.toNat) ^ degree ≤ number * 2 ^ (32 * degree) ∧
    number * 2 ^ (32 * degree) < (whole * 2 ^ 32 + word.toNat + 1) ^ degree

/-- Roots are compared by powers of whole numbers. -/
instance (degree number : Nat) (word : UInt32) : Decidable (FractionOfRoot degree number word) :=
  inferInstanceAs (Decidable (∃ whole ≤ number, _))

/-- The primes below a bound. -/
def primesBelow (bound : Nat) : List Nat :=
  (List.range bound).filter Nat.Prime

/-- The number that bytes stand for. -/
def bytesValue (bytes : List UInt8) : Nat :=
  Nat.ofDigits 256 (bytes.map UInt8.toNat).reverse

/-- The blocks hold the message, a set bit, fewer than 64 zero bytes, and the number of bits of the
message in eight bytes. -/
structure Padded (message : List UInt8) (blocks : List (List UInt8)) : Prop where
  length : ∀ block ∈ blocks, block.length = 64
  bytes : ∃ zeros < 64, ∃ count : List UInt8, count.length = 8 ∧
    bytesValue count = 8 * message.length % 2 ^ 64 ∧
    blocks.flatten = message ++ 0x80 :: List.replicate zeros 0 ++ count

/-- A word whose bits are turned to the right. -/
def turned (word : UInt32) (count : Nat) : UInt32 :=
  ⟨word.toBitVec.rotateRight count⟩

/-- The words that a block is extended to: its own sixteen, and later ones that are made from four
earlier ones each. -/
structure Schedule (block : List UInt8) (words : Nat → UInt32) : Prop where
  own : ∀ t < 16, words t = .ofNat (bytesValue ((block.drop (4 * t)).take 4))
  later : ∀ t, words (t + 16) =
    (turned (words (t + 14)) 17 ^^^ turned (words (t + 14)) 19 ^^^ words (t + 14) >>> 10) +
      words (t + 9) +
      (turned (words (t + 1)) 7 ^^^ turned (words (t + 1)) 18 ^^^ words (t + 1) >>> 3) + words t

/-- One step on eight words, with a constant and a word of the schedule. -/
def step : List UInt32 → UInt32 → UInt32 → List UInt32
  | [a, b, c, d, e, f, g, h], constant, word =>
    let first := h + (turned e 6 ^^^ turned e 11 ^^^ turned e 25) +
      ((e &&& f) ^^^ (~~~e &&& g)) + constant + word
    let second := (turned a 2 ^^^ turned a 13 ^^^ turned a 22) +
      ((a &&& b) ^^^ (a &&& c) ^^^ (b &&& c))
    [first + second, a, b, c, d + first, e, f, g]
  | words, _, _ => words

/-- A block leads from eight words to others: the words after 64 steps are added to those before. -/
def Mixes (constants before : List UInt32) (block : List UInt8) (after : List UInt32) : Prop :=
  ∃ (words : Nat → UInt32) (states : Nat → List UInt32), Schedule block words ∧
    states 0 = before ∧
    (∀ t < 64, states (t + 1) = step (states t) (constants.getD t 0) (words t)) ∧
    after = List.zipWith (· + ·) before (states 64)

/-- The blocks lead from eight words to others, one after the other. -/
inductive Absorbs (constants : List UInt32) :
    List UInt32 → List (List UInt8) → List UInt32 → Prop
  | done {words : List UInt32} : Absorbs constants words [] words
  | block {before middle after : List UInt32} {block : List UInt8} {rest : List (List UInt8)} :
      Mixes constants before block middle → Absorbs constants middle rest after →
      Absorbs constants before (block :: rest) after

/-- The text has eight lower-case hexadecimal digits for each word. -/
def Spells (words : List UInt32) (text : String) : Prop :=
  ∃ digits : List Nat, text = .ofList (digits.map Nat.digitChar) ∧
    digits.length = 8 * words.length ∧ (∀ digit ∈ digits, digit < 16) ∧
    Nat.ofDigits 16 digits.reverse = Nat.ofDigits (2 ^ 32) (words.map UInt32.toNat).reverse

/-- **SHA-256.** The text is the digest of the message. The constants are made from the first 64
primes and the words at the start from the first eight. -/
def Digests (message : List UInt8) (text : String) : Prop :=
  ∃ (constants start : List UInt32) (blocks : List (List UInt8)) (words : List UInt32),
    List.Forall₂ (FractionOfRoot 3) (primesBelow 312) constants ∧
    List.Forall₂ (FractionOfRoot 2) (primesBelow 20) start ∧
    Padded message blocks ∧ Absorbs constants start blocks words ∧ Spells words text

/-! ## Constants -/

/-- Small divisors tell whether a small number is a prime. -/
theorem prime_iff_of_lt {number : Nat} (small : number < 18 * 18) :
    number.Prime ↔
      2 ≤ number ∧ ∀ divisor < 18, 2 ≤ divisor → divisor < number → ¬divisor ∣ number := by
  constructor
  · intro prime
    refine ⟨prime.two_le, fun divisor _ low less divides => ?_⟩
    rcases (Nat.dvd_prime prime).mp divides with rfl | rfl <;> omega
  · rintro ⟨low, undivided⟩
    refine Nat.prime_def_le_sqrt.mpr ⟨low, fun divisor least most => ?_⟩
    have root : divisor < 18 := most.trans_lt (Nat.sqrt_lt.mpr small)
    exact undivided divisor root least (most.trans_lt (Nat.sqrt_lt_self low))

theorem primesBelow_eq {bound : Nat} (small : bound ≤ 18 * 18) :
    primesBelow bound = (List.range bound).filter fun number =>
      2 ≤ number ∧ ∀ divisor < 18, 2 ≤ divisor → divisor < number → ¬divisor ∣ number := by
  refine List.filter_congr fun number listed => decide_eq_decide.mpr (prime_iff_of_lt ?_)
  have := List.mem_range.mp listed
  omega

theorem fractions_roundConstants :
    List.Forall₂ (FractionOfRoot 3) (primesBelow 312) roundConstants := by
  rw [primesBelow_eq (by decide)]
  decide +kernel

theorem fractions_initial :
    List.Forall₂ (FractionOfRoot 2) (primesBelow 20) Chain.initial.words := by
  rw [primesBelow_eq (by decide)]
  decide +kernel

/-! ## Padding -/

theorem bytesValue_count (length : Nat) :
    bytesValue ((List.range 8).map fun i => UInt8.ofNat ((8 * length) >>> (8 * (7 - i)))) =
      8 * length % 2 ^ 64 := by
  simp only [bytesValue, List.range_succ, List.range_zero, List.nil_append, List.cons_append,
    List.map_cons, List.map_nil, List.reverse_cons, List.reverse_nil, UInt8.toNat_ofNat',
    Nat.ofDigits_cons, Nat.ofDigits_nil, Nat.shiftRight_eq_div_pow]
  omega

theorem length_padded (message : List UInt8) :
    (message ++ padding message.length).length % 64 = 0 := by
  simp only [padding, List.cons_append, List.length_append, List.length_cons,
    List.length_replicate, List.length_map, List.length_range]
  omega

/-- Bytes of the right number make blocks. -/
theorem exists_blocks {count : Nat} {bytes : List UInt8} (whole : bytes.length = 64 * count) :
    ∃ blocks : List (List UInt8), (∀ block ∈ blocks, block.length = 64) ∧
      blocks.flatten = bytes := by
  induction count generalizing bytes with
  | zero => exact ⟨[], List.forall_mem_nil _, (List.length_eq_zero_iff.mp whole).symm⟩
  | succ count ih =>
      have first : (bytes.take 64).length = 64 := by rw [List.length_take]; omega
      have later : (bytes.drop 64).length = 64 * count := by rw [List.length_drop]; omega
      obtain ⟨blocks, length, flat⟩ := ih later
      refine ⟨bytes.take 64 :: blocks, List.forall_mem_cons.mpr ⟨first, length⟩, ?_⟩
      rw [List.flatten_cons, flat, List.take_append_drop]

/-- A message with its padding makes blocks as they should be. -/
theorem exists_padded (message : List UInt8) :
    ∃ blocks, Padded message blocks ∧ blocks.flatten = message ++ padding message.length := by
  have whole : (message ++ padding message.length).length =
      64 * ((message ++ padding message.length).length / 64) := by
    have := length_padded message
    omega
  obtain ⟨blocks, length, flat⟩ := exists_blocks whole
  refine ⟨blocks, ⟨length, (119 - message.length % 64) % 64, Nat.mod_lt _ (by decide), _, ?_,
    bytesValue_count message.length, ?_⟩, flat⟩
  · rw [List.length_map, List.length_range]
  · rw [flat, padding, List.append_assoc]

/-! ## Words -/

theorem turned_eq_rotate (word : UInt32) {count : Nat} (low : 0 < count) (high : count < 32) :
    turned word count = rotate word (.ofNat count) := by
  have right : ((UInt32.ofNat count).toBitVec % 32).toNat = count := by
    rw [BitVec.toNat_umod, UInt32.toNat_toBitVec, UInt32.toNat_ofNat']
    change count % 2 ^ 32 % 32 = count
    omega
  have left : ((32 - UInt32.ofNat count).toBitVec % 32).toNat = 32 - count := by
    rw [BitVec.toNat_umod, UInt32.toBitVec_sub, BitVec.toNat_sub, UInt32.toNat_toBitVec,
      UInt32.toNat_ofNat']
    change (2 ^ 32 - count % 2 ^ 32 + 32) % 2 ^ 32 % 32 = 32 - count
    omega
  apply UInt32.toBitVec_inj.mp
  rw [turned, rotate, UInt32.toBitVec_or, UInt32.toBitVec_shiftRight, UInt32.toBitVec_shiftLeft,
    BitVec.ushiftRight_eq', BitVec.shiftLeft_eq', right, left, BitVec.rotateRight_def,
    Nat.mod_eq_of_lt high]

theorem toNat_shiftLeft_byte (byte : UInt8) {count : UInt32} (small : count.toNat ≤ 24) :
    (byte.toUInt32 <<< count).toNat = byte.toNat <<< count.toNat := by
  have bound : byte.toNat * 2 ^ count.toNat < 2 ^ 8 * 2 ^ 24 :=
    Nat.mul_lt_mul_of_lt_of_le byte.toNat_lt (Nat.pow_le_pow_right (by decide) small) (by decide)
  have turn : count.toNat % 32 = count.toNat := Nat.mod_eq_of_lt (by omega)
  rw [UInt32.toNat_shiftLeft, UInt8.toNat_toUInt32, turn, Nat.shiftLeft_eq]
  exact Nat.mod_eq_of_lt bound

/-- Bytes that are put side by side are digits of one number. -/
theorem or_bytes (b₀ b₁ b₂ b₃ : UInt8) :
    b₀.toNat <<< 24 ||| b₁.toNat <<< 16 ||| b₂.toNat <<< 8 ||| b₃.toNat =
      bytesValue [b₀, b₁, b₂, b₃] := by
  calc
    _ = ((b₀.toNat <<< 8 ||| b₁.toNat) <<< 8 ||| b₂.toNat) <<< 8 ||| b₃.toNat := by
      simp only [Nat.shiftLeft_or_distrib, ← Nat.shiftLeft_add]
    _ = ((b₀.toNat <<< 8 + b₁.toNat) <<< 8 + b₂.toNat) <<< 8 + b₃.toNat := by
      rw [Nat.shiftLeft_add_eq_or_of_lt b₁.toNat_lt, Nat.shiftLeft_add_eq_or_of_lt b₂.toNat_lt,
        Nat.shiftLeft_add_eq_or_of_lt b₃.toNat_lt]
    _ = _ := by
      simp only [bytesValue, List.map_cons, List.map_nil, List.reverse_cons, List.reverse_nil,
        List.nil_append, List.cons_append, Nat.ofDigits_cons, Nat.ofDigits_nil, Nat.shiftLeft_eq]
      omega

theorem bytesValue_lt (bytes : List UInt8) : bytesValue bytes < 256 ^ bytes.length := by
  have digits : ∀ digit ∈ (bytes.map UInt8.toNat).reverse, digit < 256 := by
    intro digit listed
    obtain ⟨byte, -, rfl⟩ := List.mem_map.mp (List.mem_reverse.mp listed)
    exact byte.toNat_lt
  have bound := Nat.ofDigits_lt_base_pow_length (by decide) digits
  rwa [List.length_reverse, List.length_map] at bound

/-- The word of four bytes. -/
theorem or_eq_ofNat (b₀ b₁ b₂ b₃ : UInt8) :
    (b₀.toUInt32 <<< 24) ||| (b₁.toUInt32 <<< 16) ||| (b₂.toUInt32 <<< 8) ||| b₃.toUInt32 =
      .ofNat (bytesValue [b₀, b₁, b₂, b₃]) := by
  have fits : bytesValue [b₀, b₁, b₂, b₃] < 2 ^ 32 := (bytesValue_lt _).trans_eq (by simp)
  apply UInt32.toNat_inj.mp
  rw [UInt32.toNat_ofNat', Nat.mod_eq_of_lt fits, ← or_bytes]
  simp only [UInt32.toNat_or, UInt8.toNat_toUInt32]
  rw [toNat_shiftLeft_byte b₀ (by decide), toNat_shiftLeft_byte b₁ (by decide),
    toNat_shiftLeft_byte b₂ (by decide)]
  rfl

theorem exists_four : ∀ (bytes : List UInt8), 4 ≤ bytes.length →
    ∃ b₀ b₁ b₂ b₃ rest, bytes = b₀ :: b₁ :: b₂ :: b₃ :: rest
  | b₀ :: b₁ :: b₂ :: b₃ :: rest, _ => ⟨b₀, b₁, b₂, b₃, rest, rfl⟩

theorem length_wordsOfBytes {count : Nat} {bytes : List UInt8} (length : bytes.length = 4 * count) :
    (wordsOfBytes bytes).length = count := by
  induction count generalizing bytes with
  | zero => rw [List.length_eq_zero_iff.mp length]; rfl
  | succ count ih =>
      obtain ⟨b₀, b₁, b₂, b₃, rest, rfl⟩ := exists_four bytes (by omega)
      simp only [List.length_cons] at length
      rw [wordsOfBytes, List.length_cons, ih (by omega)]

/-- Each word is made from four bytes. -/
theorem getD_wordsOfBytes {t : Nat} {bytes : List UInt8} (within : 4 * t + 4 ≤ bytes.length) :
    (wordsOfBytes bytes).getD t 0 = .ofNat (bytesValue ((bytes.drop (4 * t)).take 4)) := by
  obtain ⟨b₀, b₁, b₂, b₃, rest, rfl⟩ := exists_four bytes (by omega)
  induction t generalizing b₀ b₁ b₂ b₃ rest with
  | zero => exact or_eq_ofNat b₀ b₁ b₂ b₃
  | succ t ih =>
      simp only [List.length_cons] at within
      obtain ⟨c₀, c₁, c₂, c₃, later, rfl⟩ := exists_four rest (by omega)
      have skipped : 4 * (t + 1) = 4 * t + 1 + 1 + 1 + 1 := by omega
      rw [wordsOfBytes, List.getD_cons_succ, skipped]
      simp only [List.drop_succ_cons]
      exact ih c₀ c₁ c₂ c₃ later (by omega)

/-! ## Schedules -/

/-- The window of one round later. -/
def slide (window : List UInt32) : List UInt32 :=
  window.tail ++ [nextWord window]

variable {window : List UInt32}

theorem length_slides (length : window.length = 16) (t : Nat) :
    (slide^[t] window).length = 16 := by
  induction t with
  | zero => exact length
  | succ t ih =>
      rw [Function.iterate_succ_apply', slide, List.length_append, List.length_tail, ih]
      rfl

theorem getD_slide (length : window.length = 16) {i : Nat} (within : i < 15) :
    (slide window).getD i 0 = window.getD (i + 1) 0 := by
  rw [slide, List.getD_append _ _ _ _ (by rw [List.length_tail]; omega)]
  cases window <;> rfl

theorem getD_slide_last (length : window.length = 16) :
    (slide window).getD 15 0 = nextWord window := by
  have : window.tail.length = 15 := by rw [List.length_tail, length]
  rw [slide, List.getD_append_right _ _ _ _ (by omega), this]
  rfl

/-- A word moves to the front of the window. -/
theorem getD_slides (length : window.length = 16) {i : Nat} (within : i < 16) (t : Nat) :
    (slide^[t] window).getD i 0 = (slide^[t + i] window).getD 0 0 := by
  induction i generalizing t with
  | zero => rfl
  | succ i ih =>
      rw [← getD_slide (length_slides length t) (by omega), ← Function.iterate_succ_apply' slide,
        ih (by omega) (t + 1), Nat.succ_add_eq_add_succ]

/-- **The words at the front of the window are the schedule of the block.** -/
theorem schedule_slides {block : List UInt8} (length : block.length = 64) :
    Schedule block fun t => (slide^[t] (wordsOfBytes block)).getD 0 0 := by
  have sixteen : (wordsOfBytes block).length = 16 := length_wordsOfBytes length
  constructor
  case own =>
    intro t within
    have moved := getD_slides sixteen within 0
    rw [Nat.zero_add] at moved
    rw [← moved]
    exact getD_wordsOfBytes (by omega)
  case later =>
    intro t
    have next : (slide^[t + 16] (wordsOfBytes block)).getD 0 0 =
        nextWord (slide^[t] (wordsOfBytes block)) := by
      rw [← getD_slide_last (length_slides sixteen t), ← Function.iterate_succ_apply' slide,
        getD_slides sixteen (by decide) (t + 1)]
    rw [next, nextWord, getD_slides sixteen (by decide : 1 < 16),
      getD_slides sixteen (by decide : 14 < 16), getD_slides sixteen (by decide : 9 < 16)]
    simp (disch := decide) only [turned_eq_rotate]
    ac_rfl

/-! ## Rounds -/

theorem step_words (s : Chain) (constant word : UInt32) :
    step s.words constant word = (s.round constant word).words := by
  simp (disch := decide) only [Chain.words, step, Chain.round, turned_eq_rotate]
  rfl

theorem rounds_concat (s : Chain) (window constants : List UInt32) (constant : UInt32) :
    rounds s window (constants ++ [constant]) =
      (rounds s window constants).round constant ((slide^[constants.length] window).getD 0 0) := by
  induction constants generalizing s window with
  | nil => rfl
  | cons first rest ih => exact ih (s.round first (window.getD 0 0)) (slide window)

/-- **The rounds mix a block in.** -/
theorem mixes_rounds {block : List UInt8} (length : block.length = 64) (s : Chain) :
    Mixes roundConstants s.words block
      (s.add (rounds s (wordsOfBytes block) roundConstants)).words := by
  refine ⟨_, fun t => (rounds s (wordsOfBytes block) (roundConstants.take t)).words,
    schedule_slides length, rfl, ?_, rfl⟩
  intro t within
  have constants : roundConstants.length = 64 := by decide
  have listed : t < roundConstants.length := by omega
  have front : (roundConstants.take t).length = t := by rw [List.length_take]; omega
  dsimp only
  rw [step_words, ← List.take_append_getElem listed, rounds_concat, front,
    List.getD_eq_getElem _ _ listed]

/-! ## Blocks -/

theorem absorb_append {block : List UInt8} (length : block.length = 64) (s : Chain)
    (rest : List UInt8) :
    absorb s (block ++ rest) =
      absorb (s.add (rounds s (wordsOfBytes block) roundConstants)) rest := by
  have filled : (block ++ rest).isEmpty = false := by
    cases block with
    | nil => cases length
    | cons => rfl
  rw [absorb, filled, List.take_left' length, List.drop_left' length]
  rfl

/-- **Blocks are mixed in one after the other.** -/
theorem absorbs_absorb {blocks : List (List UInt8)}
    (length : ∀ block ∈ blocks, block.length = 64) (s : Chain) :
    Absorbs roundConstants s.words blocks (absorb s blocks.flatten).words := by
  induction blocks generalizing s with
  | nil =>
      rw [List.flatten_nil, absorb]
      exact .done
  | cons block rest ih =>
      obtain ⟨first, later⟩ := List.forall_mem_cons.mp length
      rw [List.flatten_cons, absorb_append first]
      exact .block (mixes_rounds first s) (ih later _)

/-! ## Text -/

/-- The hexadecimal digits of a word. -/
def wordDigits (word : UInt32) : List Nat :=
  (List.range 8).map fun i => (word.toNat >>> (4 * (7 - i))) % 16

theorem hexWord_eq (word : UInt32) : hexWord word = (wordDigits word).map Nat.digitChar := by
  rw [hexWord, wordDigits, List.map_map]
  rfl

theorem ofDigits_reverse (base : Nat) (digits : List Nat) :
    Nat.ofDigits base digits.reverse =
      digits.foldl (fun value digit => digit + base * value) 0 := by
  rw [Nat.ofDigits_eq_foldr, List.foldr_reverse]
  rfl

theorem foldl_wordDigits (value : Nat) (word : UInt32) :
    (wordDigits word).foldl (fun value digit => digit + 16 * value) value =
      word.toNat + 2 ^ 32 * value := by
  have bound := word.toNat_lt
  simp only [wordDigits, List.range_succ, List.range_zero, List.nil_append, List.cons_append,
    List.map_cons, List.map_nil, List.foldl_cons, List.foldl_nil, Nat.shiftRight_eq_div_pow]
  omega

theorem spells_hexWords (words : List UInt32) :
    Spells words (.ofList (words.flatMap hexWord)) := by
  refine ⟨words.flatMap wordDigits, ?text, ?length, ?digits, ?value⟩
  case text =>
    rw [List.map_flatMap]
    simp only [← hexWord_eq]
  case length =>
    rw [List.length_flatMap]
    simp [wordDigits, Nat.mul_comm]
  case digits =>
    intro digit listed
    obtain ⟨word, -, found⟩ := List.mem_flatMap.mp listed
    obtain ⟨place, -, rfl⟩ := List.mem_map.mp found
    exact Nat.mod_lt _ (by decide)
  case value =>
    rw [ofDigits_reverse, ofDigits_reverse, List.foldl_flatMap, List.foldl_map]
    simp only [foldl_wordDigits]

/-- **The digest of every message is what the standard asks for.** -/
theorem digests_digest (message : List UInt8) : Digests message (digest message) := by
  obtain ⟨blocks, padded, flat⟩ := exists_padded message
  refine ⟨roundConstants, Chain.initial.words, blocks, _, fractions_roundConstants,
    fractions_initial, padded, absorbs_absorb padded.length .initial, ?_⟩
  rw [flat]
  exact spells_hexWords _

example : digest "abc".toUTF8.toList =
    "ba7816bf8f01cfea414140de5dae2223b00361a396177a9cb410ff61f20015ad" := by
  decide +kernel

end RecordMapper.Sha256
