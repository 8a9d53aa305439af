/-!
# SHA-256

The digest of a byte sequence as lower-case hexadecimal text. The message is padded to blocks of 64
bytes; each block is mixed into eight words in 64 rounds, for which its sixteen words are extended
on the way.
-/

namespace RecordMapper.Sha256

/-- The eight words that the blocks are mixed into. -/
structure Chain where
  a : UInt32
  b : UInt32
  c : UInt32
  d : UInt32
  e : UInt32
  f : UInt32
  g : UInt32
  h : UInt32
  deriving DecidableEq, Repr

/-- The words before the first block, from the square roots of the first eight primes. -/
def Chain.initial : Chain :=
  ⟨0x6A09E667, 0xBB67AE85, 0x3C6EF372, 0xA54FF53A,
    0x510E527F, 0x9B05688C, 0x1F83D9AB, 0x5BE0CD19⟩

/-- The constants of the 64 rounds. -/
def roundConstants : List UInt32 := [
  0x428A2F98, 0x71374491, 0xB5C0FBCF, 0xE9B5DBA5, 0x3956C25B, 0x59F111F1, 0x923F82A4, 0xAB1C5ED5,
  0xD807AA98, 0x12835B01, 0x243185BE, 0x550C7DC3, 0x72BE5D74, 0x80DEB1FE, 0x9BDC06A7, 0xC19BF174,
  0xE49B69C1, 0xEFBE4786, 0x0FC19DC6, 0x240CA1CC, 0x2DE92C6F, 0x4A7484AA, 0x5CB0A9DC, 0x76F988DA,
  0x983E5152, 0xA831C66D, 0xB00327C8, 0xBF597FC7, 0xC6E00BF3, 0xD5A79147, 0x06CA6351, 0x14292967,
  0x27B70A85, 0x2E1B2138, 0x4D2C6DFC, 0x53380D13, 0x650A7354, 0x766A0ABB, 0x81C2C92E, 0x92722C85,
  0xA2BFE8A1, 0xA81A664B, 0xC24B8B70, 0xC76C51A3, 0xD192E819, 0xD6990624, 0xF40E3585, 0x106AA070,
  0x19A4C116, 0x1E376C08, 0x2748774C, 0x34B0BCB5, 0x391C0CB3, 0x4ED8AA4A, 0x5B9CCA4F, 0x682E6FF3,
  0x748F82EE, 0x78A5636F, 0x84C87814, 0x8CC70208, 0x90BEFFFA, 0xA4506CEB, 0xBEF9A3F7, 0xC67178F2]

/-- Rotation to the right, by less than the width of a word. -/
def rotate (x : UInt32) (count : UInt32) : UInt32 :=
  (x >>> count) ||| (x <<< (32 - count))

/-- The word that is sixteen places after the first one of the window. -/
def nextWord (window : List UInt32) : UInt32 :=
  let early := window.getD 1 0
  let late := window.getD 14 0
  window.getD 0 0 + (rotate early 7 ^^^ rotate early 18 ^^^ (early >>> 3)) + window.getD 9 0
    + (rotate late 17 ^^^ rotate late 19 ^^^ (late >>> 10))

/-- One round with the given constant and message word. -/
def Chain.round (s : Chain) (constant word : UInt32) : Chain :=
  let t₁ := s.h + (rotate s.e 6 ^^^ rotate s.e 11 ^^^ rotate s.e 25)
    + ((s.e &&& s.f) ^^^ (~~~s.e &&& s.g)) + constant + word
  let t₂ := (rotate s.a 2 ^^^ rotate s.a 13 ^^^ rotate s.a 22)
    + ((s.a &&& s.b) ^^^ (s.a &&& s.c) ^^^ (s.b &&& s.c))
  ⟨t₁ + t₂, s.a, s.b, s.c, s.d + t₁, s.e, s.f, s.g⟩

/-- The rounds for the given constants. The window holds the sixteen message words from the current
one on. -/
def rounds (s : Chain) (window : List UInt32) : List UInt32 → Chain
  | [] => s
  | constant :: rest =>
    rounds (s.round constant (window.getD 0 0)) (window.tail ++ [nextWord window]) rest

/-- Adds word by word. -/
def Chain.add (s t : Chain) : Chain :=
  ⟨s.a + t.a, s.b + t.b, s.c + t.c, s.d + t.d, s.e + t.e, s.f + t.f, s.g + t.g, s.h + t.h⟩

/-- The words of a byte sequence, four bytes to a word, with the highest byte first. -/
def wordsOfBytes : List UInt8 → List UInt32
  | b₀ :: b₁ :: b₂ :: b₃ :: rest =>
    ((b₀.toUInt32 <<< 24) ||| (b₁.toUInt32 <<< 16) ||| (b₂.toUInt32 <<< 8) ||| b₃.toUInt32)
      :: wordsOfBytes rest
  | _ => []

/-- Mixes the blocks of a padded message into the chain. -/
def absorb (s : Chain) (bytes : List UInt8) : Chain :=
  if bytes.isEmpty then s
  else
    absorb (s.add (rounds s (wordsOfBytes (bytes.take 64)) roundConstants)) (bytes.drop 64)
termination_by bytes.length
decreasing_by
  cases bytes with
  | nil => contradiction
  | cons => simp only [List.length_drop, List.length_cons]; omega

/-- The padding of a message of `length` bytes: a set bit, zeros, and the number of bits in eight
bytes, so that the whole length is a multiple of 64. -/
def padding (length : Nat) : List UInt8 :=
  (0x80 : UInt8) :: List.replicate ((119 - length % 64) % 64) 0
    ++ (List.range 8).map fun i => UInt8.ofNat ((8 * length) >>> (8 * (7 - i)))

/-- The lower-case digit of a number below 16. -/
def hexDigit (n : Nat) : Char :=
  Nat.digitChar n

/-- The eight digits of a word, the highest one first. -/
def hexWord (word : UInt32) : List Char :=
  (List.range 8).map fun i => hexDigit ((word.toNat >>> (4 * (7 - i))) % 16)

/-- The words of a chain, in order. -/
def Chain.words (s : Chain) : List UInt32 :=
  [s.a, s.b, s.c, s.d, s.e, s.f, s.g, s.h]

/-- The digest of a message. -/
def digest (message : List UInt8) : String :=
  String.ofList ((absorb .initial (message ++ padding message.length)).words.flatMap hexWord)

end RecordMapper.Sha256
