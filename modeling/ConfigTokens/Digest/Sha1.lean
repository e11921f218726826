import ConfigTokens.Text.Digits
/-!
# SHA-1

The secure hash of FIPS 180-4 with 160 bits, over lists of bytes. Words are 32 bits wide and sums
wrap. `hexDigest` gives the forty hexadecimal digits.
-/

namespace ConfigTokens.Digest.Sha1

/-- The five words of the running hash. -/
structure Words where
  a : UInt32
  b : UInt32
  c : UInt32
  d : UInt32
  e : UInt32

/-- The words before the first block. -/
def initial : Words :=
  ⟨0x67452301, 0xEFCDAB89, 0x98BADCFE, 0x10325476, 0xC3D2E1F0⟩

/-- Rotation to the left by less than 32 bits. -/
def rotate
    (word : UInt32)
    (count : UInt32) : UInt32 :=
  (word <<< count) ||| (word >>> (32 - count))

/-- The function and the constant of a round, which change every twenty rounds. -/
def mix
    (round : Nat)
    (b c d : UInt32) : UInt32 × UInt32 :=
  if round < 20 then ((b &&& c) ||| ((b ^^^ 0xFFFFFFFF) &&& d), 0x5A827999)
  else if round < 40 then (b ^^^ c ^^^ d, 0x6ED9EBA1)
  else if round < 60 then ((b &&& c) ||| (b &&& d) ||| (c &&& d), 0x8F1BBCDC)
  else (b ^^^ c ^^^ d, 0xCA62C1D6)

/-- One round with its word of the schedule. -/
def round
    (words : Words)
    (step : UInt32 × Nat) : Words :=
  let (f, constant) := mix step.2 words.b words.c words.d
  ⟨rotate words.a 5 + f + words.e + constant + step.1, words.a, rotate words.b 30, words.c, words.d⟩

/-- Four bytes as a word, highest first. -/
def wordsOfBytes : List UInt8 → List UInt32
  | a :: b :: c :: d :: rest =>
    UInt32.ofNat (((a.toNat * 256 + b.toNat) * 256 + c.toNat) * 256 + d.toNat) :: wordsOfBytes rest
  | _ => []

/-- Adds `count` words to a schedule that is kept last word first. -/
def extend : Nat → List UInt32 → List UInt32
  | 0, schedule => schedule
  | count + 1, schedule =>
    let next := rotate
      (schedule.getD 2 0 ^^^ schedule.getD 7 0 ^^^ schedule.getD 13 0 ^^^ schedule.getD 15 0) 1
    extend count (next :: schedule)

/-- The eighty words for a block of 64 bytes. -/
def schedule
    (block : List UInt8) : List UInt32 :=
  (extend 64 (wordsOfBytes block).reverse).reverse

/-- The hash after one more block. -/
def compress
    (words : Words)
    (block : List UInt8) : Words :=
  let last := (schedule block).zipIdx.foldl round words
  ⟨words.a + last.a, words.b + last.b, words.c + last.c, words.d + last.d, words.e + last.e⟩

/-- The big-endian bytes of a number, `count` of them. -/
def bigEndian : Nat → Nat → List UInt8
  | 0, _ => []
  | count + 1, value => bigEndian count (value / 256) ++ [UInt8.ofNat (value % 256)]

/-- The message with its end mark, zeros and length, a multiple of 64 bytes. -/
def padded
    (message : List UInt8) : List UInt8 :=
  let zeros := (119 - message.length % 64) % 64
  message ++ 0x80 :: List.replicate zeros 0 ++ bigEndian 8 (8 * message.length)

/-- The hash after all blocks of a message; `count` bounds their number. -/
def absorb : Nat → Words → List UInt8 → Words
  | 0, words, _ => words
  | count + 1, words, message =>
    if message.isEmpty then words
    else absorb count (compress words (message.take 64)) (message.drop 64)

/-- The hash of a message as forty hexadecimal digits. -/
def hexDigest
    (message : List UInt8) : List Char :=
  let blocks := padded message
  let words := absorb (blocks.length / 64) initial blocks
  [words.a, words.b, words.c, words.d, words.e].flatMap fun w => Text.hexDigits 8 w.toNat

end ConfigTokens.Digest.Sha1
