/-!
# Permissive Base64

`decode` reads any text: characters of the standard and of the URL-safe alphabet carry six bits each,
all others are dropped, and bits that do not fill a byte are dropped at the end. `encode` writes bytes
in the standard alphabet without padding.
-/

namespace ConfigTokens.Base64

/-- The six bits of a character of either alphabet. -/
def sextet?
    (c : Char) : Option Nat :=
  if 'A' ≤ c && c ≤ 'Z' then some (c.toNat - 65)
  else if 'a' ≤ c && c ≤ 'z' then some (c.toNat - 71)
  else if '0' ≤ c && c ≤ '9' then some (c.toNat + 4)
  else if c = '+' || c = '-' then some 62
  else if c = '/' || c = '_' then some 63
  else none

/-- The character of the standard alphabet for six bits. -/
def sextetChar
    (value : Nat) : Char :=
  if value < 26 then Char.ofNat (value + 65)
  else if value < 52 then Char.ofNat (value + 71)
  else if value < 62 then Char.ofNat (value - 4)
  else if value = 62 then '+'
  else '/'

/-- The six-bit values that a text carries. -/
def sextets
    (text : List Char) : List Nat :=
  text.filterMap sextet?

/-- Whole bytes of six-bit values, four of them to three bytes. -/
def pack : List Nat → List UInt8
  | a :: b :: c :: d :: rest =>
    UInt8.ofNat (a * 4 + b / 16) :: UInt8.ofNat (b % 16 * 16 + c / 4)
      :: UInt8.ofNat (c % 4 * 64 + d) :: pack rest
  | [a, b, c] => [UInt8.ofNat (a * 4 + b / 16), UInt8.ofNat (b % 16 * 16 + c / 4)]
  | [a, b] => [UInt8.ofNat (a * 4 + b / 16)]
  | _ => []

/-- The bytes of a text in either alphabet; it never fails. -/
def decode
    (text : String) : List UInt8 :=
  pack (sextets text.toList)

/-- Six-bit values of bytes; bits missing at the end are zero. -/
def unpack : List UInt8 → List Nat
  | a :: b :: c :: rest =>
    a.toNat / 4 :: (a.toNat % 4 * 16 + b.toNat / 16) :: (b.toNat % 16 * 4 + c.toNat / 64)
      :: c.toNat % 64 :: unpack rest
  | [a, b] => [a.toNat / 4, a.toNat % 4 * 16 + b.toNat / 16, b.toNat % 16 * 4]
  | [a] => [a.toNat / 4, a.toNat % 4 * 16]
  | [] => []

/-- The text of bytes in the standard alphabet, without padding. -/
def encode
    (bytes : List UInt8) : String :=
  String.ofList ((unpack bytes).map sextetChar)

end ConfigTokens.Base64
