import ConfigTokens.Codec.Basic
/-!
# Unicode encodings

Decoders for UTF-8, UTF-16 and UTF-32. A decoder walks over the bytes with the number of bytes that
it has passed; each step takes at least one byte, so the number of bytes bounds the steps.
-/

namespace ConfigTokens.Codec

open ConfigTokens.Text

/-- The order of the bytes of a code unit. -/
inductive ByteOrder where
  | little
  | big
  deriving DecidableEq, Repr

/-- The wording of a fault in UTF-8. -/
def utf8ReasonText : Utf8Reason → String
  | .invalidStart => "invalid start byte"
  | .invalidContinuation => "invalid continuation byte"
  | .unexpectedEnd => "unexpected end of data"

/-- The pieces of UTF-8 bytes from an offset on. -/
def utf8Pieces : Nat → Nat → List UInt8 → List Piece
  | fuel + 1, offset, first :: rest =>
    match utf8Head first rest with
    | .char c size =>
      .char c :: utf8Pieces fuel (offset + size) ((first :: rest).drop size)
    | .fault reason size =>
      .fault ⟨"utf-8", utf8ReasonText reason, (first :: rest).take size, offset⟩
        :: utf8Pieces fuel (offset + size) ((first :: rest).drop size)
  | _, _, _ => []

/-- The pieces of UTF-8 bytes. -/
def decodeUtf8
    (bytes : List UInt8) : List Piece :=
  utf8Pieces bytes.length 0 bytes

/-- The pieces of UTF-8 bytes without a mark at their start. -/
def decodeUtf8Signed : List UInt8 → List Piece
  | 0xEF :: 0xBB :: 0xBF :: rest => decodeUtf8 rest
  | bytes => decodeUtf8 bytes

/-- A code unit of two bytes. -/
def unit16
    (order : ByteOrder)
    (a b : UInt8) : Nat :=
  match order with
  | .little => a.toNat + b.toNat * 256
  | .big => a.toNat * 256 + b.toNat

/-- The name of UTF-16 with its byte order. -/
def utf16Name : ByteOrder → String
  | .little => "utf-16-le"
  | .big => "utf-16-be"

/-- A unit in the range of surrogates. -/
def isSurrogate
    (unit : Nat) : Bool :=
  0xD800 ≤ unit && unit < 0xE000

/-- The pieces of UTF-16 bytes from an offset on. -/
def utf16Pieces
    (order : ByteOrder) :
    Nat → Nat → List UInt8 → List Piece
  | fuel + 1, offset, a :: b :: rest =>
    let first := unit16 order a b
    if !isSurrogate first then
      .char (Char.ofNat first) :: utf16Pieces order fuel (offset + 2) rest
    else if 0xDC00 ≤ first then
      .fault ⟨utf16Name order, "illegal encoding", [a, b], offset⟩
        :: utf16Pieces order fuel (offset + 2) rest
    else
      match rest with
      | c :: d :: more =>
        let second := unit16 order c d
        if 0xDC00 ≤ second && second < 0xE000 then
          .char (Char.ofNat (0x10000 + (first - 0xD800) * 1024 + (second - 0xDC00)))
            :: utf16Pieces order fuel (offset + 4) more
        else
          .fault ⟨utf16Name order, "illegal UTF-16 surrogate", [a, b], offset⟩
            :: utf16Pieces order fuel (offset + 2) rest
      | _ => [.fault ⟨utf16Name order, "unexpected end of data", a :: b :: rest, offset⟩]
  | _ + 1, offset, [a] => [.fault ⟨utf16Name order, "truncated data", [a], offset⟩]
  | _, _, _ => []

/-- The pieces of UTF-16 bytes in a given order. -/
def decodeUtf16
    (order : ByteOrder)
    (bytes : List UInt8) : List Piece :=
  utf16Pieces order bytes.length 0 bytes

/-- The pieces of UTF-16 bytes whose order a mark at their start may tell. -/
def decodeUtf16Marked : List UInt8 → List Piece
  | 0xFF :: 0xFE :: rest => utf16Pieces .little rest.length 2 rest
  | 0xFE :: 0xFF :: rest => utf16Pieces .big rest.length 2 rest
  | bytes => decodeUtf16 .little bytes

/-- A code unit of four bytes. -/
def unit32
    (order : ByteOrder)
    (a b c d : UInt8) : Nat :=
  match order with
  | .little => a.toNat + (b.toNat + (c.toNat + d.toNat * 256) * 256) * 256
  | .big => d.toNat + (c.toNat + (b.toNat + a.toNat * 256) * 256) * 256

/-- The name of UTF-32 with its byte order. -/
def utf32Name : ByteOrder → String
  | .little => "utf-32-le"
  | .big => "utf-32-be"

/-- The pieces of UTF-32 bytes from an offset on. -/
def utf32Pieces
    (order : ByteOrder) :
    Nat → Nat → List UInt8 → List Piece
  | fuel + 1, offset, a :: b :: c :: d :: rest =>
    let code := unit32 order a b c d
    let piece : Piece :=
      if 0x110000 ≤ code then
        .fault ⟨utf32Name order, "code point not in range(0x110000)", [a, b, c, d], offset⟩
      else if isSurrogate code then
        .fault ⟨utf32Name order, "code point in surrogate code point range(0xd800, 0xe000)",
          [a, b, c, d], offset⟩
      else .char (Char.ofNat code)
    piece :: utf32Pieces order fuel (offset + 4) rest
  | _ + 1, offset, first :: rest =>
    [.fault ⟨utf32Name order, "truncated data", first :: rest, offset⟩]
  | _, _, _ => []

/-- The pieces of UTF-32 bytes in a given order. -/
def decodeUtf32
    (order : ByteOrder)
    (bytes : List UInt8) : List Piece :=
  utf32Pieces order bytes.length 0 bytes

/-- The pieces of UTF-32 bytes whose order a mark at their start may tell. -/
def decodeUtf32Marked : List UInt8 → List Piece
  | 0xFF :: 0xFE :: 0 :: 0 :: rest => utf32Pieces .little rest.length 4 rest
  | 0 :: 0 :: 0xFE :: 0xFF :: rest => utf32Pieces .big rest.length 4 rest
  | bytes => decodeUtf32 .little bytes

end ConfigTokens.Codec
