import ConfigTokens.Codec.Names
/-!
# Decoding by name

`decode` reads bytes in a named encoding under a named policy. No bytes are no text in every encoding,
known or not. A policy is looked up only when the first fault needs it.
-/

namespace ConfigTokens.Codec

/-- The pieces of bytes that stand for one character each; `none` is a byte without meaning. -/
def bytewise
    (encoding reason : String)
    (char? : UInt8 → Option Char)
    (bytes : List UInt8) : List Piece :=
  bytes.zipIdx.map fun (byte, offset) =>
    match char? byte with
    | some c => .char c
    | none => .fault ⟨encoding, reason, [byte], offset⟩

/-- The character of a table at an index; FFFE marks a gap. -/
def tableChar?
    (table : List Char)
    (index : Nat) : Option Char :=
  match table[index]? with
  | some c => if c.toNat = 0xFFFE then none else some c
  | none => none

namespace Encoding

/-- The pieces of bytes in an encoding; `none` for the encoding that decodes nothing. -/
def pieces : Encoding → List UInt8 → Option (List Piece)
  | .utf8, bytes => some (decodeUtf8 bytes)
  | .utf8Signed, bytes => some (decodeUtf8Signed bytes)
  | .utf16, bytes => some (decodeUtf16Marked bytes)
  | .utf16In order, bytes => some (decodeUtf16 order bytes)
  | .utf32, bytes => some (decodeUtf32Marked bytes)
  | .utf32In order, bytes => some (decodeUtf32 order bytes)
  | .ascii, bytes =>
    some (bytewise "ascii" "ordinal not in range(128)"
      (fun b => if b < 0x80 then some (Char.ofNat b.toNat) else none) bytes)
  | .latin1, bytes =>
    some (bytewise "latin-1" "" (fun b => some (Char.ofNat b.toNat)) bytes)
  | .asciiTable upper, bytes =>
    let table := upper.toList
    some (bytewise "charmap" "character maps to <undefined>"
      (fun b =>
        if b < 0x80 then some (Char.ofNat b.toNat) else tableChar? table (b.toNat - 128)) bytes)
  | .fullTable chars, bytes =>
    let table := chars.toList
    some (bytewise "charmap" "character maps to <undefined>"
      (fun b => tableChar? table b.toNat) bytes)
  | .undefined, _ => none

end Encoding

/-- A name with a null character cannot be passed on. -/
def hasNull
    (name : String) : Bool :=
  name.toList.contains '\x00'

/-- Normalised names of the encodings that are decoded directly, without a decoder of their own. -/
def directNames : List String :=
  ["ascii", "iso8859_1", "iso_8859_1", "latin1", "latin_1", "us_ascii", "utf16", "utf32", "utf8",
    "utf_16", "utf_32", "utf_8"]

/-- The text of pieces under a policy; `none` stands for an encoding without text. -/
def textOf
    (policy : Policy) : Option (List Piece) → Except Failure String
  | some pieces => (policy.apply pieces).map String.ofList
  | none => .error .undefinedEncoding

/-- The text of bytes in a named encoding under a named policy. -/
def decode
    (encoding policy : String)
    (bytes : List UInt8) : Except Failure String :=
  if hasNull encoding || hasNull policy then .error .embeddedNull
  else if bytes.isEmpty then .ok ""
  else
    match Encoding.lookup encoding with
    | .error failure => .error failure
    | .ok found =>
      let text := textOf (Policy.ofName policy) (found.pieces bytes)
      if directNames.contains (Encoding.normalise encoding) then text
      else text.mapError (Failure.ofDecoder encoding)

end ConfigTokens.Codec
