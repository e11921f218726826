import ConfigTokens.Text.Digits
import ConfigTokens.Text.Utf8
/-!
# Decoding with faults

A decoder cuts bytes into pieces: characters, and faults that name the bytes they cover and say what
is wrong with them. What becomes of a fault is the business of a `Policy`. `Policy.apply` runs over
the pieces in order, so the first fault that the policy refuses is the one reported.
-/

namespace ConfigTokens.Codec

/-- Bytes that cannot be decoded, with their place in the whole. -/
structure Fault where
  encoding : String
  reason : String
  bytes : List UInt8
  start : Nat
  deriving DecidableEq, Repr

/-- The wording of a fault: one byte is shown, several are named by their places. -/
def Fault.message
    (fault : Fault) : String :=
  match fault.bytes with
  | [byte] =>
    s!"'{fault.encoding}' codec can't decode byte 0x"
      ++ String.ofList (Text.hexDigits 2 byte.toNat)
      ++ s!" in position {fault.start}: {fault.reason}"
  | bytes =>
    s!"'{fault.encoding}' codec can't decode bytes in position {fault.start}-"
      ++ s!"{fault.start + bytes.length - 1}: {fault.reason}"

/-- A part of decoded bytes. -/
inductive Piece where
  | char (c : Char)
  | fault (fault : Fault)

/-- What is done about a fault. -/
inductive Policy where
  /-- Reports the fault. -/
  | strict
  /-- Leaves the bytes out. -/
  | ignore
  /-- Puts one replacement character. -/
  | replace
  /-- Writes each byte as an escape. -/
  | escape
  /-- Puts one stand-in for each byte above 127 and reports a fault of an ASCII byte. -/
  | surrogate
  /-- A policy for encoding, which cannot be used for decoding. -/
  | encodingOnly
  /-- A name that stands for no policy. -/
  | unknown (name : String)
  deriving DecidableEq, Repr

/-- The policy that a name stands for. -/
def Policy.ofName : String → Policy
  | "strict" => .strict
  | "ignore" => .ignore
  | "replace" => .replace
  | "backslashreplace" => .escape
  | "surrogateescape" => .surrogate
  | "surrogatepass" => .strict
  | "xmlcharrefreplace" => .encodingOnly
  | "namereplace" => .encodingOnly
  | name => .unknown name

/-- Why bytes have no text in an encoding. -/
inductive Failure where
  | undecodable (fault : Fault)
  | unknownEncoding (name : String)
  | notTextEncoding (name : String)
  | undefinedEncoding
  | unknownPolicy (name : String)
  | policyCannotDecode
  | embeddedNull
  /-- A failure inside the decoder of an encoding. -/
  | within (name : String) (cause : Failure)
  deriving DecidableEq, Repr

namespace Failure

/-- The name of the failure's class. -/
def className : Failure → String
  | .undecodable _ => "UnicodeDecodeError"
  | .unknownEncoding _ | .notTextEncoding _ | .unknownPolicy _ => "LookupError"
  | .undefinedEncoding => "UnicodeError"
  | .policyCannotDecode => "TypeError"
  | .embeddedNull => "ValueError"
  | .within _ cause => cause.className

/-- The wording of a failure. -/
def message : Failure → String
  | .undecodable fault => fault.message
  | .unknownEncoding name => s!"unknown encoding: {name}"
  | .notTextEncoding name =>
    s!"'{name}' is not a text encoding; use codecs.decode() to handle arbitrary codecs"
  | .undefinedEncoding => "undefined encoding"
  | .unknownPolicy name => s!"unknown error handler name '{name}'"
  | .policyCannotDecode => "don't know how to handle UnicodeDecodeError in error callback"
  | .embeddedNull => "embedded null character"
  | .within name cause =>
    s!"decoding with '{name}' codec failed ({cause.className}: {cause.message})"

/-- A failure as the decoder of a named encoding reports it; a fault of the bytes names it already. -/
def ofDecoder
    (name : String) : Failure → Failure
  | .undecodable fault => .undecodable fault
  | cause => .within name cause

end Failure

/-- The character that stands for what cannot be read. -/
def replacement : Char :=
  Char.ofNat 0xFFFD

/-- The characters that a policy puts for a fault, or its refusal. -/
def Policy.resolve
    (policy : Policy)
    (fault : Fault) : Except Failure (List Char) :=
  match policy with
  | .strict => .error (.undecodable fault)
  | .ignore => .ok []
  | .replace => .ok [replacement]
  | .escape =>
    .ok (fault.bytes.flatMap fun byte => '\\' :: 'x' :: Text.hexDigits 2 byte.toNat)
  | .surrogate =>
    if fault.bytes.all (0x80 ≤ ·) then .ok (fault.bytes.map fun _ => replacement)
    else .error (.undecodable fault)
  | .encodingOnly => .error .policyCannotDecode
  | .unknown name => .error (.unknownPolicy name)

/-- The text of pieces under a policy. -/
def Policy.apply
    (policy : Policy) :
    List Piece → Except Failure (List Char)
  | [] => .ok []
  | .char c :: rest => (policy.apply rest).map (c :: ·)
  | .fault fault :: rest =>
    match policy.resolve fault with
    | .error failure => .error failure
    | .ok chars => (policy.apply rest).map (chars ++ ·)

end ConfigTokens.Codec
