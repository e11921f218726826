/-!
# UTF-8

Text as bytes, and strict reading of bytes as text. Reading splits the bytes into characters and
faults: a fault is the longest start of a character that cannot be completed, and reading goes on
after it. A surrogate, an overlong form and a code point above the last one are faults.
-/

namespace ConfigTokens.Text

/-- The UTF-8 bytes of a text. -/
def utf8Bytes
    (text : String) : List UInt8 :=
  text.toList.flatMap String.utf8EncodeChar

/-- Why bytes are not UTF-8. -/
inductive Utf8Reason where
  | invalidStart
  | invalidContinuation
  | unexpectedEnd
  deriving DecidableEq, Repr

/-- What stands at the head of some bytes: a character with its number of bytes, or a fault. -/
inductive Utf8Head where
  | char (c : Char) (size : Nat)
  | fault (reason : Utf8Reason) (size : Nat)

/-- A continuation byte. -/
def isContinuation
    (byte : UInt8) : Bool :=
  0x80 ≤ byte && byte < 0xC0

/-- The second byte of a three-byte form may not make the form overlong or a surrogate. -/
def isSecondOfThree
    (first second : UInt8) : Bool :=
  isContinuation second &&
    !(first = 0xE0 && second < 0xA0) && !(first = 0xED && 0xA0 ≤ second)

/-- The second byte of a four-byte form may not make the form overlong or too large. -/
def isSecondOfFour
    (first second : UInt8) : Bool :=
  isContinuation second &&
    !(first = 0xF0 && second < 0x90) && !(first = 0xF4 && 0x90 ≤ second)

/-- The six bits that a continuation byte carries. -/
def continuationBits
    (byte : UInt8) : Nat :=
  byte.toNat % 64

/-- Reads the head of non-empty bytes, given as first byte and rest. -/
def utf8Head
    (first : UInt8)
    (rest : List UInt8) : Utf8Head :=
  if first < 0x80 then .char (Char.ofNat first.toNat) 1
  else if first < 0xC2 then .fault .invalidStart 1
  else if first < 0xE0 then
    match rest with
    | [] => .fault .unexpectedEnd 1
    | b :: _ =>
      if isContinuation b then
        .char (Char.ofNat (first.toNat % 32 * 64 + continuationBits b)) 2
      else .fault .invalidContinuation 1
  else if first < 0xF0 then
    match rest with
    | [] => .fault .unexpectedEnd 1
    | b :: more =>
      if isSecondOfThree first b then
        match more with
        | [] => .fault .unexpectedEnd 2
        | c :: _ =>
          if isContinuation c then
            .char (Char.ofNat
              ((first.toNat % 16 * 64 + continuationBits b) * 64 + continuationBits c)) 3
          else .fault .invalidContinuation 2
      else .fault .invalidContinuation 1
  else if first < 0xF5 then
    match rest with
    | [] => .fault .unexpectedEnd 1
    | b :: more =>
      if isSecondOfFour first b then
        match more with
        | [] => .fault .unexpectedEnd 2
        | c :: last =>
          if isContinuation c then
            match last with
            | [] => .fault .unexpectedEnd 3
            | d :: _ =>
              if isContinuation d then
                .char (Char.ofNat
                  (((first.toNat % 8 * 64 + continuationBits b) * 64 + continuationBits c) * 64
                    + continuationBits d)) 4
              else .fault .invalidContinuation 3
          else .fault .invalidContinuation 2
      else .fault .invalidContinuation 1
  else .fault .invalidStart 1

end ConfigTokens.Text
