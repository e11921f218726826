import ConfigTokens.Assoc
import ConfigTokens.Json.Basic
/-!
# Reading JSON

The reader takes the JSON grammar with three extra numbers, `NaN`, `Infinity` and `-Infinity`, blanks
between tokens, and a limit on nesting and, if there is one, on the digits of an integer. A fault says what
was expected and where: by the offset of a character, and by its line and column. `Json.read` is the whole
reader; the functions before it read one part of a value from the text that is left.
-/

namespace ConfigTokens.Json

open ConfigTokens.Text

/-- What is wrong with a text that is no JSON. -/
inductive Reason where
  | expectingValue
  | expectingName
  | expectingColon
  | expectingComma
  | unterminatedString
  | controlCharacter
  | invalidEscape
  | invalidCodeEscape
  | extraData
  | byteOrderMark
  deriving DecidableEq, Repr

/-- The wording of a reason. -/
def Reason.message : Reason → String
  | .expectingValue => "Expecting value"
  | .expectingName => "Expecting property name enclosed in double quotes"
  | .expectingColon => "Expecting ':' delimiter"
  | .expectingComma => "Expecting ',' delimiter"
  | .unterminatedString => "Unterminated string starting at"
  | .controlCharacter => "Invalid control character at"
  | .invalidEscape => "Invalid \\escape"
  | .invalidCodeEscape => "Invalid \\uXXXX escape"
  | .extraData => "Extra data"
  | .byteOrderMark => "Unexpected UTF-8 BOM (decode using utf-8-sig)"

/-- A value with parts. -/
inductive Container where
  | array
  | object
  deriving DecidableEq, Repr

/-- Its name in a message. -/
def Container.name : Container → String
  | .array => "array"
  | .object => "object"

/-- Why reading stopped, with the offset of the character where it did. -/
inductive Stop where
  | malformed (reason : Reason) (offset : Nat)
  | tooManyDigits (count : Nat)
  | tooDeep (container : Container)
  deriving DecidableEq, Repr

/-- Why a text could not be read, with line and column for a reader. -/
inductive Fault where
  | malformed (reason : Reason) (line column offset : Nat)
  | tooManyDigits (count : Nat)
  | tooDeep (container : Container)
  deriving DecidableEq, Repr

/-- The wording of a limit on the digits of an integer. -/
def digitLimitMessage
    (count : Nat) : String :=
  s!"Exceeds the limit (4300 digits) for integer string conversion: value has {count} digits; "
    ++ "use sys.set_int_max_str_digits() to increase the limit"

/-- The wording of a fault. -/
def Fault.message : Fault → String
  | .malformed reason line column offset =>
    s!"{reason.message}: line {line} column {column} (char {offset})"
  | .tooManyDigits count => digitLimitMessage count
  | .tooDeep container =>
    s!"maximum recursion depth exceeded while decoding a JSON {container.name} from a unicode string"

/-- A value with the text after it and the offset of that text. -/
abbrev Reading (α : Type) :=
  Except Stop (α × List Char × Nat)

/-- A blank between tokens. -/
def isSpace
    (c : Char) : Bool :=
  c = ' ' || c = '\t' || c = '\n' || c = '\r'

/-- The text after blanks, with its offset. -/
def skipSpace
    (text : List Char)
    (offset : Nat) : List Char × Nat :=
  match text with
  | [] => ([], offset)
  | c :: rest => if isSpace c then skipSpace rest (offset + 1) else (text, offset)

/-- The number of four hexadecimal digits. -/
def hexQuad?
    (a b c d : Char) : Option Nat := do
  let a ← hexDigitValue? a
  let b ← hexDigitValue? b
  let c ← hexDigitValue? c
  let d ← hexDigitValue? d
  return ((a * 16 + b) * 16 + c) * 16 + d

/-- The first half of a surrogate pair. -/
def isHighSurrogate
    (code : Nat) : Bool :=
  0xD800 ≤ code && code < 0xDC00

/-- The second half of a surrogate pair. -/
def isLowSurrogate
    (code : Nat) : Bool :=
  0xDC00 ≤ code && code < 0xE000

/-- The character of a code point; a surrogate on its own is replaced. -/
def codeChar
    (code : Nat) : Char :=
  if isHighSurrogate code || isLowSurrogate code then Char.ofNat 0xFFFD else Char.ofNat code

/-- The character that a short escape stands for. -/
def shortEscape? : Char → Option Char
  | '"' => some '"'
  | '\\' => some '\\'
  | '/' => some '/'
  | 'b' => some '\x08'
  | 'f' => some '\x0c'
  | 'n' => some '\n'
  | 'r' => some '\r'
  | 't' => some '\t'
  | _ => none

/-- The character of an escape by code, and how many characters it takes after the first `u`. -/
def codeEscape
    (text : List Char)
    (offset : Nat) : Except Stop (Char × Nat) :=
  match text with
  | a :: b :: c :: d :: next :: more =>
    match hexQuad? a b c d with
    | none => .error (.malformed .invalidCodeEscape (offset + 1))
    | some high =>
      match next, more with
      | '\\', 'u' :: e :: f :: g :: h :: _ :: _ =>
        if isHighSurrogate high then
          match hexQuad? e f g h with
          | none => .error (.malformed .invalidCodeEscape (offset + 7))
          | some low =>
            if isLowSurrogate low then
              .ok (Char.ofNat (0x10000 + (high - 0xD800) * 1024 + (low - 0xDC00)), 10)
            else .ok (codeChar high, 4)
        else .ok (codeChar high, 4)
      | _, _ => .ok (codeChar high, 4)
  | _ => .error (.malformed .invalidCodeEscape (offset + 1))

/-- Reads a string after its opening quote, which stands at `start`; `read` is kept in reverse. -/
def readString
    (start : Nat)
    (read : List Char) :
    List Char → Nat → Reading String
  | [], _ => .error (.malformed .unterminatedString start)
  | '"' :: rest, offset => .ok (String.ofList read.reverse, rest, offset + 1)
  | ['\\'], _ => .error (.malformed .unterminatedString start)
  | '\\' :: 'u' :: rest, offset =>
    match codeEscape rest offset with
    | .error stop => .error stop
    | .ok (c, size) => readString start (c :: read) (rest.drop size) (offset + 2 + size)
  | '\\' :: c :: rest, offset =>
    match shortEscape? c with
    | none => .error (.malformed .invalidEscape offset)
    | some escaped => readString start (escaped :: read) rest (offset + 2)
  | c :: rest, offset =>
    if c.toNat < 0x20 then .error (.malformed .controlCharacter offset)
    else readString start (c :: read) rest (offset + 1)
  termination_by text => text.length
  decreasing_by all_goals simp only [List.length_drop, List.length_cons]; omega

/-- The digits of an exponent after its mark, with its sign. -/
def cutExponent : List Char → Option (Bool × List Char × List Char)
  | mark :: rest =>
    if mark = 'e' || mark = 'E' then
      let (negative, rest) :=
        match rest with
        | '-' :: more => (true, more)
        | '+' :: more => (false, more)
        | more => (false, more)
      match rest.takeWhile isDigit with
      | [] => none
      | digits => some (negative, digits, rest.dropWhile isDigit)
    else none
  | [] => none

/-- The digits after a point. -/
def cutFraction : List Char → Option (List Char × List Char)
  | '.' :: rest =>
    match rest.takeWhile isDigit with
    | [] => none
    | digits => some (digits, rest.dropWhile isDigit)
  | _ => none

/-- The digits before a point: a zero alone, or digits without a zero at the start. -/
def cutWhole : List Char → Option (List Char × List Char)
  | '0' :: rest => some (['0'], rest)
  | text =>
    match text.takeWhile isDigit with
    | [] => none
    | digits => some (digits, text.dropWhile isDigit)

section

variable (limit : DigitLimit)

/-- Reads a number whose sign has been read. -/
def readNumber
    (negative : Bool)
    (text : List Char) : Option (Except Stop (Json × List Char)) :=
  match cutWhole text with
  | none => none
  | some (whole, afterWhole) =>
    let fraction := cutFraction afterWhole
    let afterFraction := (fraction.map (·.2)).getD afterWhole
    let exponent := cutExponent afterFraction
    let rest := (exponent.map (·.2.2)).getD afterFraction
    if fraction.isNone && exponent.isNone then
      if limit.allows whole.length then
        some (.ok (.int (if negative then -(decimalValue whole : Int) else decimalValue whole), rest))
      else some (.error (.tooManyDigits whole.length))
    else
      let places := (fraction.map (·.1)).getD []
      let power : Int :=
        match exponent with
        | none => 0
        | some (down, digits, _) =>
          if down then -(decimalValue digits : Int) else decimalValue digits
      some (.ok (.float (Binary64.ofDecimal negative (whole ++ places) (power - places.length)), rest))

/-- A word at the start of a text, and the text after it. -/
def cutWord
    (word text : List Char) : Option (List Char) :=
  if word.isPrefixOf text then some (text.drop word.length) else none

/-- Reads a value that is neither a string nor has parts. -/
def readScalar
    (text : List Char)
    (offset : Nat) : Reading Json :=
  let word (name : String) (value : Json) : Option (Reading Json) :=
    (cutWord name.toList text).map fun rest => .ok (value, rest, offset + name.length)
  let number (negative : Bool) (digits : List Char) : Option (Reading Json) :=
    (readNumber limit negative digits).map fun
      | .error stop => .error stop
      | .ok (value, rest) => .ok (value, rest, offset + (text.length - rest.length))
  let found :=
    match text with
    | 'n' :: _ => word "null" .null
    | 't' :: _ => word "true" (.bool true)
    | 'f' :: _ => word "false" (.bool false)
    | 'N' :: _ => word "NaN" (.float .nan)
    | 'I' :: _ => word "Infinity" (.float (.infinity false))
    | '-' :: rest => (word "-Infinity" (.float (.infinity true))).or (number true rest)
    | _ => number false text
  found.getD (.error (.malformed .expectingValue offset))

mutual

/-- Reads a value; `fuel` bounds the calls and `depth` the nesting that is left. -/
def readValue : Nat → Nat → List Char → Nat → Reading Json
  | 0, _, _, _ => .error (.tooDeep .array)
  | fuel + 1, depth, text, offset =>
    match text with
    | '"' :: rest =>
      match readString offset [] rest (offset + 1) with
      | .error stop => .error stop
      | .ok (value, rest, offset) => .ok (.str value, rest, offset)
    | '[' :: rest =>
      match depth with
      | 0 => .error (.tooDeep .array)
      | depth + 1 =>
        match skipSpace rest (offset + 1) with
        | (']' :: rest, offset) => .ok (.array [], rest, offset + 1)
        | (rest, offset) =>
          match readItems fuel depth rest offset with
          | .error stop => .error stop
          | .ok (items, rest, offset) => .ok (.array items, rest, offset)
    | '{' :: rest =>
      match depth with
      | 0 => .error (.tooDeep .object)
      | depth + 1 =>
        match skipSpace rest (offset + 1) with
        | ('}' :: rest, offset) => .ok (.object [], rest, offset + 1)
        | (rest, offset) =>
          match readMembers fuel depth [] rest offset with
          | .error stop => .error stop
          | .ok (members, rest, offset) => .ok (.object members, rest, offset)
    | _ => readScalar limit text offset

/-- Reads the items of an array up to and with its closing bracket. -/
def readItems : Nat → Nat → List Char → Nat → Reading (List Json)
  | 0, _, _, _ => .error (.tooDeep .array)
  | fuel + 1, depth, text, offset =>
    match readValue fuel depth text offset with
    | .error stop => .error stop
    | .ok (item, rest, offset) =>
      match skipSpace rest offset with
      | (']' :: rest, offset) => .ok ([item], rest, offset + 1)
      | (',' :: rest, offset) =>
        let (rest, offset) := skipSpace rest (offset + 1)
        match readItems fuel depth rest offset with
        | .error stop => .error stop
        | .ok (items, rest, offset) => .ok (item :: items, rest, offset)
      | (_, offset) => .error (.malformed .expectingComma offset)

/-- Reads the members of an object up to and with its closing brace. -/
def readMembers : Nat → Nat → List (String × Json) → List Char → Nat → Reading (List (String × Json))
  | 0, _, _, _, _ => .error (.tooDeep .object)
  | fuel + 1, depth, members, text, offset =>
    match text with
    | '"' :: rest =>
      match readString offset [] rest (offset + 1) with
      | .error stop => .error stop
      | .ok (name, rest, offset) =>
        match skipSpace rest offset with
        | (':' :: rest, offset) =>
          let (rest, offset) := skipSpace rest (offset + 1)
          match readValue fuel depth rest offset with
          | .error stop => .error stop
          | .ok (value, rest, offset) =>
            let members := Assoc.put members name value
            match skipSpace rest offset with
            | ('}' :: rest, offset) => .ok (members, rest, offset + 1)
            | (',' :: rest, offset) =>
              let (rest, offset) := skipSpace rest (offset + 1)
              readMembers fuel depth members rest offset
            | (_, offset) => .error (.malformed .expectingComma offset)
        | (_, offset) => .error (.malformed .expectingColon offset)
    | _ => .error (.malformed .expectingName offset)

end

end

/-- Line and column of an offset, both counted from one. -/
def lineAndColumn
    (text : List Char)
    (offset : Nat) : Nat × Nat :=
  (text.take offset).foldl
    (fun (line, column) c => if c = '\n' then (line + 1, 1) else (line, column + 1)) (1, 1)

/-- A stop as a fault of the whole text. -/
def Stop.fault
    (text : List Char) : Stop → Fault
  | .malformed reason offset =>
    let (line, column) := lineAndColumn text offset
    .malformed reason line column offset
  | .tooManyDigits count => .tooManyDigits count
  | .tooDeep container => .tooDeep container

/-- Reads characters as one value with blanks around it. -/
def readChars
    (limit : DigitLimit)
    (depth : Nat)
    (text : List Char) : Except Stop Json :=
  if text.head? = some '\uFEFF' then .error (.malformed .byteOrderMark 0)
  else
    let (start, offset) := skipSpace text 0
    match readValue limit (2 * text.length + 2) depth start offset with
    | .error stop => .error stop
    | .ok (value, rest, offset) =>
      match skipSpace rest offset with
      | ([], _) => .ok value
      | (_, offset) => .error (.malformed .extraData offset)

/--
The nesting of arrays and objects that a reader accepts. The limit is one on all calls in progress, of which
a reader has what the calls around it leave; the number stands for what is left to a handler that is called
from the top, and a reader inside module bodies has less.
-/
def nestingLimit : Nat :=
  970

/-- Reads a text as one value with a limit on the digits of an integer. -/
def readWithin
    (limit : DigitLimit)
    (text : String) : Except Fault Json :=
  (readChars limit nestingLimit text.toList).mapError (Stop.fault text.toList)

/-- Reads a text as one value. -/
def read
    (text : String) : Except Fault Json :=
  readWithin digitLimit text

end ConfigTokens.Json
