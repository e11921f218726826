import ConfigTokens.Binary64.Places
import ConfigTokens.Json.Shown
/-!
# Messages with arguments

A message may hold directives, which begin with a percent sign: a name in parentheses, flags, a width,
a precision and a conversion. `render` puts arguments in their places, in order or by name.
-/

namespace ConfigTokens.Log.Percent

open ConfigTokens.Text

/-- Why a message and its arguments do not fit. -/
inductive Fault where
  | notEnough
  | notAll
  | incomplete
  | incompleteName
  | needsMapping
  | missingName (name : String)
  | starNeedsInteger
  /-- A star's integer does not fit a number of the machine, whose type is named. -/
  | starTooLarge (machineType : String)
  | widthTooBig
  | precisionTooBig
  | unsupported (conversion : Char) (index : Nat)
  | needsNumber (conversion : Char) (typeName : String)
  | needsInteger (conversion : Char) (typeName : String)
  | needsReal (typeName : String)
  | needsCharacter
  | characterRange
  | nanToInteger
  | infinityToInteger
  | integerTooLarge
  /-- An integer has too many digits to be written. -/
  | tooManyDigits
  /-- A number is the code of half a character, which no text that is written out holds. -/
  | halfCharacter
  deriving DecidableEq, Repr

namespace Fault

/-- The name of the fault's class. -/
def className : Fault → String
  | .notEnough | .notAll | .needsMapping | .starNeedsInteger | .needsNumber .. | .needsInteger ..
  | .needsReal _ | .needsCharacter => "TypeError"
  | .incomplete | .incompleteName | .widthTooBig | .precisionTooBig | .unsupported ..
  | .nanToInteger | .tooManyDigits => "ValueError"
  | .missingName _ => "KeyError"
  | .halfCharacter => "UnicodeEncodeError"
  | .characterRange | .infinityToInteger | .integerTooLarge | .starTooLarge _ => "OverflowError"

/-- A number in lower-case hexadecimal digits. -/
def hexText
    (value : Nat) : String :=
  String.ofList (Nat.toDigits 16 value)

/-- The wording of a fault. -/
def message : Fault → String
  | .notEnough => "not enough arguments for format string"
  | .notAll => "not all arguments converted during string formatting"
  | .incomplete => "incomplete format"
  | .incompleteName => "incomplete format key"
  | .needsMapping => "format requires a mapping"
  | .missingName name => Text.quoted name
  | .starNeedsInteger => "* wants int"
  | .starTooLarge machineType => "Python int too large to convert to " ++ machineType
  | .widthTooBig => "width too big"
  | .precisionTooBig => "precision too big"
  | .unsupported conversion index =>
    let code := conversion.toNat
    let shown := if 31 ≤ code && code < 127 then conversion else '?'
    s!"unsupported format character '{shown}' (0x{hexText code}) at index {index}"
  | .needsNumber conversion typeName =>
    s!"%{conversion} format: a real number is required, not {typeName}"
  | .needsInteger conversion typeName =>
    s!"%{conversion} format: an integer is required, not {typeName}"
  | .needsReal typeName => s!"must be real number, not {typeName}"
  | .needsCharacter => "%c requires int or char"
  | .characterRange => "%c arg not in range(0x110000)"
  | .nanToInteger => "cannot convert float NaN to integer"
  | .infinityToInteger => "cannot convert float infinity to integer"
  | .integerTooLarge => "int too large to convert to float"
  | .tooManyDigits => Json.unwritableMessage
  | .halfCharacter => "surrogates not allowed"

end Fault

/-- What stands before the conversion of a directive. -/
structure Layout where
  left : Bool
  plus : Bool
  blank : Bool
  alternate : Bool
  zero : Bool
  width : Nat
  precision : Option Nat

/-- The layout of a bare directive. -/
def Layout.plain : Layout :=
  ⟨false, false, false, false, false, 0, none⟩

/-- Arguments that are left: a list, or a mapping that may be taken once as a whole. -/
inductive Arguments where
  | list (items : List Json)
  | mapping (members : List (String × Json)) (next : Option Json)

/-- The next argument. -/
def Arguments.next : Arguments → Except Fault (Json × Arguments)
  | .list (item :: rest) => .ok (item, .list rest)
  | .list [] => .error .notEnough
  | .mapping members (some item) => .ok (item, .mapping members none)
  | .mapping _ none => .error .notEnough

/-- What is left of a message with the offset of its first character, and the arguments left. -/
structure Rest where
  text : List Char
  offset : Nat
  arguments : Arguments

/-- A rest without its first characters. -/
def Rest.skip
    (rest : Rest)
    (count : Nat) : Rest :=
  { rest with text := rest.text.drop count, offset := rest.offset + count }

/-- The length of a name up to its closing parenthesis; parentheses nest. -/
def nameLength : Nat → List Char → Option Nat
  | _, [] => none
  | depth, c :: rest =>
    if c = ')' then
      match depth with
      | 0 => some 0
      | depth + 1 => (nameLength depth rest).map (· + 1)
    else if c = '(' then (nameLength (depth + 1) rest).map (· + 1)
    else (nameLength depth rest).map (· + 1)

/-- Reads the name of a directive, which selects its argument. -/
def readName
    (rest : Rest) : Except Fault Rest :=
  match rest.text with
  | '(' :: text =>
    match rest.arguments with
    | .list _ => .error .needsMapping
    | .mapping members _ =>
      match nameLength 0 text with
      | none => .error .incompleteName
      | some length =>
        let name := String.ofList (text.take length)
        match members.lookup name with
        | none => .error (.missingName name)
        | some value =>
          .ok { rest.skip (length + 2) with arguments := .mapping members (some value) }
  | _ => .ok rest

/-- Reads flags. -/
def readFlags : Layout → Nat → List Char → Layout × Nat
  | layout, count, [] => (layout, count)
  | layout, count, c :: rest =>
    if c = '-' then readFlags { layout with left := true } (count + 1) rest
    else if c = '+' then readFlags { layout with plus := true } (count + 1) rest
    else if c = ' ' then readFlags { layout with blank := true } (count + 1) rest
    else if c = '#' then readFlags { layout with alternate := true } (count + 1) rest
    else if c = '0' then readFlags { layout with zero := true } (count + 1) rest
    else (layout, count)

/-- The integer that an argument for a star gives. -/
def starValue : Json → Except Fault Int
  | .int value => .ok value
  | .bool value => .ok (if value then 1 else 0)
  | _ => .error .starNeedsInteger

/-- A number in a layout: the greatest one, and what is wrong with a greater one. -/
structure Bound where
  limit : Nat
  tooBig : Fault
  starTooBig : Fault

/-- Reads a number: a star takes it from the arguments. -/
def readNumber
    (bound : Bound)
    (rest : Rest) : Except Fault (Int × Rest) :=
  match rest.text with
  | '*' :: _ => do
    let (item, arguments) ← rest.arguments.next
    let value ← starValue item
    if bound.limit < value.natAbs then throw bound.starTooBig
    return (value, { rest.skip 1 with arguments })
  | text =>
    let digits := text.takeWhile isDigit
    if bound.limit < decimalValue digits then .error bound.tooBig
    else .ok (decimalValue digits, rest.skip digits.length)

/-- The bound of a width. -/
def widthBound : Bound :=
  ⟨0x7FFFFFFFFFFFFFFF, .widthTooBig, .starTooLarge "C ssize_t"⟩

/-- The bound of a precision. -/
def precisionBound : Bound :=
  ⟨0x7FFFFFFF, .precisionTooBig, .starTooLarge "C int"⟩

/-- Reads the layout of a directive. -/
def readLayout
    (rest : Rest) : Except Fault (Layout × Rest) := do
  let (layout, count) := readFlags .plain 0 rest.text
  let (width, rest) ← readNumber widthBound (rest.skip count)
  let layout := { layout with left := layout.left || width < 0, width := width.natAbs }
  match rest.text with
  | '.' :: _ =>
    let (precision, rest) ← readNumber precisionBound (rest.skip 1)
    return ({ layout with precision := some precision.toNat }, rest)
  | _ => return (layout, rest)

/-- A rest without a letter for the size of an argument, which says nothing. -/
def skipSize
    (rest : Rest) : Rest :=
  match rest.text with
  | c :: _ => if c = 'h' || c = 'l' || c = 'L' then rest.skip 1 else rest
  | [] => rest

/-- Text brought to the width of a layout with blanks. -/
def padText
    (layout : Layout)
    (text : List Char) : List Char :=
  if layout.left then padRight layout.width ' ' text else padLeft layout.width ' ' text

/-- Text cut to the precision of a layout and brought to its width. -/
def cutText
    (layout : Layout)
    (text : List Char) : List Char :=
  padText layout (match layout.precision with | some count => text.take count | none => text)

/-- The sign of a number. -/
def signText
    (layout : Layout)
    (negative : Bool) : List Char :=
  if negative then ['-'] else if layout.plus then ['+'] else if layout.blank then [' '] else []

/-- A number brought to the width of a layout; zeros come between its sign or mark and its digits. -/
def padNumber
    (layout : Layout)
    (lead digits : List Char) : List Char :=
  if layout.zero && !layout.left then
    lead ++ padLeft (layout.width - lead.length) '0' digits
  else padText layout (lead ++ digits)

/-- The base of a conversion to an integer, and the mark that its alternate form has. -/
def integerBase : Char → Nat × List Char
  | 'o' => (8, ['0', 'o'])
  | 'x' => (16, ['0', 'x'])
  | 'X' => (16, ['0', 'X'])
  | _ => (10, [])

/-- A conversion writes an integer in a base that is not ten. -/
def isBased
    (conversion : Char) : Bool :=
  conversion = 'o' || conversion = 'x' || conversion = 'X'

/-- The integer of a finite floating point number, without its places. -/
def truncate
    (negative : Bool)
    (significand exponent : Nat) : Int :=
  let size : Nat := significand * Binary64.twoTo exponent / Binary64.twoTo 1074
  if negative then -size else size

/-- The integer of an argument. -/
def integerOf
    (conversion : Char)
    (value : Json) : Except Fault Int :=
  match value with
  | .int value => .ok value
  | .bool value => .ok (if value then 1 else 0)
  | .float number =>
    if isBased conversion then .error (.needsInteger conversion "float")
    else
      match number with
      | .nan => .error .nanToInteger
      | .infinity _ => .error .infinityToInteger
      | .finite negative significand exponent => .ok (truncate negative significand exponent)
  | other =>
    .error <|
      if isBased conversion then .needsInteger conversion other.typeName
      else .needsNumber conversion other.typeName

/-- Writes an integer; there is a limit on its digits in the base ten. -/
def writeInteger
    (layout : Layout)
    (conversion : Char)
    (value : Int) : Except Fault (List Char) :=
  let (base, mark) := integerBase conversion
  if !isBased conversion && !Json.digitLimit.allows (Json.digitCount value) then .error .tooManyDigits
  else
    let digits := padLeft (layout.precision.getD 0) '0' (Nat.toDigits base value.natAbs)
    let digits := if conversion = 'X' then digits.map Char.toUpper else digits
    let lead := signText layout (value < 0) ++ if layout.alternate then mark else []
    .ok (padNumber layout lead digits)

/-- The floating point number of an argument. -/
def realOf : Json → Except Fault Binary64
  | .float value => .ok value
  | .bool value => .ok (Binary64.ofRatio false (if value then 1 else 0) 1)
  | .int value =>
    if value = 0 then .ok (Binary64.zero false)
    else
      match Binary64.ofRatio (value < 0) value.natAbs 1 with
      | .infinity _ => .error .integerTooLarge
      | number => .ok number
  | other => .error (.needsReal other.typeName)

/-- The text of a size. -/
def realText
    (layout : Layout)
    (conversion : Char) : Binary64 → List Char
  | .nan => ['n', 'a', 'n']
  | .infinity _ => ['i', 'n', 'f']
  | .finite _ significand exponent =>
    let places := layout.precision.getD 6
    match conversion.toLower with
    | 'e' => Binary64.exponentialText significand exponent places layout.alternate
    | 'f' => Binary64.fixedText significand exponent places layout.alternate
    | _ => Binary64.generalText significand exponent places layout.alternate

/-- Writes a floating point number. -/
def writeReal
    (layout : Layout)
    (conversion : Char)
    (value : Binary64) : List Char :=
  let text := realText layout conversion value
  let text := if conversion.isUpper then text.map Char.toUpper else text
  padNumber layout (signText layout value.isNegative) text

/-- The character of an argument. -/
def characterOf : Json → Except Fault Char
  | .int value =>
    if value < 0 || 0x110000 ≤ value then .error .characterRange
    else if value.toNat.isValidChar then .ok (Char.ofNat value.toNat)
    else .error .halfCharacter
  | .bool value => .ok (Char.ofNat (if value then 1 else 0))
  | .str value =>
    match value.toList with
    | [c] => .ok c
    | _ => .error .needsCharacter
  | _ => .error .needsCharacter

/-- Writes the text of a value, which has none if an integer in it has too many digits. -/
def writeText
    (layout : Layout)
    (text : Json → List Char)
    (value : Json) : Except Fault (List Char) :=
  if value.isWithin Json.digitLimit then .ok (cutText layout (text value)) else .error .tooManyDigits

/-- Writes an argument; `index` is the place of the conversion in the message. -/
def writeArgument
    (layout : Layout)
    (conversion : Char)
    (index : Nat)
    (value : Json) : Except Fault (List Char) :=
  match conversion with
  | 's' => writeText layout Json.shown value
  | 'r' => writeText layout Json.display value
  | 'a' => writeText layout Json.displayAscii value
  | 'c' => (characterOf value).map fun c => padText layout [c]
  | 'd' | 'i' | 'u' | 'o' | 'x' | 'X' =>
    (integerOf conversion value).bind (writeInteger layout conversion)
  | 'e' | 'E' | 'f' | 'F' | 'g' | 'G' =>
    (realOf value).map (writeReal layout conversion)
  | _ => .error (.unsupported conversion index)

/-- Reads and writes a directive after its percent sign. -/
def directive
    (rest : Rest) : Except Fault (List Char × Rest) :=
  match rest.text with
  | '%' :: _ => .ok (['%'], rest.skip 1)
  | _ => do
    let (layout, rest) ← readLayout (← readName rest)
    let rest := skipSize rest
    match rest.text with
    | [] => throw .incomplete
    | conversion :: _ =>
      let (value, arguments) ← rest.arguments.next
      let written ← writeArgument layout conversion rest.offset value
      return (written, { rest.skip 1 with arguments })

/-- Writes the message that is left; a directive takes a character, so the length bounds the steps. -/
def renderRest : Nat → Rest → Except Fault (List Char)
  | 0, _ => .ok []
  | fuel + 1, rest =>
    match rest.text with
    | [] =>
      match rest.arguments with
      | .list (_ :: _) => .error .notAll
      | _ => .ok []
    | '%' :: _ => do
      let (written, rest) ← directive (rest.skip 1)
      return written ++ (← renderRest fuel rest)
    | c :: _ => do
      let more ← renderRest fuel (rest.skip 1)
      return c :: more

/-- The arguments of a message; a single mapping that is not empty is taken by name. -/
def argumentsOf : List Json → Arguments
  | [.object (member :: members)] =>
    .mapping (member :: members) (some (.object (member :: members)))
  | items => .list items

/-- A message with its arguments in place; without arguments it stays as it is. -/
def render
    (message : String)
    (arguments : List Json) : Except Fault String :=
  if arguments.isEmpty then .ok message
  else
    (renderRest (message.length + 1) ⟨message.toList, 0, argumentsOf arguments⟩).map String.ofList

end ConfigTokens.Log.Percent
