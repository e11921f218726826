import ConfigTokens.Binary64.Shortest
import ConfigTokens.Json.Basic
/-!
# Writing JSON on one line

A value is written without line breaks: a blank follows each comma and each colon, characters
outside ASCII stand as they are, and the quote, the backslash and all control characters below 32 are
escaped.
-/

namespace ConfigTokens.Json

open ConfigTokens.Text

/-- One character inside a string. -/
def writeChar
    (c : Char) : List Char :=
  if c = '"' then ['\\', '"']
  else if c = '\\' then ['\\', '\\']
  else if c = '\n' then ['\\', 'n']
  else if c = '\r' then ['\\', 'r']
  else if c = '\t' then ['\\', 't']
  else if c = '\x08' then ['\\', 'b']
  else if c = '\x0c' then ['\\', 'f']
  else if c.toNat < 0x20 then '\\' :: 'u' :: hexDigits 4 c.toNat
  else [c]

/-- A string with its quotes. -/
def writeString
    (text : String) : List Char :=
  '"' :: text.toList.flatMap writeChar ++ ['"']

/-- A floating point number; the three that JSON lacks have names. -/
def writeFloat : Binary64 → List Char
  | .nan => "NaN".toList
  | .infinity negative => (if negative then "-Infinity" else "Infinity").toList
  | number => number.text.toList

mutual

/-- A value on one line. -/
def write : Json → List Char
  | .null => "null".toList
  | .bool value => (if value then "true" else "false").toList
  | .int value => (intText value).toList
  | .float value => writeFloat value
  | .str value => writeString value
  | .array items => '[' :: writeItems items ++ [']']
  | .object members => '{' :: writeMembers members ++ ['}']

/-- Items with a comma and a blank between them. -/
def writeItems : List Json → List Char
  | [] => []
  | [item] => write item
  | item :: rest => write item ++ ',' :: ' ' :: writeItems rest

/-- Members with a comma and a blank between them. -/
def writeMembers : List (String × Json) → List Char
  | [] => []
  | [(name, value)] => writeString name ++ ':' :: ' ' :: write value
  | (name, value) :: rest =>
    writeString name ++ ':' :: ' ' :: write value ++ ',' :: ' ' :: writeMembers rest

end

/-- A value as the text of one line. -/
def line
    (value : Json) : String :=
  String.ofList (write value)

/-- A value as the text of one line; there is none if an integer in it has too many digits. -/
def line?
    (value : Json) : Option String :=
  if value.isWithin digitLimit then some value.line else none

end ConfigTokens.Json
