import ConfigTokens.Binary64.Shortest
import ConfigTokens.Json.Basic
import ConfigTokens.Text.Quoted
/-!
# Values shown in messages

A value inside a message is shown so that its kind can be told: strings are quoted, and lists and
mappings show their parts. A string on its own is shown as it is.
-/

namespace ConfigTokens.Json

mutual

/-- A value with its strings quoted. -/
def display : Json → List Char
  | .null => "None".toList
  | .bool value => (if value then "True" else "False").toList
  | .int value => (Text.intText value).toList
  | .float value => value.text.toList
  | .str value => Text.quoteChars value.toList
  | .array items => '[' :: displayItems items ++ [']']
  | .object members => '\x7b' :: displayMembers members ++ ['\x7d']

/-- Items with a comma and a blank between them. -/
def displayItems : List Json → List Char
  | [] => []
  | [item] => display item
  | item :: rest => display item ++ ',' :: ' ' :: displayItems rest

/-- Members with a comma and a blank between them. -/
def displayMembers : List (String × Json) → List Char
  | [] => []
  | [(name, value)] => Text.quoteChars name.toList ++ ':' :: ' ' :: display value
  | (name, value) :: rest =>
    Text.quoteChars name.toList ++ ':' :: ' ' :: display value ++ ',' :: ' ' :: displayMembers rest

end

/-- A value as text; a string is its own text. -/
def shown : Json → List Char
  | .str value => value.toList
  | value => display value

/-- A value with all characters outside ASCII escaped. -/
def displayAscii
    (value : Json) : List Char :=
  (display value).flatMap fun c => if c.toNat < 0x80 then [c] else Text.codeEscape c.toNat

/-- The name of a value's type. -/
def typeName : Json → String
  | .null => "NoneType"
  | .bool _ => "bool"
  | .int _ => "int"
  | .float _ => "float"
  | .str _ => "str"
  | .array _ => "list"
  | .object _ => "dict"

end ConfigTokens.Json
