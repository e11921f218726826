import ConfigTokens.Text.Digits
import ConfigTokens.Text.Printable
/-!
# Quoted text

A value that appears inside a message is quoted so that its ends and its odd characters show. The
quote is an apostrophe unless the text holds an apostrophe and no double quote. The backslash and the
quote in use get a backslash; line feed, carriage return and tab have a short escape; any other
character that is not printable is written with its code in two, four or eight hexadecimal digits.
-/

namespace ConfigTokens.Text

/-- The quote character for a text. -/
def quoteFor
    (text : List Char) : Char :=
  if text.contains '\'' && !text.contains '"' then '"' else '\''

/-- The escape of a code point by number, as short as its size allows. -/
def codeEscape
    (code : Nat) : List Char :=
  if code < 0x100 then '\\' :: 'x' :: hexDigits 2 code
  else if code < 0x10000 then '\\' :: 'u' :: hexDigits 4 code
  else '\\' :: 'U' :: hexDigits 8 code

/-- One character inside quotes. -/
def quoteChar
    (quote c : Char) : List Char :=
  if c = quote || c = '\\' then ['\\', c]
  else if c = '\n' then ['\\', 'n']
  else if c = '\r' then ['\\', 'r']
  else if c = '\t' then ['\\', 't']
  else if isPrintable c then [c]
  else codeEscape c.toNat

/-- The quoted form of a list of characters. -/
def quoteChars
    (text : List Char) : List Char :=
  let quote := quoteFor text
  quote :: text.flatMap (quoteChar quote) ++ [quote]

/-- The quoted form of a text. -/
def quoted
    (text : String) : String :=
  String.ofList (quoteChars text.toList)

end ConfigTokens.Text
