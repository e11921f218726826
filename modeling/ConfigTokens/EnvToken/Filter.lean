import ConfigTokens.Binary64.Basic
import ConfigTokens.EnvToken.Basic
import ConfigTokens.Text.Blank
/-!
# Conversions of environment variables

A decimal conversion takes the integer at the start of a value, after white space and with an
optional sign, and ignores what follows it. Without such an integer the result is not a number. A run
of more than 4300 digits is read as a floating point number. A truth value is false for a variable
that is unset, empty, `false` or `0`.
-/

namespace ConfigTokens.EnvFilter

open ConfigTokens.Text

/-- An integer or a floating point number. -/
inductive Number where
  | int (value : Int)
  | float (value : Binary64)
  deriving DecidableEq, Repr

/-- The longest run of digits that is read as an integer. -/
def integerDigitLimit : Nat :=
  4300

/-- The sign at the start of a text, and the text after it. -/
def cutSign : List Char → Bool × List Char
  | '-' :: rest => (true, rest)
  | '+' :: rest => (false, rest)
  | rest => (false, rest)

/-- The number that a sign and a run of digits denote. -/
def numberOfRun
    (negative : Bool)
    (digits : List Char) : Number :=
  if digits.length ≤ integerDigitLimit then
    .int (if negative then -(decimalValue digits : Int) else decimalValue digits)
  else .float (Binary64.ofDecimal negative digits 0)

/-- The number at the start of a value. -/
def toDecimal : Option String → Number
  | none => .float .nan
  | some value =>
    let (negative, rest) := cutSign (value.toList.dropWhile isBlank)
    match rest.takeWhile isDigit with
    | [] => .float .nan
    | digits => numberOfRun negative digits

/-- The truth of a value. -/
def toBoolean : Option String → Bool
  | none => false
  | some value => !(value = "" || value = "false" || value = "0")

/-- The opposite of the truth of a value. -/
def toInverseBoolean
    (value : Option String) : Bool :=
  !toBoolean value

/-- What a filter makes of a value. -/
inductive Converted where
  | number (value : Number)
  | truth (value : Bool)
  deriving DecidableEq, Repr

/-- The conversion that a filter stands for. -/
def apply : EnvFilter → Option String → Converted
  | .decimal, value => .number (toDecimal value)
  | .boolean, value => .truth (toBoolean value)
  | .notBoolean, value => .truth (toInverseBoolean value)

end ConfigTokens.EnvFilter
