/-!
# Digits

Numbers as digits: decimal text of naturals and integers, hexadecimal text of a fixed width, and
the value of a run of ASCII digits.
-/

namespace ConfigTokens.Text

/-- An ASCII digit. -/
def isDigit
    (c : Char) : Bool :=
  '0' ≤ c && c ≤ '9'

/-- The value of an ASCII digit. -/
def digitValue
    (c : Char) : Nat :=
  c.toNat - 48

/-- The number that a run of decimal digits denotes. -/
def decimalValue
    (digits : List Char) : Nat :=
  digits.foldl (fun value c => 10 * value + digitValue c) 0

/-- The value of a hexadecimal digit of either case. -/
def hexDigitValue?
    (c : Char) : Option Nat :=
  if '0' ≤ c && c ≤ '9' then some (c.toNat - 48)
  else if 'a' ≤ c && c ≤ 'f' then some (c.toNat - 87)
  else if 'A' ≤ c && c ≤ 'F' then some (c.toNat - 55)
  else none

/-- The lower-case hexadecimal digit of a number below 16. -/
def hexDigit
    (value : Nat) : Char :=
  if value < 10 then Char.ofNat (48 + value) else Char.ofNat (87 + value)

/-- The last `width` hexadecimal digits of a number. -/
def hexDigits : Nat → Nat → List Char
  | 0, _ => []
  | width + 1, value => hexDigits width (value / 16) ++ [hexDigit (value % 16)]

@[simp]
theorem length_hexDigits
    (width value : Nat) :
    (hexDigits width value).length = width := by
  induction width generalizing value with
  | zero => rfl
  | succ width ih => simp [hexDigits, ih]

/-- A hexadecimal digit of a number is that of a number below 16. -/
theorem exists_of_mem_hexDigits
    {width value : Nat}
    {c : Char}
    (member : c ∈ hexDigits width value) :
    ∃ digit < 16, c = hexDigit digit := by
  induction width generalizing value with
  | zero => cases member
  | succ width ih =>
    rcases List.mem_append.mp member with before | last
    · exact ih before
    · exact ⟨value % 16, Nat.mod_lt _ (by decide), List.mem_singleton.mp last⟩

/-- A text brought to a width by repeating a character before it. -/
def padLeft
    (width : Nat)
    (pad : Char)
    (text : List Char) : List Char :=
  List.replicate (width - text.length) pad ++ text

/-- A text brought to a width by repeating a character after it. -/
def padRight
    (width : Nat)
    (pad : Char)
    (text : List Char) : List Char :=
  text ++ List.replicate (width - text.length) pad

/-- The decimal text of a natural number. -/
def natText
    (n : Nat) : String :=
  n.repr

/-- The decimal text of an integer, with a minus sign before a negative one. -/
def intText : Int → String
  | .ofNat n => natText n
  | .negSucc n => "-" ++ natText (n + 1)

end ConfigTokens.Text
