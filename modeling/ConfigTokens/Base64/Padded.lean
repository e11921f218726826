import ConfigTokens.Base64
/-!
# Padded Base64

A reader of padded text takes the standard alphabet only, four characters to a group, and demands that a
last group with two or three of them is filled up with `=`. It skips characters that are neither, and stops
where padding has filled a group. `padded` brings any text into a form that such a reader takes: it turns the
alphabet that is safe in addresses into the standard one, drops all else, drops a last character that is
alone in its group, and fills up the group.
-/

namespace ConfigTokens.Base64

/-! ## From any text to a padded one -/

/-- The character of the standard alphabet for one that is safe in addresses; others stay. -/
def standard
    (c : Char) : Char :=
  if c = '-' then '+' else if c = '_' then '/' else c

/-- A character of the standard alphabet. -/
def isStandard
    (c : Char) : Bool :=
  ('A' ≤ c && c ≤ 'Z') || ('a' ≤ c && c ≤ 'z') || ('0' ≤ c && c ≤ '9') || c = '+' || c = '/'

/-- The characters of a text that count, in the standard alphabet. -/
def clean
    (text : List Char) : List Char :=
  (text.map standard).filter isStandard

/-- What can be grouped: the last element is dropped if it is alone in its group of four. -/
def whole {α : Type}
    (elements : List α) : List α :=
  if elements.length % 4 = 1 then elements.dropLast else elements

/-- The characters that count, filled up to whole groups of four. -/
def padded
    (text : List Char) : List Char :=
  let kept := whole (clean text)
  kept ++ List.replicate ((4 - kept.length % 4) % 4) '='

/-! ## Reading padded text -/

/-- Why a text cannot be read. -/
inductive PaddingFault where
  | notAscii
  /-- The text ends with one character in its last group. -/
  | alone
  /-- The text ends in a group that is not filled up. -/
  | unfilled
  deriving DecidableEq, Repr

/-- How much of a group has been read, with the bits that have not been written yet. -/
inductive Phase where
  | start
  | one (left : Nat)
  | two (left : Nat) (padded : Bool)
  | three (left : Nat)
  deriving DecidableEq, Repr

/-- The six bits of a character of the standard alphabet. -/
def standardSextet?
    (c : Char) : Option Nat :=
  if isStandard c then sextet? c else none

/-- A text may end where a group does. -/
def Phase.finish : Phase → Except PaddingFault (List UInt8)
  | .start => .ok []
  | .one _ => .error .alone
  | .two .. | .three _ => .error .unfilled

/-- The bytes of a text from some phase on. -/
def readGroups : Phase → List Char → Except PaddingFault (List UInt8)
  | phase, [] => phase.finish
  | phase, c :: rest =>
    if c = '=' then
      match phase with
      | .two left false => readGroups (.two left true) rest
      | .two _ true | .three _ => .ok []
      | .start | .one _ => readGroups phase rest
    else
      match standardSextet? c with
      | none => readGroups phase rest
      | some value =>
        match phase with
        | .start => readGroups (.one value) rest
        | .one left => do
          return UInt8.ofNat (left * 4 + value / 16) :: (← readGroups (.two (value % 16) false) rest)
        | .two left _ => do
          return UInt8.ofNat (left * 16 + value / 4) :: (← readGroups (.three (value % 4)) rest)
        | .three left => do
          return UInt8.ofNat (left * 64 + value) :: (← readGroups .start rest)

/-- The bytes of a padded text. -/
def decodePadded
    (text : List Char) : Except PaddingFault (List UInt8) :=
  if text.all (·.toNat < 128) then readGroups .start text else .error .notAscii

end ConfigTokens.Base64
