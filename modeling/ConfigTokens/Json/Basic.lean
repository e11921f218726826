import ConfigTokens.Binary64.Basic
import ConfigTokens.Text.Digits
/-!
# JSON values

Numbers keep the difference between integers and floating point numbers, and the members of an object
keep the order in which their names first appeared. Between an integer and its decimal text stands a
limit on the number of digits, in both directions.
-/

namespace ConfigTokens

/-- A JSON value. -/
inductive Json where
  | null
  | bool (value : Bool)
  | int (value : Int)
  | float (value : Binary64)
  | str (value : String)
  | array (items : List Json)
  | object (members : List (String × Json))
  deriving Repr, Inhabited

namespace Json

/-- The value of a member. -/
def member?
    (value : Json)
    (name : String) : Option Json :=
  match value with
  | .object members => members.lookup name
  | _ => none

/-- The most digits that an integer may have, if there is a limit. -/
abbrev DigitLimit :=
  Option Nat

/-- A number of digits is within a limit. -/
def DigitLimit.allows
    (limit : DigitLimit)
    (count : Nat) : Bool :=
  limit.all (count ≤ ·)

/-- The most digits of an integer that is read or written. -/
def mostDigits : Nat :=
  4300

/-- The limit on the digits of an integer that is read or written. -/
def digitLimit : DigitLimit :=
  some mostDigits

/-- The number of digits of an integer. -/
def digitCount
    (value : Int) : Nat :=
  (Text.natText value.natAbs).length

section

variable (limit : DigitLimit)

mutual

/-- All integers in a value are within a limit. -/
def isWithin : Json → Bool
  | .int value => limit.allows (digitCount value)
  | .array items => areWithin items
  | .object members => membersAreWithin members
  | _ => true

/-- All integers in items are within a limit. -/
def areWithin : List Json → Bool
  | [] => true
  | item :: rest => isWithin item && areWithin rest

/-- All integers in members are within a limit. -/
def membersAreWithin : List (String × Json) → Bool
  | [] => true
  | (_, value) :: rest => isWithin value && membersAreWithin rest

end

/-- The integers in members are within a limit if those in each of them are. -/
theorem membersAreWithin_iff
    {members : List (String × Json)} :
    membersAreWithin limit members = true ↔ ∀ member ∈ members, isWithin limit member.2 = true := by
  induction members with
  | nil => simp [membersAreWithin]
  | cons member rest ih => simp [membersAreWithin, ih]

end

/-- The wording for an integer that has too many digits to be written. -/
def unwritableMessage : String :=
  "Exceeds the limit (4300 digits) for integer string conversion; "
    ++ "use sys.set_int_max_str_digits() to increase the limit"

end Json

end ConfigTokens
