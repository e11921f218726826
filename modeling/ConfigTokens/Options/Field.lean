import ConfigTokens.Json.Basic
import ConfigTokens.Options.Issue
/-!
# Checking fields

A field of options is checked against what it is to hold: text, a truth value or a list of texts.
Members that belong to no field are issues too.
-/

namespace ConfigTokens.Field

/-- A field that holds text. -/
def text
    (place : List String) : Json → Checked String
  | .str value => .ok value
  | _ => .error [⟨place, .stringType⟩]

/-- A field that holds text or nothing. -/
def textOrNull
    (place : List String) : Json → Checked (Option String)
  | .null => .ok none
  | value => (text place value).map some

/-- The truth value that a whole number stands for. -/
def truthNumber?
    (value : Int) : Option Bool :=
  if value = 1 then some true else if value = 0 then some false else none

/-- The integer that a floating point number is. -/
def integer? : Binary64 → Option Int
  | .finite negative significand exponent =>
    let scaled := significand * Binary64.twoTo exponent
    if scaled % Binary64.twoTo 1074 = 0 then
      let size : Nat := scaled / Binary64.twoTo 1074
      some (if negative then -size else size)
    else none
  | _ => none

/-- A whole number that fits into 64 bits. -/
def isWord
    (least value : Int) : Bool :=
  least ≤ value && value < 0x8000000000000000

/-- The whole number of 64 bits that a member holds; as a floating point number it may not be the least. -/
def wholeNumber? : Json → Option Int
  | .int value => if isWord (-0x8000000000000000) value then some value else none
  | .float value => (integer? value).filter (isWord (-0x7FFFFFFFFFFFFFFF))
  | _ => none

/-- A field that holds a truth value, which numbers and words may stand for. -/
def truth
    (place : List String)
    (value : Json) : Checked Bool :=
  let found (candidate : Option Bool) : Checked Bool :=
    match candidate with
    | some value => .ok value
    | none => .error [⟨place, .boolParsing⟩]
  match value with
  | .bool value => .ok value
  | .str word => found (truthWord? word)
  | value =>
    match wholeNumber? value with
    | some number => found (truthNumber? number)
    | none => .error [⟨place, .boolType⟩]

/-- The items of a list, all of which hold text; the issues of all items are reported. -/
def textItems
    (place : List String) :
    Nat → List Json → Checked (List String)
  | _, [] => .ok []
  | index, item :: rest =>
    (Checked.both (text (place ++ [s!"{index}"]) item) (textItems place (index + 1) rest)).map
      fun (item, rest) => item :: rest

/-- A field that holds a list of texts. -/
def texts
    (place : List String) : Json → Checked (List String)
  | .array items => textItems place 0 items
  | _ => .error [⟨place, .tupleType⟩]

/-- A field that may be missing, with its default and its check. -/
def withDefault {α : Type}
    (members : List (String × Json))
    (name : String)
    (default : α)
    (check : List String → Json → Checked α) : Checked α :=
  match members.lookup name with
  | none => .ok default
  | some value => check [name] value

/-- The issues of members that belong to no field. -/
def extras
    (fields : List String)
    (members : List (String × Json)) : List Issue :=
  (members.filter fun member => !fields.contains member.1).map fun member =>
    ⟨[member.1], .extraForbidden⟩

end ConfigTokens.Field
