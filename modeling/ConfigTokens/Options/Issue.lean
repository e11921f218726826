/-!
# Issues of validation

Settings and options are checked as a whole: every field that does not fit gives an issue with its
place, its kind and a wording.
-/

namespace ConfigTokens

/-- What does not fit about a field. -/
inductive IssueKind where
  | extraForbidden
  | missing
  | stringType
  | boolParsing
  | boolType
  | tupleType
  | modelType (model : String)
  deriving DecidableEq, Repr

namespace IssueKind

/-- The short name of a kind. -/
def code : IssueKind → String
  | .extraForbidden => "extra_forbidden"
  | .missing => "missing"
  | .stringType => "string_type"
  | .boolParsing => "bool_parsing"
  | .boolType => "bool_type"
  | .tupleType => "tuple_type"
  | .modelType _ => "model_type"

/-- The wording of a kind. -/
def message : IssueKind → String
  | .extraForbidden => "Extra inputs are not permitted"
  | .missing => "Field required"
  | .stringType => "Input should be a valid string"
  | .boolParsing => "Input should be a valid boolean, unable to interpret input"
  | .boolType => "Input should be a valid boolean"
  | .tupleType => "Input should be a valid tuple"
  | .modelType model => s!"Input should be a valid dictionary or instance of {model}"

end IssueKind

/-- An issue with its place: the field, and for an item of a field its index. -/
structure Issue where
  place : List String
  kind : IssueKind
  deriving DecidableEq, Repr

/-- The result of a check: a value, or all that does not fit. -/
abbrev Checked (α : Type) :=
  Except (List Issue) α

namespace Checked

/-- Both results, or the issues of both. -/
def both {α β : Type} :
    Checked α → Checked β → Checked (α × β)
  | .ok a, .ok b => .ok (a, b)
  | .ok _, .error issues => .error issues
  | .error issues, .ok _ => .error issues
  | .error issues, .error more => .error (issues ++ more)

/-- A check that only has to succeed beside another one. -/
def guarded {α : Type}
    (issues : List Issue)
    (checked : Checked α) : Checked α :=
  match issues, checked with
  | [], checked => checked
  | issues, .ok _ => .error issues
  | issues, .error first => .error (first ++ issues)

end Checked

/-- The truth value that a word stands for, in any letter case. -/
def truthWord?
    (word : String) : Option Bool :=
  let lower := String.ofList (word.toList.map Char.toLower)
  if ["1", "true", "t", "yes", "y", "on"].contains lower then some true
  else if ["0", "false", "f", "no", "n", "off"].contains lower then some false
  else none

end ConfigTokens
