import ConfigTokens.Options.Field
/-!
# Options for reading files

A file is read as bytes, or as text in an encoding under a policy for what cannot be decoded.
-/

namespace ConfigTokens

/-- How a file is read. -/
structure FileOptions where
  encoding : Option String
  errors : String
  deriving DecidableEq, Repr

namespace FileOptions

/-- The name of these options in a report. -/
def modelName : String :=
  "FileOptions"

/-- The policy unless another one is given. -/
def defaultPolicy : String :=
  "strict"

/-- Bytes, or text in an encoding under the default policy. -/
def ofEncoding
    (encoding : Option String) : FileOptions :=
  ⟨encoding, defaultPolicy⟩

/-- The names of the fields. -/
def fieldNames : List String :=
  ["encoding", "errors"]

/-- Checks the members of a mapping. -/
def ofMembers
    (members : List (String × Json)) : Checked FileOptions :=
  let encoding := Field.withDefault members "encoding" none Field.textOrNull
  let errors := Field.withDefault members "errors" defaultPolicy Field.text
  Checked.guarded (Field.extras fieldNames members) <|
    (Checked.both encoding errors).map fun (encoding, errors) => ⟨encoding, errors⟩

/-- Checks data, which have to be a mapping. -/
def ofJson : Json → Checked FileOptions
  | .object members => ofMembers members
  | _ => .error [⟨[], .modelType modelName⟩]

end FileOptions

end ConfigTokens
