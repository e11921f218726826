import ConfigTokens.Options.Field
import ConfigTokens.Settings.Basic
/-!
# Options for patterns

A pattern is matched in a directory. Hidden names match if `dot` is set, directories are left out if
`nodir` is set, and so is what an ignore pattern matches.
-/

namespace ConfigTokens

/-- How a pattern is matched. -/
structure GlobOptions where
  cwd : String
  dot : Bool
  nodir : Bool
  ignore : List String
  deriving DecidableEq, Repr

namespace GlobOptions

/-- The name of these options in a report. -/
def modelName : String :=
  "GlobOptions"

/-- The names of the fields. -/
def fieldNames : List String :=
  ["cwd", "dot", "nodir", "ignore"]

/-- Checks the members of a mapping; `dot` is the default for hidden names. -/
def ofMembers
    (dot : Bool)
    (members : List (String × Json)) : Checked GlobOptions :=
  let cwd :=
    match members.lookup "cwd" with
    | none => .error [⟨["cwd"], .missing⟩]
    | some value => Field.text ["cwd"] value
  let dot := Field.withDefault members "dot" dot Field.truth
  let nodir := Field.withDefault members "nodir" false Field.truth
  let ignore := Field.withDefault members "ignore" [] Field.texts
  let all := Checked.both cwd (Checked.both dot (Checked.both nodir ignore))
  Checked.guarded (Field.extras fieldNames members) <|
    all.map fun (cwd, dot, nodir, ignore) => ⟨cwd, dot, nodir, ignore⟩

end GlobOptions

end ConfigTokens
