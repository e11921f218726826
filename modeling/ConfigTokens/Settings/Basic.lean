import ConfigTokens.Codec.Unicode
import ConfigTokens.Options.Issue
import ConfigTokens.Settings.Assignments
/-!
# Settings

Defaults come from variables whose names begin with the prefix of the settings, in any letter case.
A variable of the environment wins over one of the file of assignments, and both over the default. A
blank base directory or file encoding counts as none.
-/

namespace ConfigTokens

/-- Defaults for handlers and logging. -/
structure Settings where
  baseDir : Option String
  fileEncoding : Option String
  globDot : Bool
  logLevel : String
  logFormat : String
  deriving DecidableEq, Repr

namespace Settings

/-- What the names of all variables begin with, in lower case. -/
def namePrefix : String :=
  "shortstop_"

/-- A name in lower case; no letter outside ASCII has a lower case that occurs in the names. -/
def foldName
    (name : String) : String :=
  String.ofList (name.toList.map Char.toLower)

/-- The value of the last variable with a name in any letter case. -/
def find?
    (assigned : List (String × Option String))
    (field : String) : Option String :=
  match assigned.reverse.find? fun entry => foldName entry.1 == namePrefix ++ field with
  | some (_, value) => value
  | none => none

/-- The value that the sources give to a field: the first source that has one decides. -/
def lookup
    (environment : List (String × String))
    (file : List (String × Option String))
    (field : String) : Option String :=
  (find? (environment.map fun entry => (entry.1, some entry.2)) field).or (find? file field)

/-- A value of nothing but white space counts as none. -/
def blankIsUnset
    (value : Option String) : Option String :=
  value.filter fun text => !Text.isBlankText text

/-- Reads the settings from the environment and the assignments of a file. -/
def read
    (environment : List (String × String))
    (file : List (String × Option String)) : Checked Settings :=
  let value := lookup environment file
  let settings (globDot : Bool) : Settings :=
    { baseDir := blankIsUnset (value "base_dir")
      fileEncoding := blankIsUnset (value "file_encoding")
      globDot
      logLevel := (value "log_level").getD "INFO"
      logFormat := (value "log_format").getD "json" }
  match value "glob_dot" with
  | none => .ok (settings false)
  | some word =>
    match truthWord? word with
    | some globDot => .ok (settings globDot)
    | none => .error [⟨["glob_dot"], .boolParsing⟩]

end Settings

end ConfigTokens
