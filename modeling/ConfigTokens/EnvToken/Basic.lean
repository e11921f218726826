import ConfigTokens.Text.Cut
/-!
# Tokens for environment variables

A token names a variable and may end in a bar with a filter: `NAME|d` for a decimal number, `NAME|b`
for a truth value and `NAME|!b` for its opposite. Only the text after the last bar can be a filter;
anything else there belongs to the name.
-/

namespace ConfigTokens

/-- A conversion that a token may ask for. -/
inductive EnvFilter where
  | decimal
  | boolean
  | notBoolean
  deriving DecidableEq, Repr

namespace EnvFilter

/-- The text that stands for the filter in a token. -/
def code : EnvFilter → String
  | .decimal => "d"
  | .boolean => "b"
  | .notBoolean => "!b"

/-- The filter that a text stands for. -/
def ofCode? : String → Option EnvFilter
  | "d" => some .decimal
  | "b" => some .boolean
  | "!b" => some .notBoolean
  | _ => none

@[simp]
theorem ofCode?_code
    (filter : EnvFilter) :
    ofCode? filter.code = some filter := by
  cases filter <;> rfl

end EnvFilter

/-- A variable with the conversion asked for. -/
structure EnvToken where
  name : String
  filter : Option EnvFilter
  deriving DecidableEq, Repr

namespace EnvToken

/-- Reads a token; one without a known filter is a name as a whole. -/
def parse
    (token : String) : EnvToken :=
  match Text.beforeLast '|' token.toList with
  | some (name, suffix) =>
    match EnvFilter.ofCode? (String.ofList suffix) with
    | some filter => ⟨String.ofList name, some filter⟩
    | none => ⟨token, none⟩
  | none => ⟨token, none⟩

end EnvToken

end ConfigTokens
