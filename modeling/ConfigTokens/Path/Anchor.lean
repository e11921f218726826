import ConfigTokens.Path.Basic
/-!
# Anchored paths

A token is a path in a configuration text. `anchor` says which absolute path it denotes for a base
directory: an absolute token stands alone, a relative one is appended to the base segment by segment,
and a relative base starts in the working directory. The result never starts with two slashes.
-/

namespace ConfigTokens.Path

/-- The absolute path that a token denotes for a base directory. -/
def anchor
    (cwd base token : List Char) : List Char :=
  if isAbsolute token then collapseLead (normalise token)
  else collapseLead (absolute cwd ((segments token).foldl join base))

/-- `anchor` on strings. -/
def anchorText
    (cwd base token : String) : String :=
  String.ofList (anchor cwd.toList base.toList token.toList)

/-- `absolute` on strings. -/
def absoluteText
    (cwd path : String) : String :=
  String.ofList (absolute cwd.toList path.toList)

/-- `join` on strings. -/
def joinText
    (base path : String) : String :=
  String.ofList (join base.toList path.toList)

/-- `directory` on strings. -/
def directoryText
    (path : String) : String :=
  String.ofList (directory path.toList)

/-- `baseName` on strings. -/
def baseNameText
    (path : String) : String :=
  String.ofList (baseName path.toList)

theorem anchor_absolute
    {cwd base token : List Char}
    (rooted : isAbsolute token = true) :
    anchor cwd base token = collapseLead (normalise token) := by
  simp [anchor, rooted]

end ConfigTokens.Path
