import ConfigTokens.Path.Basic
import ConfigTokens.Wildcard.Pattern
/-!
# Patterns for paths

A path pattern is a list of wildcard patterns, one for each segment; the pattern "**" stands for any
number of segments, also for none. `isIgnored` compares a path and a pattern as texts, in which empty
segments do not count.
-/

namespace ConfigTokens.Wildcard

/-- The pattern for any number of segments. -/
def anySegments : List Char :=
  ['*', '*']

/-- The patterns match the whole list of segments. -/
def matchSegments : List (List Char) → List (List Char) → Bool
  | [], path => path.isEmpty
  | pattern :: patterns, path =>
    if pattern = anySegments then
      (List.range (path.length + 1)).any fun taken => matchSegments patterns (path.drop taken)
    else
      match path with
      | [] => false
      | segment :: rest => accepts pattern segment && matchSegments patterns rest

/-- A path is matched by an ignore pattern. -/
def isIgnored
    (path pattern : String) : Bool :=
  matchSegments (Path.segments pattern.toList) (Path.segments path.toList)

end ConfigTokens.Wildcard
