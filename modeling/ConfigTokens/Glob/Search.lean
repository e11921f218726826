import ConfigTokens.Glob.Walk
/-!
# Results of a pattern

`search` turns the matches of a pattern into the answer: they are respelled without empty and "."
segments and sorted, ignored ones and, on request, directories are dropped, and each is anchored to the
directory in which the pattern was matched.
-/

namespace ConfigTokens.Glob

open ConfigTokens.Path

/-- What a search is to leave out. -/
structure Exclusions where
  directories : Bool
  patterns : List String

/-- A path without empty and "." segments; two slashes at the start stay. -/
def respell
    (path : List Char) : List Char :=
  let kept := (segments path).filter (· ≠ here)
  let text := lead path ++ Text.unite '/' kept
  if text = [] then here else text

/-- Order of texts by code points. -/
def precedes : List Char → List Char → Bool
  | [], _ => true
  | _ :: _, [] => false
  | a :: rest, b :: others => a < b || (a = b && precedes rest others)

/-- The answer to a pattern. -/
def search {Content : Type}
    (scope : Scope Content)
    (exclusions : Exclusions)
    (pattern : String) : Except Fault (List String) := do
  let found ← scope.expand pattern.toList
  let sorted := (found.map respell).mergeSort precedes
  let kept := sorted.filter fun path =>
    !exclusions.patterns.any (Wildcard.isIgnored (String.ofList path))
  let wanted := kept.filter fun path =>
    !(exclusions.directories && scope.isDirectory (join scope.root path))
  let cwd := FileTree.pathText scope.cwd
  return wanted.map fun path => String.ofList (anchor cwd.toList scope.root path)

end ConfigTokens.Glob
