import ConfigTokens.FileTree.Lookup
import ConfigTokens.Path.Anchor
import ConfigTokens.Wildcard.Segments
/-!
# Matching a pattern against a tree

`expand` finds the paths that a pattern with wildcards matches below a root directory. It works on the
last segment of the pattern within the directories that the rest of the pattern matches. The segment
"**" matches a directory and all that lies below it. Names that begin with a dot match a wildcard only
if hidden names are wanted, or if the pattern begins with a dot too.
-/

namespace ConfigTokens.Glob

open ConfigTokens.Path

/-- Where and how a pattern is matched. -/
structure Scope (Content : Type) where
  tree : FileTree Content
  cwd : List String
  root : List Char
  hidden : Bool

/-- A null character in the path of a directory that has to be read. -/
inductive Fault where
  | embeddedNull
  deriving DecidableEq, Repr

/-- A directory and a name in it; an empty part adds nothing. -/
def beneath
    (directory name : List Char) : List Char :=
  if directory = [] then name
  else if name = [] then directory
  else join directory name

/-- A name that begins with a dot. -/
def isHidden
    (name : List Char) : Bool :=
  name.head? = some '.'

namespace Scope

variable {Content : Type}

/-- A path is a directory. -/
def isDirectory
    (scope : Scope Content)
    (path : List Char) : Bool :=
  scope.tree.isDirectory scope.cwd (String.ofList path)

/-- Something stands at a path. -/
def isPresent
    (scope : Scope Content)
    (path : List Char) : Bool :=
  scope.tree.isPresent scope.cwd (String.ofList path)

/-- The names in a directory, or only those of directories; no path means the working directory. -/
def list
    (scope : Scope Content)
    (directoriesOnly : Bool)
    (directory : List Char) : Except Fault (List (List Char)) :=
  if directory.contains '\x00' then .error .embeddedNull
  else
    let place := if directory = [] then here else directory
    let names := (scope.tree.list scope.cwd (String.ofList place)).map String.toList
    .ok (if directoriesOnly then names.filter fun name => scope.isDirectory (join place name)
      else names)

/-- The names in a directory that a pattern of one segment accepts. -/
def matchNames
    (scope : Scope Content)
    (directoriesOnly : Bool)
    (directory pattern : List Char) : Except Fault (List (List Char)) := do
  let names ← scope.list directoriesOnly directory
  let visible :=
    if scope.hidden || !isHidden pattern then
      names.filter fun name => scope.hidden || !isHidden name
    else names
  return visible.filter (Wildcard.accepts pattern)

/-- A name that is in a directory; the empty name is in every directory. -/
def matchLiteral
    (scope : Scope Content)
    (directory name : List Char) : List (List Char) :=
  if name = [] then if scope.isDirectory directory then [name] else []
  else if scope.isPresent (beneath directory name) then [name] else []

/-- All paths below a directory; `depth` bounds how far down they go. -/
def descend
    (scope : Scope Content)
    (directoriesOnly : Bool) :
    Nat → List Char → Except Fault (List (List Char))
  | 0, _ => .ok []
  | depth + 1, directory => do
    let names ← scope.list directoriesOnly directory
    let visible := names.filter fun name => scope.hidden || !isHidden name
    let below ← visible.mapM fun name => do
      let paths ← scope.descend directoriesOnly depth (beneath directory name)
      return name :: paths.map (beneath name)
    return below.flatten

/-- A directory, as the empty path, and all that lies below it. -/
def matchBelow
    (scope : Scope Content)
    (directoriesOnly : Bool)
    (directory : List Char) : Except Fault (List (List Char)) := do
  let self := if directory = [] || scope.isDirectory directory then [[]] else []
  let paths ← scope.descend directoriesOnly (scope.tree.entries.length + 1) directory
  return self ++ paths

/-- The paths in a directory that a last segment matches. -/
def matchLast
    (scope : Scope Content)
    (directoriesOnly : Bool)
    (directory pattern : List Char) : Except Fault (List (List Char)) :=
  if pattern = Wildcard.anySegments then scope.matchBelow directoriesOnly directory
  else if Wildcard.isMagic pattern then scope.matchNames directoriesOnly directory pattern
  else .ok (scope.matchLiteral directory pattern)

/-- The paths that a pattern matches, in the order of the walk; `fuel` bounds the pattern's segments. -/
def expandFrom
    (scope : Scope Content) :
    Nat → Bool → List Char → Except Fault (List (List Char))
  | 0, _, _ => .ok []
  | fuel + 1, directoriesOnly, pattern =>
    let front := directory pattern
    let last := baseName pattern
    if !Wildcard.isMagic pattern then
      if last = [] then
        .ok (if scope.isDirectory (beneath scope.root front) then [pattern] else [])
      else .ok (if scope.isPresent (beneath scope.root pattern) then [pattern] else [])
    else if front = [] then scope.matchLast directoriesOnly scope.root last
    else do
      let directories ←
        if Wildcard.isMagic front then scope.expandFrom fuel true front else .ok [front]
      let found ← directories.mapM fun directory => do
        let names ← scope.matchLast directoriesOnly (beneath scope.root directory) last
        return names.map (join directory)
      return found.flatten

/-- The paths that a pattern matches; the root itself, which has the empty path, is left out. -/
def expand
    (scope : Scope Content)
    (pattern : List Char) : Except Fault (List (List Char)) := do
  let found ← scope.expandFrom (pattern.length + 1) false pattern
  if pattern = [] || pattern.take 2 = Wildcard.anySegments then
    match found with
    | [] :: rest => return rest
    | _ => return found
  else return found

end Scope

end ConfigTokens.Glob
