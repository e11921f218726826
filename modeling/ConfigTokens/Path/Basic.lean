import ConfigTokens.Text.Cut
/-!
# Paths as text

Paths are text with "/" between segments. `normalise` resolves empty, "." and ".." segments by the
text alone; `absolute` anchors a path to a working directory first. A lead of exactly two slashes is
kept by `normalise`, as the standard for such paths allows, and `collapseLead` removes it.
-/

namespace ConfigTokens.Path

open ConfigTokens.Text

/-- The segment that stays where it is. -/
def here : List Char :=
  ['.']

/-- The segment that goes to the parent. -/
def parent : List Char :=
  ['.', '.']

/-- A path that starts at the root. -/
def isAbsolute : List Char → Bool
  | '/' :: _ => true
  | _ => false

/-- The slashes that a normalised path keeps at its start: none, one, or exactly two. -/
def lead : List Char → List Char
  | '/' :: '/' :: '/' :: _ => ['/']
  | '/' :: '/' :: _ => ['/', '/']
  | '/' :: _ => ['/']
  | _ => []

/-- A path followed by another one; an absolute one stands alone. -/
def join
    (base path : List Char) : List Char :=
  if isAbsolute path then path
  else if base = [] || base.getLast? = some '/' then base ++ path
  else base ++ '/' :: path

/-- The segments of a path that hold text. -/
def segments
    (path : List Char) : List (List Char) :=
  (fields '/' path).filter (· ≠ [])

/--
Adds a segment to the segments read so far, last one first. A parent segment takes back the one
before it; with nothing to take back it vanishes at the root and stays in a relative path.
-/
def pushSegment
    (rooted : Bool)
    (read : List (List Char))
    (segment : List Char) : List (List Char) :=
  if segment = [] || segment = here then read
  else if segment = parent then
    match read with
    | [] => if rooted then [] else [parent]
    | last :: before => if last = parent then parent :: read else before
  else segment :: read

/-- The shortest path with the same meaning as far as the text tells; "." for an empty one. -/
def normalise
    (path : List Char) : List Char :=
  let read := (fields '/' path).foldl (pushSegment (isAbsolute path)) []
  let text := lead path ++ unite '/' read.reverse
  if text = [] then here else text

/-- The normalised path that a path denotes in a working directory. -/
def absolute
    (cwd path : List Char) : List Char :=
  normalise (join cwd path)

/-- Two or more slashes at the start become one. -/
def collapseLead : List Char → List Char
  | '/' :: '/' :: rest => '/' :: rest.dropWhile (· == '/')
  | path => path

/-- The part of a path up to and with its last slash, and the rest. -/
def cutLast
    (path : List Char) : List Char × List Char :=
  match beforeLast '/' path with
  | some (front, back) => (front ++ ['/'], back)
  | none => ([], path)

/-- The last segment of a path, empty after a slash at the end. -/
def baseName
    (path : List Char) : List Char :=
  (cutLast path).2

/-- A path without its last segment and the slashes before it; slashes alone stay. -/
def directory
    (path : List Char) : List Char :=
  let head := (cutLast path).1
  if head.all (· == '/') then head
  else (head.reverse.dropWhile (· == '/')).reverse

/-- A file name without its extension; dots at the start of the name begin none. -/
def stem
    (name : List Char) : List Char :=
  match beforeLast '.' name with
  | some (front, _) => if front.all (· == '.') then name else front
  | none => name

@[simp]
theorem isAbsolute_cons
    (rest : List Char) :
    isAbsolute ('/' :: rest) = true := rfl

theorem join_absolute
    {base path : List Char}
    (rooted : isAbsolute path = true) :
    join base path = path := by
  simp [join, rooted]

end ConfigTokens.Path
