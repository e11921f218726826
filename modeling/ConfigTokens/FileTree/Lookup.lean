import ConfigTokens.FileTree.Basic
import ConfigTokens.Text.Cut
import ConfigTokens.Text.Quoted
import ConfigTokens.Text.Utf8
/-!
# Finding a path in a tree

`walk` follows a path name by name: "." stays, ".." goes to the parent, a link is followed, and at most
forty links are followed for one path. Only a directory has anything below it. The last name may be a
link that is not followed. A path with a null character, or one that is too long, denotes nothing.
-/

namespace ConfigTokens

/-- Why a path denotes nothing, or nothing that can be read. -/
inductive PathFault where
  | notFound
  | notDirectory
  | isDirectory
  | nameTooLong
  | tooManyLinks
  deriving DecidableEq, Repr

namespace PathFault

/-- The number that the operating system has for a fault. -/
def number : PathFault → Nat
  | .notFound => 2
  | .notDirectory => 20
  | .isDirectory => 21
  | .nameTooLong => 36
  | .tooManyLinks => 40

/-- The wording of the operating system. -/
def text : PathFault → String
  | .notFound => "No such file or directory"
  | .notDirectory => "Not a directory"
  | .isDirectory => "Is a directory"
  | .nameTooLong => "File name too long"
  | .tooManyLinks => "Too many levels of symbolic links"

/-- The message about a path. -/
def message
    (fault : PathFault)
    (path : String) : String :=
  s!"[Errno {fault.number}] {fault.text}: " ++ Text.quoted path

end PathFault

namespace FileTree

variable {Content : Type}

/-- The names in a path, with an empty one where slashes meet or end. -/
def namesOf
    (path : String) : List String :=
  (Text.fields '/' path.toList).map String.ofList

/-- A path starts at the root. -/
def isRooted
    (path : String) : Bool :=
  path.toList.head? = some '/'

/-- The number of bytes of a name. -/
def byteLength
    (name : String) : Nat :=
  (Text.utf8Bytes name).length

/-- A path text of names from the root. -/
def pathText
    (path : List String) : String :=
  "/" ++ "/".intercalate path

/--
Follows names from a place in the tree. `links` is how many more links may be followed; `follow` says
whether a link at the end is followed. The result is the place without links, and what stands there.
-/
def walk
    (tree : FileTree Content)
    (follow : Bool) :
    Nat → List String → List String → Except PathFault (List String × Entry Content)
  | _, place, [] =>
    match tree.entry? place with
    | some entry => .ok (place, entry)
    | none => .error .notFound
  | links, place, name :: rest =>
    match tree.entry? place with
    | none => .error .notFound
    | some (.file _) | some (.link _) => .error .notDirectory
    | some .directory =>
      if name = "" || name = "." then walk tree follow links place rest
      else if name = ".." then walk tree follow links place.dropLast rest
      else if 255 < byteLength name then .error .nameTooLong
      else
        match tree.entry? (place ++ [name]) with
        | none => .error .notFound
        | some (.link target) =>
          if rest = [] && !follow then .ok (place ++ [name], .link target)
          else
            match links with
            | 0 => .error .tooManyLinks
            | links + 1 =>
              walk tree follow links (if isRooted target then [] else place)
                (namesOf target ++ rest)
        | some _ => walk tree follow links (place ++ [name]) rest
  termination_by links _ names => (links, names.length)

/-- The links that are followed for one path. -/
def linkLimit : Nat :=
  40

/-- Finds a path text from a working directory. -/
def find
    (tree : FileTree Content)
    (follow : Bool)
    (cwd : List String)
    (path : String) : Except PathFault (List String × Entry Content) :=
  if path = "" || path.toList.contains '\x00' then .error .notFound
  else if 4096 ≤ byteLength path then .error .nameTooLong
  else tree.walk follow linkLimit (if isRooted path then [] else cwd) (namesOf path)

/-- A file, through links. -/
def isFile
    (tree : FileTree Content)
    (cwd : List String)
    (path : String) : Bool :=
  match tree.find true cwd path with
  | .ok (_, .file _) => true
  | _ => false

/-- A directory, through links. -/
def isDirectory
    (tree : FileTree Content)
    (cwd : List String)
    (path : String) : Bool :=
  match tree.find true cwd path with
  | .ok (_, .directory) => true
  | _ => false

/-- Something stands at the path, be it a link without a target. -/
def isPresent
    (tree : FileTree Content)
    (cwd : List String)
    (path : String) : Bool :=
  match tree.find false cwd path with
  | .ok _ => true
  | .error _ => false

/-- The path without links of something that is there. -/
def realPath?
    (tree : FileTree Content)
    (cwd : List String)
    (path : String) : Option String :=
  match tree.find true cwd path with
  | .ok (place, _) => some (pathText place)
  | .error _ => none

/-- The content of a file. -/
def read
    (tree : FileTree Content)
    (cwd : List String)
    (path : String) : Except PathFault Content :=
  match tree.find true cwd path with
  | .ok (_, .file content) => .ok content
  | .ok _ => .error .isDirectory
  | .error fault => .error fault

/-- The names in a directory that a path denotes; none where there is no directory. -/
def list
    (tree : FileTree Content)
    (cwd : List String)
    (path : String) : List String :=
  match tree.find true cwd path with
  | .ok (place, .directory) => tree.names place
  | _ => []

end FileTree

end ConfigTokens
