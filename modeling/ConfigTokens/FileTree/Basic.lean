/-!
# File trees

A tree of files, directories and symbolic links, kept as a list of entries by path from the root. The
content of a file is left open. `insert` makes the directories on the way and `remove` takes an entry
with all that lies below it.
-/

namespace ConfigTokens

/-- What stands at a path. -/
inductive Entry (Content : Type) where
  | directory
  | file (content : Content)
  | link (target : String)
  deriving Repr, Inhabited

/-- Entries by path; a path is the list of its names from the root, and the root is not listed. -/
structure FileTree (Content : Type) where
  entries : List (List String × Entry Content)

namespace FileTree

variable {Content : Type}

/-- The tree with nothing but its root. -/
def empty : FileTree Content :=
  ⟨[]⟩

/-- What stands at a path, without following a link. -/
def entry?
    (tree : FileTree Content)
    (path : List String) : Option (Entry Content) :=
  if path = [] then some .directory else tree.entries.lookup path

/-- Puts an entry at a path, in place of one that is there. -/
def put
    (tree : FileTree Content)
    (path : List String)
    (entry : Entry Content) : FileTree Content :=
  ⟨tree.entries.filter (fun known => known.1 ≠ path) ++ [(path, entry)]⟩

/-- The paths from the root to a path, the path itself left out. -/
def ancestors
    (path : List String) : List (List String) :=
  (List.range path.length).map fun count => path.take count

/-- Puts an entry at a path and directories at those above it that are missing. -/
def insert
    (tree : FileTree Content)
    (path : List String)
    (entry : Entry Content) : FileTree Content :=
  let grown := (ancestors path).foldl
    (fun tree above => if (tree.entry? above).isNone then tree.put above .directory else tree) tree
  grown.put path entry

/-- Takes away a path and all that lies below it. -/
def remove
    (tree : FileTree Content)
    (path : List String) : FileTree Content :=
  ⟨tree.entries.filter fun known => !path.isPrefixOf known.1⟩

/-- The names in a directory. -/
def names
    (tree : FileTree Content)
    (path : List String) : List String :=
  tree.entries.filterMap fun known =>
    if known.1.dropLast = path then known.1.getLast? else none

end FileTree

end ConfigTokens
