import ConfigTokens.Codec.Decode
import ConfigTokens.Digest.Sha1
import ConfigTokens.Failure.Thrown
import ConfigTokens.FileTree.Lookup
import ConfigTokens.Module.Program
import ConfigTokens.Module.World
import ConfigTokens.Path.Anchor
import ConfigTokens.Text.LineEnds
import ConfigTokens.Text.Utf8
import ConfigTokens.Text.WordChar
/-!
# Sites

A site is where modules are found: the tree of files, the working directory and the directory for
imports by name, with the registry that answers and the interpreter that runs the bodies. `findFile` tries
the candidates for a path in order; `findImport` finds a name in a directory.
-/

namespace ConfigTokens.Module

open ConfigTokens.Path

/-- What programs leave to the interpreter that runs them. -/
structure Interpreter where
  /-- How many bodies a body may be nested in that can still load anything. -/
  nesting : Nat
  /-- What a call of an attribute that a type gives its values returns or throws; it changes no module. -/
  callAttribute : World → Value → String → Except Thrown Value

/-- An interpreter with the usual limit; what types give its values wants an argument. -/
def Interpreter.usual : Interpreter :=
  ⟨100, fun _ _ name => .error (.missingArgument name "object")⟩

/-- When a file was last changed, to the second, and its size, as far as 32 bits tell. -/
structure Stamp where
  second : UInt32
  size : UInt32
  deriving DecidableEq, Repr

/-- No file was ever changed, and none has a size. -/
def Stamp.blank : String → Stamp :=
  fun _ => ⟨0, 0⟩

/-- Where modules are found, the registry that answers, and the interpreter. -/
structure Site where
  tree : FileTree Content
  cwd : List String
  importRoot : String
  registry : RegistryName
  interpreter : Interpreter
  /-- What tells whether code that was kept for a file is still that of the file. -/
  stamp : String → Stamp := .blank

/-- The file name of a package's body. -/
def packageFile : String :=
  "__init__.py"

/-- What is added to a path to find a file. -/
def fileSuffixes : List String :=
  [".py", ".json"]

/-- The end of the names of files with data. -/
def documentSuffix : String :=
  ".json"

/-- A path ends like a file with data. -/
def isDocument
    (path : String) : Bool :=
  documentSuffix.toList.isSuffixOf path.toList

/-- The paths that a path may stand for, in the order of preference. -/
def candidates
    (path : String) : List String :=
  path :: fileSuffixes.map (path ++ ·) ++ [joinText path packageFile]

/-- A path is the body of a package. -/
def isPackageFile
    (path : String) : Bool :=
  baseNameText path == packageFile

/-- The name for the module of a file: its stem, and a digest of its path. -/
def synthesizedName
    (path : String) : String :=
  let last := stem (baseName path.toList)
  let last :=
    if last = stem packageFile.toList then baseName (directory path.toList) else last
  let safe := last.map fun c => if Text.isWordChar c then c else '_'
  "_shortstop_" ++ String.ofList safe ++ "_"
    ++ String.ofList ((Digest.Sha1.hexDigest (Text.utf8Bytes path)).take 12)

/-- What an import by name finds. -/
inductive ImportTarget where
  /-- A directory with a body. -/
  | package (file directory : String)
  | plain (file : String)
  /-- A directory without a body. -/
  | bare (directory : String)
  deriving DecidableEq, Repr

namespace ImportTarget

/-- The file with the body. -/
def file? : ImportTarget → Option String
  | .package file _ | .plain file => some file
  | .bare _ => none

/-- Where submodules are found. -/
def searchPath : ImportTarget → Option String
  | .package _ directory | .bare directory => some directory
  | .plain _ => none

end ImportTarget

namespace Site

/-- The working directory as a path. -/
def cwdText
    (site : Site) : String :=
  FileTree.pathText site.cwd

/-- The path that a token denotes for a base directory. -/
def anchor
    (site : Site)
    (base token : String) : String :=
  anchorText site.cwdText base token

/-- A path is a file. -/
def isFile
    (site : Site)
    (path : String) : Bool :=
  site.tree.isFile site.cwd path

/-- The first candidate for a path that is a file. -/
def findFile
    (site : Site)
    (path : String) : Option String :=
  (candidates path).find? site.isFile

/-- The key of a file: its path without links. -/
def key
    (site : Site)
    (file : String) : String :=
  (site.tree.realPath? site.cwd file).getD file

theorem isFile_of_findFile
    {site : Site}
    {path file : String}
    (chosen : site.findFile path = some file) :
    site.isFile file = true :=
  List.find?_some chosen

/-- The key of a file that was found starts at the root. -/
theorem isRooted_key
    {site : Site}
    {path file : String}
    (chosen : site.findFile path = some file) :
    FileTree.isRooted (site.key file) = true := by
  have present : site.tree.isFile site.cwd file = true := isFile_of_findFile chosen
  unfold FileTree.isFile at present
  unfold key FileTree.realPath?
  split at present
  case h_1 place content found => simp [found, FileTree.isRooted, FileTree.pathText]
  case h_2 => cases present

theorem isFile_of_find
    {site : Site}
    {file : String}
    {place : List String}
    {content : Content}
    (found : site.tree.find true site.cwd file = .ok (place, .file content)) :
    site.isFile file = true := by
  unfold isFile FileTree.isFile
  rw [found]

/-- A path that a place spells is its own key. -/
theorem key_of_find
    {site : Site}
    {file : String}
    {place : List String}
    {entry : Entry Content}
    (found : site.tree.find true site.cwd file = .ok (place, entry))
    (text : FileTree.pathText place = file) :
    site.key file = file := by
  unfold key FileTree.realPath?
  rw [found]
  exact text

/-- What a directory has under the last part of a name. -/
def findImport
    (site : Site)
    (directory name : String) : Option ImportTarget :=
  let names := site.tree.list site.cwd directory
  let base := directory ++ "/" ++ name
  let packageBody := base ++ "/" ++ packageFile
  let plain := base ++ ".py"
  if names.contains name && site.isFile packageBody then some (.package packageBody base)
  else if names.contains (name ++ ".py") && site.isFile plain then some (.plain plain)
  else if names.contains name && site.tree.isDirectory site.cwd base then some (.bare base)
  else none

/-- The program in a file. -/
def program
    (site : Site)
    (file : String) : Except Thrown Program :=
  match site.tree.read site.cwd file with
  | .error fault => .error (.unreadable fault file)
  | .ok (.program program) => .ok program
  | .ok (.bytes data) =>
    match Codec.decode "utf-8" "strict" data with
    | .ok text => .ok (Program.ofText (Text.unifyLineEnds text.toList))
    | .error _ => .ok .broken

theorem program_of_find
    {site : Site}
    {file : String}
    {place : List String}
    {program : Program}
    (found : site.tree.find true site.cwd file = .ok (place, .file (.program program))) :
    site.program file = .ok program := by
  unfold Site.program FileTree.read
  rw [found]

/-- The data in a file. -/
def document
    (site : Site)
    (file : String) : Except Thrown Json :=
  match site.tree.read site.cwd file with
  | .error fault => .error (.unreadable fault file)
  | .ok (.program _) => .error (.document (.malformed .expectingValue 1 1 0))
  | .ok (.bytes data) =>
    match Codec.decode "utf-8" "strict" data with
    | .error failure => .error (.decoding failure)
    | .ok text =>
      (Json.read (String.ofList (Text.unifyLineEnds text.toList))).mapError Thrown.document

end Site

end ConfigTokens.Module
