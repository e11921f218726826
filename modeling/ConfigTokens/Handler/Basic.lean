import ConfigTokens.Handler.Name
import ConfigTokens.Host
import ConfigTokens.Options.File
import ConfigTokens.Options.Glob
/-!
# Handlers

A handler keeps what it was made with: its base directory or options, its registry, or variables of its
own. `Handler.path` and the functions after it make handlers from arguments.
-/

namespace ConfigTokens

open ConfigTokens.Module

/-- A handler with what it keeps. -/
inductive Handler where
  | path (base : String)
  | file (base : String) (options : FileOptions)
  | base64
  /-- With variables of its own, or those of the host. -/
  | env (environment : Option (List (String × String)))
  | require (base : String) (registry : RegistryName)
  | exec (base : String) (registry : RegistryName)
  | glob (options : GlobOptions)

/-- An argument from which a handler is made. -/
inductive Argument (Options : Type) where
  | absent
  | path (text : String)
  | mapping (members : List (String × Json))
  | checked (options : Options)
  | other (typeName : String)

namespace Argument

/-- Data as an argument. -/
def ofJson {Options : Type} : Json → Argument Options
  | .null => .absent
  | .str text => .path text
  | .object members => .mapping members
  | value => .other (Value.ofJson value).typeName

end Argument

namespace Handler

/-- The protocol of a handler. -/
def name : Handler → HandlerName
  | .path _ => .path
  | .file .. => .file
  | .base64 => .base64
  | .env _ => .env
  | .require .. => .require
  | .exec .. => .exec
  | .glob _ => .glob

/-- The base directory of a handler. -/
def base? : Handler → Option String
  | .path base | .file base _ | .require base _ | .exec base _ => some base
  | .glob options => some options.cwd
  | .base64 | .env _ => none

/-- A path made absolute in the working directory. -/
def absolute
    (path : String) : Hosted String := do
  return Path.absoluteText (← get).cwdText path

/-- The base directory of an argument; the settings and the working directory stand in for it. -/
def baseDir {Options : Type} : Argument Options → Hosted String
  | .absent => do
    let settings ← Hosted.settings
    absolute (settings.baseDir.getD (← get).cwdText)
  | .path text => absolute text
  | .mapping _ => throw (.notPathLike "dict")
  | .checked _ => throw (.notPathLike "object")
  | .other typeName => throw (.notPathLike typeName)

/-- Makes a handler that anchors paths. -/
def newPath
    (base : Argument Unit) : Hosted Handler :=
  return .path (← baseDir base)

/-- Options for reading files; the settings give the encoding when there are none. -/
def fileOptions : Argument FileOptions → Hosted FileOptions
  | .absent => return .ofEncoding (← Hosted.settings).fileEncoding
  | .mapping members =>
    Hosted.ofExcept ((FileOptions.ofMembers members).mapError (Thrown.invalid FileOptions.modelName))
  | .checked options => return options
  | .path _ => throw (.unknownAttribute (.instanceOf "str") "encoding")
  | .other typeName => throw (.unknownAttribute (.instanceOf typeName) "encoding")

/-- Makes a handler that reads files; options may stand in the place of the base directory. -/
def newFile
    (base options : Argument FileOptions) : Hosted Handler := do
  match base with
  | .mapping _ | .checked _ =>
    let options ← fileOptions base
    return .file (← baseDir (.absent : Argument Unit)) options
  | _ =>
    let options ← fileOptions options
    return .file (← baseDir base) options

/-- Makes a handler that loads modules. -/
def newRequire
    (base : Argument Unit)
    (registry : RegistryName) : Hosted Handler :=
  return .require (← baseDir base) registry

/-- Makes a handler that calls what modules export. -/
def newExec
    (base : Argument Unit)
    (registry : RegistryName) : Hosted Handler :=
  return .exec (← baseDir base) registry

/-- The directory of a source file, or the working directory if there is no such file. -/
def callerDirectory
    (caller : String) : Hosted String := do
  let host ← get
  if host.tree.isFile host.cwd caller then return Path.directoryText (← absolute caller)
  else return host.cwdText

/-- A value that counts as none. -/
def isBlankValue : Json → Bool
  | .null | .bool false => true
  | .int value => value = 0
  | .float (.finite _ significand _) => significand = 0
  | .str text => text = ""
  | .array items => items.isEmpty
  | .object members => members.isEmpty
  | _ => false

/-- The directory for patterns: the one given, that of the settings, or a default. -/
def globDirectory
    (members : List (String × Json))
    (default : String) : Hosted String := do
  match members.lookup "cwd" with
  | some (.str text) =>
    if text = "" then absolute ((← Hosted.settings).baseDir.getD default) else absolute text
  | some value =>
    if isBlankValue value then absolute ((← Hosted.settings).baseDir.getD default)
    else throw (.notPathLike (Value.ofJson value).typeName)
  | none => absolute ((← Hosted.settings).baseDir.getD default)

/-- Checks the options for patterns; the settings say whether hidden names match by default. -/
def checkGlobOptions
    (members : List (String × Json)) : Hosted GlobOptions := do
  let dot ← if Assoc.contains members "dot" then pure false else (·.globDot) <$> Hosted.settings
  Hosted.ofExcept <|
    (GlobOptions.ofMembers dot members).mapError (Thrown.invalid GlobOptions.modelName)

/-- Options for patterns from members; the directory becomes absolute. -/
def globOptions
    (members : List (String × Json))
    (default : String) : Hosted GlobOptions := do
  let directory ← globDirectory members default
  checkGlobOptions (Assoc.put members "cwd" (.str directory))

/-- Makes a handler that matches patterns; `caller` is the source file of whoever makes it. -/
def newGlob
    (argument : Argument GlobOptions)
    (caller : String) : Hosted Handler := do
  let default ← callerDirectory caller
  match argument with
  | .checked options => return .glob options
  | .path text => return .glob (← globOptions [("cwd", .str text)] default)
  | .mapping members => return .glob (← globOptions members default)
  | .absent | .other _ => return .glob (← globOptions [] default)

end Handler

end ConfigTokens
