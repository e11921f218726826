import ConfigTokens.Module.Import
/-!
# Loading modules

A registry answers for each resolved specifier with one export. A file module is put into its registry
and into the table before its body runs, so that a cycle of requires finds the module as far as it has
come; a module that fails is taken out of both again, and its failure becomes the cause of a reported
error. `Loader.forSite` ties the knot: the bodies that a load runs load with a nested loader, as deep as
the interpreter allows; loads that are nested deeper fail.
-/

namespace ConfigTokens.Module

/-- The error of a load that failed for a cause; `kind` says what was to be loaded. -/
def loadErrorOf
    (kind specifier : String)
    (cause : Thrown) : Thrown :=
  .chained (.ofLoad s!"Cannot load {kind} '{specifier}': {cause.message}" specifier) .none cause

/-- The error of a module that failed to load. -/
def loadError
    (specifier : String)
    (cause : Thrown) : Thrown :=
  loadErrorOf "module" specifier cause

/-- The error of data that failed to load. -/
def documentError
    (specifier : String)
    (cause : Thrown) : Thrown :=
  loadErrorOf "JSON module" specifier cause

/-- The module of a file before its body has run. -/
def freshFileModule
    (key : String) : ModuleObject :=
  let name := synthesizedName key
  if isPackageFile key then
    ModuleObject.fresh name (some key) name (some (Path.directoryText key))
  else ModuleObject.fresh name (some key) "" none

/--
Undoes the entries of a file module that failed, and reports the failure. A request to end is no
failure, and the module stays as it is.
-/
def closeFailedBody
    (site : Site)
    (key : String)
    (id : ObjectId)
    (thrown : Thrown) : Run Unit := do
  if thrown.isOrdinary then
    Run.untabulate (synthesizedName key)
    Run.leave site.registry key
    Run.notify (.moduleDiscarded site.registry key thrown.message)
    throw (loadError key thrown)
  else
    Run.notify (.bodyAbandoned site.registry key id)
    throw thrown

/-- Loads a file as a module by running its body. -/
def loadSource
    (site : Site)
    (loader : Loader)
    (key : String) : Run Export := do
  let id ← Run.allocate (.module (freshFileModule key))
  Run.enter site.registry key (.module id)
  Run.tabulate (synthesizedName key) id
  Run.notify (.bodyStarted site.registry key id)
  tryCatch (Body.run site loader id key) (closeFailedBody site key id)
  Run.notify (.bodyEnded site.registry key (synthesizedName key) id)
  return .module id

/-- Loads a file as data. -/
def loadDocument
    (site : Site)
    (key : String) : Run Export :=
  match site.document key with
  | .ok content => do
    let id ← Run.allocate (.document content)
    Run.notify (.documentLoaded site.registry key (.data id content))
    Run.enter site.registry key (.data id content)
    return .data id content
  | .error thrown =>
    match thrown with
    | .document (.tooDeep _) => throw thrown
    | _ => throw (documentError key thrown)

/-- Loads a file that its registry has no answer for. -/
def loadFile
    (site : Site)
    (loader : Loader)
    (key : String) : Run Export :=
  if isDocument key then loadDocument site key else loadSource site loader key

/-- The answer of a registry for a key, which is loaded if there is none yet. -/
def loadKey
    (registry : RegistryName)
    (key : String)
    (load : Run Export) : Run Export := do
  let found ← Run.answered? registry key
  Run.notify (.asked registry key found)
  found.elim load pure

/-- Loads the file that a path stands for. -/
def loadPath
    (site : Site)
    (loader : Loader)
    (path : String) : Run Export :=
  match site.findFile path with
  | none =>
    throw <| .reported (.notFound path) <|
      .withDetails (.object [("candidates_tried", .array ((candidates path).map Json.str))])
  | some file => loadKey site.registry (site.key file) (loadFile site loader (site.key file))

/-- The key under which a registry keeps an import. -/
def importKey
    (name : String) : String :=
  "module:" ++ name

theorem importKey_injective
    {name other : String}
    (same : importKey name = importKey other) :
    name = other := by
  have texts : "module:".toList ++ name.toList = "module:".toList ++ other.toList := by
    simpa [importKey] using congrArg String.toList same
  exact String.toList_injective (List.append_cancel_left texts)

/-- The keys of imports are apart from those of files. -/
theorem isRooted_importKey
    (name : String) :
    FileTree.isRooted (importKey name) = false := by
  simp [FileTree.isRooted, importKey]

theorem importKey_ne_of_isRooted
    {file name : String}
    (rooted : FileTree.isRooted file = true) :
    importKey name ≠ file := by
  rintro rfl
  rw [isRooted_importKey] at rooted
  cases rooted

/-- Reports an import that failed. -/
def reportImport
    (site : Site)
    (specifier : String)
    (thrown : Thrown) : Run ObjectId := do
  if thrown.isOrdinary then
    Run.notify (.importFailed site.registry specifier thrown.message)
    throw (loadError specifier thrown)
  else throw thrown

/-- Imports a module that its registry has no answer for. -/
def loadImport
    (site : Site)
    (loader : Loader)
    (specifier name : String) : Run Export := do
  let id ← tryCatch (importAbsolute site loader name) (reportImport site specifier)
  Run.enter site.registry (importKey name) (.module id)
  Run.notify (.imported site.registry specifier name)
  return .module id

/-- Loads a module by name. -/
def loadName
    (site : Site)
    (loader : Loader)
    (specifier : String) : Run Export :=
  let name := dottedName specifier
  loadKey site.registry (importKey name) (loadImport site loader specifier name)

/-- The name of the handler that loads modules. -/
def requireHandler : String :=
  "require"

/-- Loads what a token refers to for a base directory. -/
def requireToken
    (site : Site)
    (loader : Loader)
    (base token : String) : Run Export :=
  let base := Path.absoluteText site.cwdText base
  let load :=
    if isFileReference token then loadPath site loader (site.anchor base token)
    else loadName site loader token
  tryCatch load fun thrown =>
    throw <| thrown.relabel fun context =>
      { context with handler := some requireHandler, token := some token, baseDir := some base }

namespace Loader

/-- The loader of a site whose bodies load with a nested loader. -/
def layer
    (site : Site)
    (nested : Loader) : Loader where
  require := requireToken site nested
  importModule := Module.importModule site nested

/-- The loader of a site with a bound on the nesting of bodies. -/
def ofDepth
    (site : Site) : Nat → Loader
  | 0 => ⟨fun _ _ => throw .tooDeep, fun _ => throw .tooDeep⟩
  | depth + 1 => layer site (ofDepth site depth)

end Loader

/-- How deep the loads nest that the bodies of a site start; deeper ones fail. -/
def Site.depth
    (site : Site) : Nat :=
  site.interpreter.nesting + 1

/-- The loader of a site. -/
def Loader.forSite
    (site : Site) : Loader :=
  ofDepth site site.depth

end ConfigTokens.Module
