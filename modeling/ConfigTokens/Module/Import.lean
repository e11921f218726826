import ConfigTokens.Module.Body
/-!
# Imports by name

A module is imported once and kept in the table. A dotted name imports the modules on the way first, and
each is bound as a global of the one above it. A module whose body fails is taken out of the table.
-/

namespace ConfigTokens.Module

/-- The package of a module with a full name, for its relative imports. -/
def packageOf
    (name parent : String) : ImportTarget → String
  | .package .. | .bare _ => name
  | .plain _ => parent

/-- Runs the body of an imported module, which is out of the table if the body does not end well. -/
def runImported
    (site : Site)
    (loader : Loader)
    (name : String)
    (id : ObjectId)
    (file : String) : Run Unit := do
  let mark (initialising : Bool) : Run Unit :=
    Run.changeModule id fun content => { content with initialising }
  mark true
  tryCatch (Body.run site loader id file) fun thrown => do
    Run.untabulate name
    mark false
    throw thrown
  mark false

/-- Imports what has been found under a name. -/
def importTarget
    (site : Site)
    (loader : Loader)
    (name parent : String)
    (target : ImportTarget) : Run ObjectId := do
  let id ← Run.allocate <| .module <|
    ModuleObject.fresh name target.file? (packageOf name parent target) target.searchPath
  Run.tabulate name id
  target.file?.forM (runImported site loader name id)
  Run.tabledOf name

/-- Finds a name in a directory and imports it. -/
def importIn
    (site : Site)
    (loader : Loader)
    (directory last name parent : String) : Run ObjectId :=
  match site.findImport directory last with
  | some target => importTarget site loader name parent target
  | none => throw (.importing (.notFound name))

/-- A name from its parts, the last one first. -/
def nameOfParts
    (parts : List String) : String :=
  ".".intercalate parts.reverse

/--
Makes sure that a module in the table can be searched. A directory without a body can be searched as
long as the module above it can; the parts are those of the module's name, the last one first.
-/
def checkSearch
    (content : ModuleObject) : List String → Run Unit
  | _ :: next :: rest => do
    if content.file?.isNone then
      let parent := nameOfParts (next :: rest)
      match ← Run.tabled? parent with
      | none => throw (.importing (.detached parent))
      | some id => do
        let above ← Run.moduleOf id
        if above.searchPath.isNone then
          throw (.unknownAttribute (attributeOwner (← get) (.module id)) "__path__")
        checkSearch above (next :: rest)
  | _ => pure ()

/-- Finds a submodule of a module that can be searched, and imports it. -/
def searchBelow
    (site : Site)
    (loader : Loader)
    (last name : String)
    (above : List String)
    (content : ModuleObject) : Run ObjectId :=
  match content.searchPath with
  | some directory => do
    checkSearch content above
    importIn site loader directory last name (nameOfParts above)
  | none => throw (.importing (.notPackage name (nameOfParts above)))

/-- Binds a submodule as a global of the module above it, which has to be in the table by then. -/
def bindSubmodule
    (parent last : String)
    (id : ObjectId) : Run Unit := do
  let holder ← Run.tabledOf parent
  Run.setGlobal holder last (.module id)

/-- Imports a submodule of a module in the table and binds it there. -/
def importBelow
    (site : Site)
    (loader : Loader)
    (last name : String)
    (above : List String) : Run ObjectId := do
  let parent := nameOfParts above
  match ← Run.tabled? name with
  | some id => return id
  | none =>
    let holder ← Run.tabledOf parent
    let id ← searchBelow site loader last name above (← Run.moduleOf holder)
    bindSubmodule parent last id
    return id

/-- Imports a module by the parts of its name, the last one first. -/
def importParts
    (site : Site)
    (loader : Loader) : List String → Run ObjectId
  | [] => throw (.importing .emptyName)
  | last :: above => do
    let name := nameOfParts (last :: above)
    let parent := nameOfParts above
    match ← Run.tabled? name with
    | some id => return id
    | none =>
      if parent = "" then importIn site loader site.importRoot last name parent
      else do
        if (← Run.tabled? parent).isNone then discard (importParts site loader above)
        importBelow site loader last name above

/-- Imports a module by its full name. -/
def importModule
    (site : Site)
    (loader : Loader)
    (name : String) : Run ObjectId :=
  if name = "" then throw (.importing .emptyName)
  else importParts site loader ((Text.fields '.' name.toList).map String.ofList).reverse

/-- Imports what a token names, which may not be relative. -/
def importAbsolute
    (site : Site)
    (loader : Loader)
    (name : String) : Run ObjectId :=
  if name.toList.head? = some '.' then throw (.importing (.relativeName name))
  else importModule site loader name

end ConfigTokens.Module
