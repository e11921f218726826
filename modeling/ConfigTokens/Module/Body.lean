import ConfigTokens.Module.Reference
import ConfigTokens.Module.Site
import ConfigTokens.Module.Target
/-!
# Running module bodies

A body runs step by step on the globals of its module. What it requires or imports is loaded by a
`Loader`, which is a parameter here: the loads that a body starts are those of a nested loader.
-/

namespace ConfigTokens.Module

/-- The loads that a module body can start. -/
structure Loader where
  /-- Loads what a token refers to for a base directory. -/
  require (base token : String) : Run Export
  /-- Imports a module by its full name. -/
  importModule (name : String) : Run ObjectId

namespace Body

/-- A global of a module. -/
def global
    (self : ObjectId)
    (name : String) : Run Value := do
  match (← Run.moduleOf self).globals.lookup name with
  | some value => return value
  | none => throw (.unknownName name)

/-- An attribute of a value that must be there. -/
def member
    (value : Value)
    (name : String) : Run Value := do
  let world ← get
  match attribute? world value name with
  | some found => return found
  | none => throw (.unknownAttribute (attributeOwner world value) name)

/-- Loads what a token refers to beside the file of the body. -/
def require
    (loader : Loader)
    (self : ObjectId)
    (token : String) : Run Value := do
  let base := Path.directoryText (((← Run.moduleOf self).file?).getD "")
  let answer ← loader.require base token
  Run.notify (.required self base token answer)
  return answer.value

/-- The code of a failure, or the name of its class. -/
def failureCode
    (thrown : Thrown) : String :=
  match thrown.reported? with
  | some (error, _) => error.code
  | none => thrown.className

/-- The same as `require`; a failure becomes its code. -/
def tryRequire
    (loader : Loader)
    (self : ObjectId)
    (token : String) : Run Value :=
  tryCatch (require loader self token) fun thrown =>
    if thrown.isOrdinary then return .str (failureCode thrown) else throw thrown

/-- Imports a submodule in case a name stands for one; that there is none is no failure. -/
def importMember
    (loader : Loader)
    (name : String) : Run Unit :=
  tryCatch (discard (loader.importModule name)) fun thrown =>
    match thrown with
    | .importing fault => if fault.missingModule? = some name then pure () else throw thrown
    | _ => throw thrown

/-- An attribute of a module, or the submodule that the table has under its name. -/
def attributeOrSubmodule
    (id : ObjectId)
    (content : ModuleObject)
    (name : String) : Run Value := do
  match attribute? (← get) (.module id) name with
  | some found => return found
  | none =>
    match ← Run.tabled? (content.name ++ "." ++ name) with
    | some submodule => return .module submodule
    | none => throw (.importing (.missingName name content.name content.file? content.initialising))

/-- The member of an imported module: an attribute, or a submodule. -/
def importedMember
    (loader : Loader)
    (id : ObjectId)
    (name : String) : Run Value := do
  let content ← Run.moduleOf id
  if content.searchPath.isSome && (attribute? (← get) (.module id) name).isNone then
    importMember loader (content.name ++ "." ++ name)
  attributeOrSubmodule id content name

/-- A member of a module of the same package. -/
def fromImport
    (loader : Loader)
    (self : ObjectId)
    (source name : String) : Run Value := do
  let package := (← Run.moduleOf self).package
  if package = "" then throw (.importing .noParentPackage)
  let id ← loader.importModule (package ++ "." ++ source)
  importedMember loader id name

/-- Runs one step. -/
def runStep
    (loader : Loader)
    (self : ObjectId) : Step → Run Unit
  | .assign name literal => do
    let value ← literal.build
    Run.setGlobal self name value
  | .log text => Run.trace text
  | .raise className text => throw (.raised className text)
  | .require name token => do
    let value ← require loader self token
    Run.setGlobal self name value
  | .tryRequire name token => do
    let value ← tryRequire loader self token
    Run.setGlobal self name value
  | .peek name owner member => do
    let owner ← global self owner
    let found := attribute? (← get) owner member
    Run.setGlobal self name (found.getD .null)
  | .copy name source members => do
    let start ← global self source
    let value ← members.foldlM member start
    Run.setGlobal self name value
  | .fromImport name source member => do
    let value ← fromImport loader self source member
    Run.setGlobal self name value
  | .mention name => discard (global self name)

/-- Runs steps in order. -/
def runSteps
    (loader : Loader)
    (self : ObjectId) : List Step → Run Unit
  | [] => pure ()
  | step :: rest => do
    runStep loader self step
    runSteps loader self rest

/-- Runs the program in a file as the body of a module. -/
def run
    (site : Site)
    (loader : Loader)
    (self : ObjectId)
    (file : String) : Run Unit :=
  match site.program file with
  | .error thrown => throw thrown
  | .ok .broken => throw (.invalidSource (Path.baseNameText file))
  | .ok (.steps steps) => runSteps loader self steps

end Body

end ConfigTokens.Module
