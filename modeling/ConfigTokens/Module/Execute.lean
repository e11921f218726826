import ConfigTokens.Module.Load
/-!
# Executing tokens

To execute a token is to load its module, to find its member, and to call what was found once. A
target that is missing or cannot be called is reported with the whole token.
-/

namespace ConfigTokens.Module

/-- The name of the handler that calls what a token refers to. -/
def execHandler : String :=
  "exec"

/-- Loads the module of a token; an error of the load names the whole token. -/
def loadReference
    (site : Site)
    (loader : Loader)
    (base token : String) : Run Export :=
  tryCatch (requireToken site loader base (Reference.parse token).module) fun thrown =>
    throw <| thrown.relabel fun context =>
      { context with handler := some execHandler, token := some token }

/-- What a token refers to in what its module exports. -/
def findTarget
    (world : World)
    (value : Value) : Option String → Option Target
  | some name => lookupMember world value name
  | none => some (classify world value)

/-- Ends a call of a function as its outcome says; what it requires loads as the bodies of modules do. -/
def finish
    (loader : Loader)
    (id : ObjectId)
    (content : FunctionObject) : Run Value :=
  match content.outcome with
  | .raises className text => throw (.raised className text)
  | .counts next => do
    modify fun world =>
      world.setObject id (.function { content with outcome := .counts (next + 1) })
    return .int next
  | .returns answer => answer.build
  | .requires base token => do
    let answer ← loader.require base token
    return answer.value

/-- Calls a value without arguments. -/
def invoke
    (interpreter : Interpreter)
    (loader : Loader) : Value → Run Value
  | .function id => do
    match (← get).function? id with
    | some content =>
      content.log.forM Run.trace
      finish loader id content
    | none => throw (.notCallable "function")
  | .answering answer => return answer
  | .classType name => return .instanceOf name
  | .moduleClass => throw (.missingArgument "module" "name")
  | .bound owner name => do
    match interpreter.callAttribute (← get) owner name with
    | .ok answer => return answer
    | .error thrown => throw thrown
  | value => throw (.notCallable value.typeName)

/-- Calls what a token refers to in the module that was loaded for it. -/
def invokeLoaded
    (site : Site)
    (loader : Loader)
    (base token : String)
    (loaded : Export) : Run Value := do
  let member := (Reference.parse token).member
  match findTarget (← get) loaded.value member with
  | some (.invokable operation) => invoke site.interpreter loader operation
  | _ =>
    Run.notify (.targetMissing token)
    let base := Path.absoluteText site.cwdText base
    throw (.reported (.targetMissing token member) (.ofHandler execHandler token base))

/-- Loads what a token refers to and calls it. -/
def executeToken
    (site : Site)
    (loader : Loader)
    (base token : String) : Run Value := do
  let loaded ← loadReference site loader base token
  invokeLoaded site loader base token loaded

end ConfigTokens.Module
