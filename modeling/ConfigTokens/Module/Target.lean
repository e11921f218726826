import ConfigTokens.Module.Build
/-!
# Targets of invocations

What a token finds can be invoked or is data. `classify` decides which: a module can be invoked if it
has a global for calls that can be called. `lookupMember` finds a member by name, an item of a mapping
and an attribute of anything else.
-/

namespace ConfigTokens.Module

/-- Something to invoke, or data. -/
inductive Target where
  | invokable (operation : Value)
  | data (value : Value)

/-- The global of a module that is called when the module is invoked. -/
def callGlobal : String :=
  "__call__"

/-- Attributes that a module has from its import beside its globals. -/
def ModuleObject.loadedWith
    (content : ModuleObject) : List String :=
  let ofFile := if (content.globals.lookup fileGlobal).isSome then ["__builtins__", "__cached__"] else []
  let ofPackage := if content.searchPath.isSome then ["__path__"] else []
  ["__doc__", "__loader__", "__package__", "__spec__"] ++ ofFile ++ ofPackage

/-- An attribute of a module: its globals come before what its type gives it, but for two names. -/
def ModuleObject.attribute?
    (content : ModuleObject)
    (id : ObjectId)
    (name : String) : Option Value :=
  if name = "__class__" then some .moduleClass
  else if name = "__dict__" then some .unexplored
  else
    (content.globals.lookup name).or <|
      if content.loadedWith.contains name then some .unexplored
      else (Value.module id).typeAttribute? name

/-- An attribute of an instance with attributes of its own. -/
def recordAttribute?
    (attributes : List (String × Value))
    (name : String) : Option Value :=
  let given := (Value.record attributes).typeAttribute? name
  if name = "__class__" || name = "__dict__" then given else (attributes.lookup name).or given

/-- An attribute of a value. -/
def attribute?
    (world : World)
    (value : Value)
    (name : String) : Option Value :=
  match value with
  | .module id => (world.module? id).bind (·.attribute? id name)
  | .record attributes => recordAttribute? attributes name
  | value => value.typeAttribute? name

/-- What a missing attribute is reported of. -/
def attributeOwner
    (world : World) : Value → AttributeOwner
  | .module id =>
    match world.module? id with
    | some content => .module content.name content.initialising
    | none => .instanceOf "module"
  | .classType name => .classType name
  | value => .instanceOf value.typeName

/-- Tells something to invoke from data. -/
def classify
    (world : World)
    (value : Value) : Target :=
  match value with
  | .module id =>
    match (world.module? id).bind (·.globals.lookup callGlobal) with
    | some hook => if hook.isCallable then .invokable hook else .data value
    | none => .data value
  | value => if value.isCallable then .invokable value else .data value

/-- The member of a value with a name. -/
def lookupMember
    (world : World)
    (value : Value)
    (name : String) : Option Target :=
  match value with
  | .mapping members => (members.lookup name).map (classify world)
  | value => (attribute? world value name).map (classify world)

end ConfigTokens.Module
