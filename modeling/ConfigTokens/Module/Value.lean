import ConfigTokens.Json.Basic
import ConfigTokens.Module.Builtin
import ConfigTokens.Module.Literal
/-!
# Values

Functions and modules have an identity, which a value refers to by number; all other values are data
or are known by their parts. `Object` is what a number stands for. An `Export` is what a load gives:
a module, or data from a file of JSON under an identity of its own.
-/

namespace ConfigTokens.Module

/-- The number of an object. -/
abbrev ObjectId :=
  Nat

/-- A value that a program can hold. -/
inductive Value where
  | null
  | bool (value : Bool)
  | int (value : Int)
  | float (value : Binary64)
  | str (value : String)
  | bytes (value : List UInt8)
  | list (items : List Value)
  | mapping (members : List (String × Value))
  | function (id : ObjectId)
  | module (id : ObjectId)
  /-- The class of all modules. -/
  | moduleClass
  | classType (name : String)
  /-- An instance of a class without attributes of its own. -/
  | instanceOf (className : String)
  /-- An instance that can be called, with the answer that it gives. -/
  | answering (answer : Value)
  /-- An instance that cannot be called, with its attributes. -/
  | record (attributes : List (String × Value))
  /-- What a type gives a value to call under a name. -/
  | bound (owner : Value) (name : String)
  deriving Inhabited

namespace Value

mutual

/-- Data as a value. -/
def ofJson : Json → Value
  | .null => .null
  | .bool value => .bool value
  | .int value => .int value
  | .float value => .float value
  | .str value => .str value
  | .array items => .list (ofItems items)
  | .object members => .mapping (ofMembers members)

/-- Items as values. -/
def ofItems : List Json → List Value
  | [] => []
  | item :: rest => ofJson item :: ofItems rest

/-- Members as values. -/
def ofMembers : List (String × Json) → List (String × Value)
  | [] => []
  | (name, value) :: rest => (name, ofJson value) :: ofMembers rest

end

/-- The type of a value. -/
def type : Value → ValueType
  | .null => .null
  | .bool _ => .bool
  | .int _ => .int
  | .float _ => .float
  | .str _ => .str
  | .bytes _ => .bytes
  | .list _ => .list
  | .mapping _ => .mapping
  | .function _ => .function
  | .module _ => .module
  | .moduleClass | .classType _ => .classType
  | .instanceOf _ | .record _ => .plain
  | .answering _ => .callable
  | .bound .. => .method

/-- The name of a value's type. -/
def typeName : Value → String
  | .null => "NoneType"
  | .bool _ => "bool"
  | .int _ => "int"
  | .float _ => "float"
  | .str _ => "str"
  | .bytes _ => "bytes"
  | .list _ => "list"
  | .mapping _ => "dict"
  | .function _ => "function"
  | .module _ => "module"
  | .moduleClass | .classType _ => "type"
  | .instanceOf className => className
  | .answering _ | .record _ => "object"
  | .bound owner name =>
    if owner.type.given? name = some .operator then "method-wrapper"
    else "builtin_function_or_method"

/-- The value can be called. -/
def isCallable : Value → Bool
  | .function _ | .moduleClass | .classType _ | .answering _ | .bound .. => true
  | _ => false

/-- Data that nothing is known of. -/
def unexplored : Value :=
  .record []

/-- An integer that is a part of an integer as a fraction or as a complex number. -/
def integerPart?
    (value : Int)
    (name : String) : Option Int :=
  if name = "real" || name = "numerator" then some value
  else if name = "imag" then some 0
  else if name = "denominator" then some 1
  else none

/-- A number that is a part of a number. -/
def part?
    (value : Value)
    (name : String) : Option Value :=
  match value with
  | .bool value => (integerPart? value.toInt name).map .int
  | .int value => (integerPart? value name).map .int
  | .float value =>
    if name = "real" then some (.float value)
    else if name = "imag" then some (.float (.zero false))
    else none
  | _ => none

/-- An attribute that a value owes to its type. -/
def typeAttribute?
    (value : Value)
    (name : String) : Option Value :=
  (value.part? name).or <|
    (value.type.given? name).map fun given =>
      if given.isCallable then .bound value name else unexplored

end Value

/-- A module: its globals, the package for its relative imports, and where its submodules are found. -/
structure ModuleObject where
  globals : List (String × Value)
  package : String
  searchPath : Option String
  /-- An import by name is running its body. -/
  initialising : Bool

/-- A function: the text it logs, and how its next call ends. -/
structure FunctionObject where
  log : Option String
  outcome : Outcome

/-- What an identity stands for. -/
inductive Object where
  | module (content : ModuleObject)
  | function (content : FunctionObject)
  | document (content : Json)

/-- What a load gives. -/
inductive Export where
  | module (id : ObjectId)
  | data (id : ObjectId) (content : Json)

namespace Export

/-- The identity of an export. -/
def id : Export → ObjectId
  | .module id | .data id _ => id

/-- An export as a value. -/
def value : Export → Value
  | .module id => .module id
  | .data _ content => .ofJson content

end Export

/-- The global that holds a module's name. -/
def nameGlobal : String :=
  "__name__"

/-- The global that holds the path of a module's file. -/
def fileGlobal : String :=
  "__file__"

namespace ModuleObject

/-- A module with its name and, if it has one, its file. -/
def fresh
    (name : String)
    (file : Option String)
    (package : String)
    (searchPath : Option String) : ModuleObject where
  globals := (nameGlobal, .str name) :: (file.map fun path => (fileGlobal, .str path)).toList
  package := package
  searchPath := searchPath
  initialising := false

/-- A global with text. -/
def text?
    (content : ModuleObject)
    (name : String) : Option String :=
  match content.globals.lookup name with
  | some (.str value) => some value
  | _ => none

/-- The name of a module. -/
def name
    (content : ModuleObject) : String :=
  (content.text? nameGlobal).getD "?"

/-- The path of the module's file. -/
def file?
    (content : ModuleObject) : Option String :=
  content.text? fileGlobal

end ModuleObject

end ConfigTokens.Module
