import ConfigTokens.Module.World
/-!
# Making values

`Literal.build` makes the value that a literal describes, with new functions and modules in it.
-/

namespace ConfigTokens.Module.Literal

/-- The name of modules that are made without a file. -/
def looseModuleName : String :=
  "synthetic"

mutual

/-- Makes the value of a literal. -/
def build : Literal → Run Value
  | .null => pure .null
  | .bool value => pure (.bool value)
  | .int value => pure (.int value)
  | .float value => pure (.float value)
  | .str value => pure (.str value)
  | .bytes value => pure (.bytes value)
  | .list items => do
    let items ← buildItems items
    return .list items
  | .mapping members => do
    let members ← buildMembers members
    return .mapping members
  | .function log outcome => do
    let id ← Run.allocate (.function ⟨log, outcome⟩)
    return .function id
  | .answering answer => do
    let answer ← build answer
    return .answering answer
  | .classType name => pure (.classType name)
  | .record attributes => do
    let attributes ← buildMembers attributes
    return .record attributes
  | .module globals => do
    let globals ← buildMembers globals
    let start := ModuleObject.fresh looseModuleName none "" none
    let all := globals.foldl (fun all entry => Assoc.put all entry.1 entry.2) start.globals
    let id ← Run.allocate (.module { start with globals := all })
    return .module id

/-- Makes the values of literals in order. -/
def buildItems : List Literal → Run (List Value)
  | [] => pure []
  | item :: rest => do
    let item ← build item
    let rest ← buildItems rest
    return item :: rest

/-- Makes the values of named literals in order. -/
def buildMembers : List (String × Literal) → Run (List (String × Value))
  | [] => pure []
  | (name, member) :: rest => do
    let member ← build member
    let rest ← buildMembers rest
    return (name, member) :: rest

end

end ConfigTokens.Module.Literal
