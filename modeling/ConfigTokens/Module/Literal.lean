import ConfigTokens.Binary64.Basic
/-!
# Literals

A literal describes a value that a module body makes when it runs. Data stand for themselves; a
function, a callable instance, a class, a plain instance and a module are described by what they do or
hold. Each run of the body makes them anew.
-/

namespace ConfigTokens.Module

mutual

/-- The description of a value. -/
inductive Literal where
  | null
  | bool (value : Bool)
  | int (value : Int)
  | float (value : Binary64)
  | str (value : String)
  | bytes (value : List UInt8)
  | list (items : List Literal)
  | mapping (members : List (String × Literal))
  /-- A function without arguments, which may log a text before it ends. -/
  | function (log : Option String) (outcome : Outcome)
  /-- An instance that can be called. -/
  | answering (answer : Literal)
  | classType (name : String)
  /-- An instance that cannot be called, with its attributes. -/
  | record (attributes : List (String × Literal))
  | module (globals : List (String × Literal))

/-- How a call of a function ends. -/
inductive Outcome where
  | raises (className text : String)
  /-- Returns a count, which goes up by one with each call. -/
  | counts (next : Int)
  | returns (answer : Literal)
  /-- Returns what a token loads for a base directory. -/
  | requires (base token : String)

end

instance : Inhabited Literal :=
  ⟨.null⟩

instance : Inhabited Outcome :=
  ⟨.returns .null⟩

end ConfigTokens.Module
