import ConfigTokens.Text.Cut
/-!
# References to modules

A token refers to a file if it begins with "/", "./" or "../", and otherwise to a module by name, where
slashes stand for dots. A token to be invoked may name a member after its first hash sign.
-/

namespace ConfigTokens.Module

/-- A module with a member. -/
structure Reference where
  module : String
  member : Option String
  deriving DecidableEq, Repr

namespace Reference

/-- Cuts a token at its first hash sign; a member without a name counts as none. -/
def parse
    (token : String) : Reference :=
  match Text.beforeFirst '#' token.toList with
  | some (module, member) =>
    ⟨String.ofList module, if member = [] then none else some (String.ofList member)⟩
  | none => ⟨token, none⟩

end Reference

/-- What tokens that refer to files begin with. -/
def fileLeads : List (List Char) :=
  [['/'], ['.', '/'], ['.', '.', '/']]

/-- A token refers to a file. -/
def isFileReference
    (token : String) : Bool :=
  fileLeads.any fun lead => lead.isPrefixOf token.toList

/-- The name that a token without slashes at its ends stands for. -/
def dottedChars
    (token : List Char) : List Char :=
  let inner := ((token.dropWhile (· == '/')).reverse.dropWhile (· == '/')).reverse
  inner.map fun c => if c = '/' then '.' else c

/-- The name of the module that a token refers to. -/
def dottedName
    (token : String) : String :=
  String.ofList (dottedChars token.toList)

end ConfigTokens.Module
