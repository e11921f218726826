import ConfigTokens.Json.Reader
import ConfigTokens.Module.Literal
import ConfigTokens.Text.Blank
import ConfigTokens.Text.Cut
import ConfigTokens.Text.WordChar
/-!
# Programs of modules

The body of a module is a list of steps. A file holds bytes or such a program. `Program.ofText` reads
the bytes of a file that holds no program as one: blank text does nothing, data are evaluated and
dropped, a name alone is looked up, and anything else is not a program.
-/

namespace ConfigTokens.Module

/-- A step of a module body. -/
inductive Step where
  /-- Sets a global. -/
  | assign (name : String) (value : Literal)
  /-- Logs a text. -/
  | log (text : String)
  /-- Ends the body. -/
  | raise (className text : String)
  /-- Sets a global to what a token loads. -/
  | require (name token : String)
  /-- The same; a failure sets the global to its code. -/
  | tryRequire (name token : String)
  /-- Sets a global to an attribute of another one, or to null. -/
  | peek (name owner member : String)
  /-- Sets a global to another one, or to an attribute of it. -/
  | copy (name source : String) (members : List String)
  /-- Sets a global to a member of a module of the same package. -/
  | fromImport (name source member : String)
  /-- Looks a global up. -/
  | mention (name : String)

/-- A program: its steps, or a text that is no program. -/
inductive Program where
  | steps (body : List Step)
  | broken

/-- What a file holds. -/
inductive Content where
  | bytes (data : List UInt8)
  | program (program : Program)

namespace Program

mutual

/-- The names that data in the notation of JSON mention when they are read as a program. -/
def mentions : Json → List Step
  | .null => [.mention "null"]
  | .bool true => [.mention "true"]
  | .bool false => [.mention "false"]
  | .float .nan => [.mention "NaN"]
  | .float (.infinity _) => [.mention "Infinity"]
  | .array items => mentionsOfItems items
  | .object members => mentionsOfMembers members
  | _ => []

/-- The names that items mention. -/
def mentionsOfItems : List Json → List Step
  | [] => []
  | item :: rest => mentions item ++ mentionsOfItems rest

/-- The names that members mention. -/
def mentionsOfMembers : List (String × Json) → List Step
  | [] => []
  | (_, value) :: rest => mentions value ++ mentionsOfMembers rest

end

/-- A text that is a name. -/
def isName
    (text : List Char) : Bool :=
  let isPart (c : Char) : Bool := c = '_' || Text.isWordChar c
  text.all isPart && (text.head?.map fun c => !Text.isDigit c).getD false

/-- A line without a program on it. -/
def isIdle
    (line : List Char) : Bool :=
  match line.dropWhile Text.isBlank with
  | [] | '#' :: _ => true
  | _ => false

/-- A text as a program. -/
def ofText
    (text : List Char) : Program :=
  let trimmed := (text.reverse.dropWhile Text.isBlank).reverse
  if (Text.fields '\n' text).all isIdle then .steps []
  else if isName trimmed then .steps [.mention (String.ofList trimmed)]
  else if (trimmed.head?.map Text.isBlank).getD false then .broken
  else
    match Json.readChars Json.digitLimit Json.nestingLimit trimmed with
    | .ok value => .steps (mentions value)
    | .error _ => .broken

end Program

end ConfigTokens.Module
