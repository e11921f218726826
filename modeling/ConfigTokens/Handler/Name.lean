import ConfigTokens.Failure.Thrown
/-!
# Names of handlers

Each handler serves one protocol, which is named by the word before a token.
-/

namespace ConfigTokens

/-- The protocols that have a handler. -/
inductive HandlerName where
  | path
  | file
  | base64
  | env
  | require
  | exec
  | glob
  deriving DecidableEq, Repr

namespace HandlerName

/-- The word for a protocol. -/
def word : HandlerName → String
  | .path => "path"
  | .file => "file"
  | .base64 => "base64"
  | .env => "env"
  | .require => "require"
  | .exec => "exec"
  | .glob => "glob"

/-- All protocols. -/
def all : List HandlerName :=
  [.path, .file, .base64, .env, .require, .exec, .glob]

/-- The protocol that a word stands for. -/
def ofWord? : String → Option HandlerName
  | "path" => some .path
  | "file" => some .file
  | "base64" => some .base64
  | "env" => some .env
  | "require" => some .require
  | "exec" => some .exec
  | "glob" => some .glob
  | _ => none

/-- The protocol that a word stands for, or why there is none. -/
def find
    (word : String) : Except Thrown HandlerName :=
  match ofWord? word with
  | some name => .ok name
  | none => .error (.unknownMember "HandlerName" word)

/-- The handler's answer has to be awaited. -/
def isAwaited : HandlerName → Bool
  | .file | .glob => true
  | _ => false

@[simp]
theorem ofWord?_word
    (name : HandlerName) :
    ofWord? name.word = some name := by
  cases name <;> rfl

end HandlerName

end ConfigTokens
