import ConfigTokens.Base64
import ConfigTokens.EnvToken.Filter
import ConfigTokens.Glob.Search
import ConfigTokens.Handler.Basic
/-!
# Calling handlers

A handler turns a token into an answer. What happens on the way is logged: a file that cannot be read,
how many paths a pattern matched, and a variable that is not set.
-/

namespace ConfigTokens

open ConfigTokens.Module

/-- What a handler answers: a value, or what a load gave. -/
inductive Answer where
  | plain (value : Value)
  | loaded (answer : Export)

namespace Answer

/-- An answer as a value. -/
def toValue : Answer → Value
  | .plain value => value
  | .loaded answer => answer.value

end Answer

namespace Handler

/-- A converted variable as a value. -/
def convertedValue : EnvFilter.Converted → Value
  | .number (.int value) => .int value
  | .number (.float value) => .float value
  | .truth value => .bool value

/-- The bytes of a file. -/
def readBytes
    (file token : String) : Hosted (List UInt8) := do
  let host ← get
  if file.toList.contains '\x00' then throw .embeddedNull
  match host.tree.read host.cwd file with
  | .ok (.bytes data) => return data
  | .ok (.program _) => return []
  | .error fault =>
    Hosted.notify (.readFailed file token (fault.message file))
    throw (.unreadable fault file)

/-- The content of a file as its options ask for it. -/
def readFile
    (options : FileOptions)
    (file token : String) : Hosted Value := do
  let data ← readBytes file token
  match options.encoding with
  | none => return .bytes data
  | some encoding =>
    let text := (Codec.decode encoding options.errors data).mapError Thrown.decoding
    return .str (← Hosted.ofExcept text)

/-- The value of a variable, converted as its token asks for it. -/
def readVariable
    (environment : List (String × String))
    (token : String) : Hosted Value := do
  let parsed := EnvToken.parse token
  let raw := environment.lookup parsed.name
  if raw.isNone then Hosted.notify (.variableUnset parsed.name token)
  match parsed.filter with
  | some filter => return convertedValue (filter.apply raw)
  | none => return (raw.map Value.str).getD .null

/-- The paths that a pattern matches. -/
def matchPattern
    (options : GlobOptions)
    (pattern : String) : Hosted Value := do
  let host ← get
  let scope : Glob.Scope Content := ⟨host.tree, host.cwd, options.cwd.toList, options.dot⟩
  match Glob.search scope ⟨options.nodir, options.ignore⟩ pattern with
  | .error .embeddedNull => throw .embeddedNull
  | .ok paths =>
    Hosted.notify (.matched pattern options.cwd paths.length)
    return .list (paths.map Value.str)

/-- The answer to a token. -/
def call
    (handler : Handler)
    (token : String) : Hosted Answer := do
  match handler with
  | .path base => return .plain (.str (Path.anchorText (← get).cwdText base token))
  | .file base options =>
    let file := Path.anchorText (← get).cwdText base token
    .plain <$> readFile options file token
  | .base64 => return .plain (.bytes (Base64.decode token))
  | .env environment =>
    .plain <$> readVariable (environment.getD (← get).environment) token
  | .require base registry =>
    .loaded <$> Hosted.load registry fun site loader => requireToken site loader base token
  | .exec base registry =>
    .plain <$> Hosted.load registry fun site loader => executeToken site loader base token
  | .glob options => .plain <$> matchPattern options token

end Handler

end ConfigTokens
