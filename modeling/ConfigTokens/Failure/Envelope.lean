import ConfigTokens.Json.Basic
import ConfigTokens.Text.Digits
/-!
# Errors of handlers and their envelopes

A handler reports an error with a code, a category and a severity, and with the context in which it
arose. The envelope of an error is what a dispatcher passes on.
-/

namespace ConfigTokens

/-- How bad an error is. -/
inductive Severity where
  | info
  | warning
  | error
  | critical
  deriving DecidableEq, Repr

namespace Severity

/-- The word for a severity. -/
def word : Severity → String
  | .info => "info"
  | .warning => "warning"
  | .error => "error"
  | .critical => "critical"

/-- The severity that a word stands for. -/
def ofWord? : String → Option Severity
  | "info" => some .info
  | "warning" => some .warning
  | "error" => some .error
  | "critical" => some .critical
  | _ => none

@[simp]
theorem ofWord?_word
    (severity : Severity) :
    ofWord? severity.word = some severity := by
  cases severity <;> rfl

end Severity

/-- What kind of work an error belongs to. -/
inductive Category where
  | moduleLoad
  | invocation
  | internal
  deriving DecidableEq, Repr

namespace Category

/-- The word for a category. -/
def word : Category → String
  | .moduleLoad => "module_load"
  | .invocation => "invocation"
  | .internal => "internal"

/-- The category that a word stands for. -/
def ofWord? : String → Option Category
  | "module_load" => some .moduleLoad
  | "invocation" => some .invocation
  | "internal" => some .internal
  | _ => none

@[simp]
theorem ofWord?_word
    (category : Category) :
    ofWord? category.word = some category := by
  cases category <;> rfl

end Category

/-- A moment in universal time. -/
structure Timestamp where
  year : Nat
  month : Nat
  day : Nat
  hour : Nat
  minute : Nat
  second : Nat
  microsecond : Nat
  deriving DecidableEq, Repr

namespace Timestamp

/-- A number with zeros before it. -/
def padded
    (width value : Nat) : String :=
  String.ofList (Text.padLeft width '0' (Text.natText value).toList)

/-- The moment in the format of ISO 8601; microseconds are written unless they are zero. -/
def text
    (moment : Timestamp) : String :=
  let date := s!"{padded 4 moment.year}-{padded 2 moment.month}-{padded 2 moment.day}"
  let time := s!"{padded 2 moment.hour}:{padded 2 moment.minute}:{padded 2 moment.second}"
  let fraction := if moment.microsecond = 0 then "" else "." ++ padded 6 moment.microsecond
  date ++ "T" ++ time ++ fraction ++ "+00:00"

end Timestamp

/-- Where an error arose: the handler, its token and base directory, and details for diagnosis. -/
structure Context where
  timestamp : Option Timestamp
  handler : Option String
  token : Option String
  baseDir : Option String
  details : Option Json
  deriving Repr

namespace Context

/-- A context that says nothing. -/
def none : Context :=
  ⟨.none, .none, .none, .none, .none⟩

/-- A context with details only. -/
def withDetails
    (details : Json) : Context :=
  { none with details := some details }

/-- The context of a handler at work on a token. -/
def ofHandler
    (handler token baseDir : String) : Context :=
  { none with handler := some handler, token := some token, baseDir := some baseDir }

end Context

/-- An error that a handler reports. -/
inductive HandlerError where
  | general (message code : String) (category : Category) (severity : Severity)
  | loadFailed (message specifier code : String)
  | notFound (path : String)
  | targetMissing (token : String) (method : Option String)
  deriving DecidableEq, Repr

namespace HandlerError

/-- The code of a load that failed. -/
def loadFailedCode : String :=
  "MODULE_LOAD_FAILED"

/-- The code of a target that is missing. -/
def targetMissingCode : String :=
  "INVOCATION_TARGET_UNRESOLVABLE"

/-- A load that failed, with the usual code. -/
def ofLoad
    (message specifier : String) : HandlerError :=
  .loadFailed message specifier loadFailedCode

/-- A method is named: absent and empty names count as none. -/
def namesMethod : Option String → Bool
  | some name => name != ""
  | none => false

/-- The wording of an error. -/
def message : HandlerError → String
  | .general message _ _ _ => message
  | .loadFailed message _ _ => message
  | .notFound path => s!"Cannot find module '{path}'"
  | .targetMissing token method =>
    let kind := if namesMethod method then "function" else "module"
    s!"Unable to locate invokable {kind}: {token}"

/-- The code of an error. -/
def code : HandlerError → String
  | .general _ code _ _ => code
  | .loadFailed _ _ code => code
  | .notFound _ => "MODULE_NOT_FOUND"
  | .targetMissing .. => targetMissingCode

/-- The category of an error. -/
def category : HandlerError → Category
  | .general _ _ category _ => category
  | .loadFailed .. | .notFound _ => .moduleLoad
  | .targetMissing .. => .invocation

/-- The severity of an error. -/
def severity : HandlerError → Severity
  | .general _ _ _ severity => severity
  | _ => .error

/-- The reference that could not be loaded. -/
def specifier? : HandlerError → Option String
  | .loadFailed _ specifier _ => some specifier
  | .notFound path => some path
  | _ => none

/-- The token whose target is missing. -/
def token? : HandlerError → Option String
  | .targetMissing token _ => some token
  | _ => none

/-- The method that is missing. -/
def method? : HandlerError → Option String
  | .targetMissing _ method => method
  | _ => none

/-- The error is one of a load. -/
def isLoad : HandlerError → Bool
  | .loadFailed .. | .notFound _ => true
  | _ => false

/-- The name of the error's class. -/
def className : HandlerError → String
  | .general .. => "ShortstopError"
  | .loadFailed .. => "ModuleLoadError"
  | .notFound _ => "ModuleNotFoundInPathError"
  | .targetMissing .. => "InvocationTargetError"

/-- The names of all classes that the error belongs to. -/
def classNames : HandlerError → List String
  | .general .. => ["ShortstopError"]
  | .loadFailed .. => ["ModuleLoadError", "ShortstopError"]
  | .notFound _ => ["ModuleLoadError", "ModuleNotFoundInPathError", "ShortstopError"]
  | .targetMissing .. => ["InvocationTargetError", "ShortstopError"]

/-- A text that may be missing. -/
private def textOrNull : Option String → Json
  | some text => .str text
  | none => .null

/-- The envelope of an error in its context, without its moment. -/
def fields
    (error : HandlerError)
    (context : Context) : List (String × Json) :=
  [("code", .str error.code), ("message", .str error.message),
    ("category", .str error.category.word), ("severity", .str error.severity.word),
    ("context", .object [("handler", textOrNull context.handler),
      ("token", textOrNull context.token), ("base_dir", textOrNull context.baseDir)])]

end HandlerError

end ConfigTokens
