import ConfigTokens.Failure.Envelope
import ConfigTokens.Log.Record
import ConfigTokens.Module.Value
/-!
# Events

What happens while tokens are resolved is kept as a journal of events. Some events make a log record;
`Event.record?` says which and with what wording.
-/

namespace ConfigTokens

open ConfigTokens.Module

/-- The name of a registry; the registry that all handlers share by default has none. -/
abbrev RegistryName :=
  Option String

/-- Something that happened. -/
inductive Event where
  /-- The body of a file module begins. -/
  | bodyStarted (registry : RegistryName) (file : String) (module : ObjectId)
  /-- The body of a file module ran to its end. -/
  | bodyEnded (registry : RegistryName) (file name : String) (module : ObjectId)
  /-- A request ended the body of a file module, which stays in its registry. -/
  | bodyAbandoned (registry : RegistryName) (file : String) (module : ObjectId)
  /-- A file module failed and was taken out of its registry. -/
  | moduleDiscarded (registry : RegistryName) (file reason : String)
  /-- A file was read as data. -/
  | documentLoaded (registry : RegistryName) (file : String) (answer : Export)
  | imported (registry : RegistryName) (specifier name : String)
  | importFailed (registry : RegistryName) (specifier reason : String)
  /-- A load asked a registry for a key, and the registry had this answer or none. -/
  | asked (registry : RegistryName) (key : String) (found : Option Export)
  /-- A module body required a token and got an answer. -/
  | required (requester : ObjectId) (base token : String) (answer : Export)
  | targetMissing (token : String)
  | readFailed (file token reason : String)
  | matched (pattern directory : String) (count : Nat)
  | variableUnset (name token : String)

namespace Event

/-- What the names of all loggers begin with. -/
def loggerRoot : String :=
  "shortstop_handlers"

/-- The logger of the registries. -/
def registryLogger : String :=
  loggerRoot ++ ".infrastructure.module_registry"

/-- The logger of a handler. -/
def handlerLogger
    (handler : String) : String :=
  loggerRoot ++ ".services.handle_" ++ handler

/-- The record that an event makes. -/
def record? : Event → Option Log.Record
  | .bodyStarted .. | .bodyAbandoned .. | .asked .. | .required .. => none
  | .bodyEnded _ file name _ =>
    some ⟨registryLogger, Log.Level.debug, s!"Loaded '{file}' as {name}", [("specifier", .str file)]⟩
  | .moduleDiscarded _ file reason =>
    some ⟨registryLogger, Log.Level.warning, s!"Failed to load '{file}': {reason}",
      [("specifier", .str file), ("error_code", .str HandlerError.loadFailedCode)]⟩
  | .documentLoaded _ file _ =>
    some ⟨registryLogger, Log.Level.debug, s!"Loaded JSON '{file}'", [("specifier", .str file)]⟩
  | .imported _ specifier name =>
    some ⟨registryLogger, Log.Level.debug, s!"Imported '{name}'", [("specifier", .str specifier)]⟩
  | .importFailed _ specifier reason =>
    some ⟨registryLogger, Log.Level.warning, s!"Failed to import '{specifier}': {reason}",
      [("specifier", .str specifier), ("error_code", .str HandlerError.loadFailedCode)]⟩
  | .targetMissing token =>
    some ⟨handlerLogger "exec", Log.Level.warning, s!"No invokable target for '{token}'",
      [("handler", .str "exec"), ("token", .str token),
        ("error_code", .str HandlerError.targetMissingCode)]⟩
  | .readFailed file token reason =>
    some ⟨handlerLogger "file", Log.Level.warning, s!"Failed to read '{file}': {reason}",
      [("handler", .str "file"), ("token", .str token)]⟩
  | .matched pattern directory count =>
    some ⟨handlerLogger "glob", Log.Level.debug, s!"Pattern '{pattern}' matched {count} path(s)",
      [("handler", .str "glob"), ("token", .str pattern), ("base_dir", .str directory),
        ("match_count", .int count)]⟩
  | .variableUnset name token =>
    some ⟨handlerLogger "env", Log.Level.debug, s!"Environment variable '{name}' is not set",
      [("handler", .str "env"), ("token", .str token)]⟩

end Event

end ConfigTokens
