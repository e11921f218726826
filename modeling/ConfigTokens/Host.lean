import ConfigTokens.Module.Execute
import ConfigTokens.Settings.Basic
/-!
# The host

Handlers work in a host: a tree of files, a working directory, variables of the environment, an
interpreter, and the world of loaded modules. Settings are read when they are first asked for and kept
until they are dropped.
-/

namespace ConfigTokens

open ConfigTokens.Module

/-- What handlers work in. -/
structure Host where
  tree : FileTree Content
  cwd : List String
  environment : List (String × String)
  /-- The directory for imports by name. -/
  importRoot : String
  interpreter : Interpreter
  stamp : String → Stamp := .blank
  /-- The settings, once they have been read. -/
  settings : Option Settings
  world : World

namespace Host

/-- The working directory as a path. -/
def cwdText
    (host : Host) : String :=
  FileTree.pathText host.cwd

/-- The site of a registry. -/
def site
    (host : Host)
    (registry : RegistryName) : Site :=
  ⟨host.tree, host.cwd, host.importRoot, registry, host.interpreter, host.stamp⟩

/-- The file of assignments in the working directory. -/
def assignmentsFile : String :=
  ".env"

/-- The text of the file of assignments; without a file it is empty. -/
def assignmentsText
    (host : Host) : Except Thrown String :=
  match host.tree.read host.cwd assignmentsFile with
  | .ok (.bytes data) => (Codec.decode "utf-8" "strict" data).mapError Thrown.decoding
  | _ => .ok ""

/-- Reads the settings anew. -/
def readSettings
    (host : Host) : Except Thrown Settings := do
  let text ← host.assignmentsText
  let lines := String.ofList (Text.unifyLineEnds text.toList)
  let assigned := Assignments.read host.environment lines
  (Settings.read host.environment assigned).mapError (Thrown.invalid "Settings")

end Host

/-- A computation in a host that may end by throwing. -/
abbrev Hosted :=
  EStateM Thrown Host

namespace Hosted

/-- The value of a computation, or what it threw. -/
def ofExcept {α : Type} : Except Thrown α → Hosted α
  | .ok value => pure value
  | .error thrown => throw thrown

/-- The settings, read if they have not been read. -/
def settings : Hosted Settings := do
  let host ← get
  match host.settings with
  | some settings => return settings
  | none =>
    let settings ← ofExcept host.readSettings
    set { host with settings := some settings }
    return settings

/-- Runs a computation on the world of the host. -/
def onWorld {α : Type}
    (run : Run α) : Hosted α := do
  let host ← get
  match run host.world with
  | .ok value world =>
    set { host with world }
    return value
  | .error thrown world =>
    set { host with world }
    throw thrown

/-- Runs a load in a registry. -/
def load {α : Type}
    (registry : RegistryName)
    (action : Site → Loader → Run α) : Hosted α := do
  let site := (← get).site registry
  onWorld (action site (Loader.forSite site))

/-- Adds an event to the journal. -/
def notify
    (event : Event) : Hosted Unit :=
  onWorld (Run.notify event)

end Hosted

end ConfigTokens
