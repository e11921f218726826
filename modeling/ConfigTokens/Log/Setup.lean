import ConfigTokens.Log.Line
import ConfigTokens.Settings.Basic
import ConfigTokens.Text.Uppercase
/-!
# Setting up logging

`setup` adds a handler in the wanted format to the root logger and sets its level. A level or format
that is missing or empty is taken from the settings. A record is written by every handler of the root
logger if its level is not below that of the root.
-/

namespace ConfigTokens.Log

/-- The root logger: the formats of its handlers, and its level. -/
structure Root where
  handlers : List Format
  level : Level

/-- What a word for a level stands for. -/
inductive LevelMeaning where
  | level (level : Level)
  /-- Text, which is no level. -/
  | text (value : String)
  /-- Something else that is no level. -/
  | other (shown : String)

/-- The layout of text that stands under a name of its own. -/
def basicLayout : String :=
  "%(levelname)s:%(name)s:%(message)s"

/-- The styles of layouts, which stand under a name of their own. -/
def layoutStyles : String :=
  "\x7b'%': (<class 'logging.PercentStyle'>, '%(levelname)s:%(name)s:%(message)s'), "
    ++ "'\x7b': (<class 'logging.StrFormatStyle'>, "
    ++ "'\x7blevelname\x7d:\x7bname\x7d:\x7bmessage\x7d'), "
    ++ "'$': (<class 'logging.StringTemplateStyle'>, "
    ++ "'$\x7blevelname\x7d:$\x7bname\x7d:$\x7bmessage\x7d')\x7d"

/-- The meaning of a word in upper case; unknown words mean the usual level. -/
def levelMeaning : String → LevelMeaning
  | "CRITICAL" | "FATAL" => .level Level.critical
  | "ERROR" => .level Level.error
  | "WARNING" | "WARN" => .level Level.warning
  | "INFO" => .level Level.info
  | "DEBUG" => .level Level.debug
  | "NOTSET" => .level 0
  | "BASIC_FORMAT" => .text basicLayout
  | "_STYLES" => .other layoutStyles
  | _ => .level Level.info

/-- The format that a word stands for. -/
def formatOf : String → Format
  | "json" => .json
  | _ => .text

/-- An argument, unless it is missing or empty. -/
def orDefault
    (argument : Option String)
    (default : String) : String :=
  match argument with
  | none | some "" => default
  | some text => text

/-- Sets the level of the root logger. -/
def setLevel : LevelMeaning → EStateM Thrown Root Unit
  | .level level => modify fun root => { root with level }
  | .text value => throw (.unknownLevel value)
  | .other shown => throw (.unusableLevel shown)

/-- Adds a handler to the root logger and sets the level. -/
def setup
    (settings : Settings)
    (level format : Option String) : EStateM Thrown Root Format := do
  let level := orDefault level settings.logLevel
  let format := formatOf (orDefault format settings.logFormat)
  modify fun root => { root with handlers := root.handlers ++ [format] }
  setLevel (levelMeaning (Text.upper level))
  return format

/-- The name of the root logger. -/
def rootName : String :=
  "root"

/-- The record of a message, if the root logger lets its level pass. -/
def Root.accept?
    (root : Root)
    (logger : String)
    (level : Level)
    (message : String) : Option Record :=
  if 0 < level && root.level ≤ level then
    some ⟨if logger = "" then rootName else logger, level, message, []⟩
  else none

end ConfigTokens.Log
