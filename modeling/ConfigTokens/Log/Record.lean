import ConfigTokens.Json.Basic
import ConfigTokens.Text.Digits
/-!
# Log records

A record has a level, the name of its logger, a message and extra fields. Levels are numbers; some have
names. An entry is what a formatter gets: a message that may still wait for its arguments, and the level
by its name.
-/

namespace ConfigTokens.Log

/-- A level of importance. -/
abbrev Level :=
  Int

namespace Level

/-- Details for diagnosis. -/
def debug : Level := 10

/-- The usual course of things. -/
def info : Level := 20

/-- Something unexpected. -/
def warning : Level := 30

/-- Something failed. -/
def error : Level := 40

/-- The program may not go on. -/
def critical : Level := 50

/-- The name of a level; a level without one is called by its number. -/
def name (level : Level) : String :=
  if level = critical then "CRITICAL"
  else if level = error then "ERROR"
  else if level = warning then "WARNING"
  else if level = info then "INFO"
  else if level = debug then "DEBUG"
  else if level = 0 then "NOTSET"
  else s!"Level {level}"

end Level

/-- A record of something that happened. -/
structure Record where
  logger : String
  level : Level
  message : String
  extra : List (String × Json)
  deriving Repr

/-- The extra fields that a line of structured output shows, in order. -/
def shownFields : List String :=
  ["handler", "token", "base_dir", "error_code", "specifier", "match_count"]

/-- An extra field is shown if it has a value. -/
def shownField?
    (extra : List (String × Json))
    (field : String) : Option (String × Json) :=
  match extra.lookup field with
  | none | some .null => none
  | some value => some (field, value)

/--
What is logged: a message with its arguments, and the fields that go with it, under names that a record does
not have of itself.
-/
structure Entry where
  logger : String
  level : String
  message : String
  arguments : List Json
  extra : List (String × Json)

/-- The fields of an entry in structured output, without its moment; the text is its complete message. -/
def Entry.fields
    (entry : Entry)
    (text : String) : List (String × Json) :=
  [("level", .str entry.level), ("logger", .str entry.logger), ("message", .str text)]
    ++ shownFields.filterMap (shownField? entry.extra)

/-- A record as an entry, whose message is complete. -/
def Record.entry
    (record : Record) : Entry :=
  ⟨record.logger, Level.name record.level, record.message, [], record.extra⟩

/-- The fields of a record in structured output, without its moment. -/
def Record.fields
    (record : Record) : List (String × Json) :=
  record.entry.fields record.message

end ConfigTokens.Log
