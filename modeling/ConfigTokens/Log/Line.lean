import ConfigTokens.Failure.Thrown
import ConfigTokens.Json.Writer
import ConfigTokens.Log.Percent
import ConfigTokens.Log.Record
/-!
# Lines of log output

An entry becomes one line of JSON, which holds its moment, its fields and, if there is one, the
exception that it reports, or one line of plain text. A fault says why there is no line.
-/

namespace ConfigTokens.Log

/-- How records are written. -/
inductive Format where
  | json
  | text
  deriving DecidableEq, Repr

/-- The name of an exception's class with what it belongs to. -/
def qualifiedName : String → String
  | "CancelledError" => "asyncio.exceptions.CancelledError"
  | name => name

/-- The text of an exception: its class, and its wording if it has one. -/
def exceptionText
    (thrown : Thrown) : String :=
  let name := qualifiedName thrown.className
  if thrown.message = "" then name else name ++ ": " ++ thrown.message

/-- Why an entry has no line. -/
inductive LineFault where
  /-- An extra field hides the method that completes the message, and its value cannot be called. -/
  | notCallable (typeName : String)
  /-- The message and its arguments do not fit. -/
  | message (fault : Percent.Fault)
  /-- An integer among the fields has too many digits. -/
  | tooManyDigits
  deriving DecidableEq, Repr

namespace LineFault

/-- The name of the fault's class. -/
def className : LineFault → String
  | .notCallable _ => "TypeError"
  | .message fault => fault.className
  | .tooManyDigits => "ValueError"

/-- The wording of a fault. -/
def wording : LineFault → String
  | .notCallable typeName => s!"'{typeName}' object is not callable"
  | .message fault => fault.message
  | .tooManyDigits => Json.unwritableMessage

end LineFault

/-- The name of the method that completes a message; an extra field under it is found in its place. -/
def messageMethod : String :=
  "getMessage"

namespace Entry

/-- The message of an entry with the arguments in place. -/
def text
    (entry : Entry) : Except LineFault String :=
  match entry.extra.lookup messageMethod with
  | some value => .error (.notCallable value.typeName)
  | none => (Percent.render entry.message entry.arguments).mapError .message

/-- The members of the object that stands for an entry, with the text of the exception that it reports. -/
def members
    (entry : Entry)
    (moment text : String)
    (report : Option String) : List (String × Json) :=
  ("timestamp", .str moment) :: entry.fields text
    ++ (report.map fun text => ("exception", .str text)).toList

/-- An entry as a line of JSON, with the text of the exception that it reports. -/
def jsonLine
    (entry : Entry)
    (moment : String)
    (report : Option String) : Except LineFault String :=
  match entry.text with
  | .error fault => .error fault
  | .ok text =>
    match (Json.object (entry.members moment text report)).line? with
    | some line => .ok line
    | none => .error .tooManyDigits

end Entry

/-- A record as plain text. -/
def Record.textLine
    (record : Record)
    (moment : String) : String :=
  s!"{moment} {Level.name record.level} {record.logger} — {record.message}"

/-- A record in a format. -/
def Record.write
    (record : Record)
    (moment : String) : Format → Except LineFault String
  | .json => record.entry.jsonLine moment none
  | .text => .ok (record.textLine moment)

end ConfigTokens.Log
