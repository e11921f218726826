import ConfigTokens.Codec.Basic
import ConfigTokens.Failure.Envelope
import ConfigTokens.FileTree.Lookup
import ConfigTokens.Json.Reader
import ConfigTokens.Options.Issue
import ConfigTokens.Text.Quoted
/-!
# What can be thrown

A module body, an import, a read or a handler may end by throwing. `Thrown` lists the causes;
`className` and `message` give their names and wording. Requests to end the program or a task are not
ordinary: whoever catches failures lets them pass.
-/

namespace ConfigTokens

/-- Why an import by name fails. -/
inductive ImportFault where
  | notFound (name : String)
  | notPackage (name parent : String)
  | emptyName
  | relativeName (name : String)
  | noParentPackage
  | missingName (name moduleName : String) (file : Option String) (partially : Bool)
  /-- A module that has to be in the table is gone. -/
  | detached (name : String)
  deriving DecidableEq, Repr

namespace ImportFault

/-- The name of the fault's class. -/
def className : ImportFault → String
  | .notFound _ | .notPackage .. => "ModuleNotFoundError"
  | .emptyName => "ValueError"
  | .relativeName _ => "TypeError"
  | .noParentPackage | .missingName .. => "ImportError"
  | .detached _ => "KeyError"

/-- The wording of a fault. -/
def message : ImportFault → String
  | .notFound name => "No module named " ++ Text.quoted name
  | .notPackage name parent =>
    "No module named " ++ Text.quoted name ++ "; " ++ Text.quoted parent ++ " is not a package"
  | .emptyName => "Empty module name"
  | .relativeName name =>
    "the 'package' argument is required to perform a relative import for " ++ Text.quoted name
  | .noParentPackage => "attempted relative import with no known parent package"
  | .missingName name moduleName file partially =>
    let place :=
      match file with
      | some file => if partially then
          s!" (most likely due to a circular import) ({file})" else s!" ({file})"
      | none => " (unknown location)"
    let source := if partially && file.isSome then "partially initialized module " else ""
    "cannot import name " ++ Text.quoted name ++ " from " ++ source ++ Text.quoted moduleName
      ++ place
  | .detached name => Text.quoted name

/-- The module that could not be found. -/
def missingModule? : ImportFault → Option String
  | .notFound name | .notPackage name _ => some name
  | _ => none

end ImportFault

/-- What an attribute was asked of. -/
inductive AttributeOwner where
  | module (name : String) (initialising : Bool)
  | instanceOf (typeName : String)
  | classType (name : String)
  deriving DecidableEq, Repr

namespace AttributeOwner

/-- The wording of an attribute that is missing. -/
def messageOfMissing
    (name : String) : AttributeOwner → String
  | .module owner false => s!"module '{owner}' has no attribute '{name}'"
  | .module owner true =>
    s!"partially initialized module '{owner}' has no attribute '{name}' "
      ++ "(most likely due to a circular import)"
  | .instanceOf typeName => s!"'{typeName}' object has no attribute '{name}'"
  | .classType owner => s!"type object '{owner}' has no attribute '{name}'"

end AttributeOwner

/-- A cause for ending early. -/
inductive Thrown where
  /-- Raised by a program under the name of a class. -/
  | raised (className text : String)
  | invalidSource (file : String)
  | unknownName (name : String)
  | unknownAttribute (owner : AttributeOwner) (name : String)
  | importing (fault : ImportFault)
  | document (fault : Json.Fault)
  | decoding (failure : Codec.Failure)
  | unreadable (fault : PathFault) (path : String)
  | embeddedNull
  | notPathLike (typeName : String)
  | notCallable (typeName : String)
  | notAwaitable (typeName : String)
  | missingArgument (call argument : String)
  | noRunningLoop
  | unknownMember (typeName value : String)
  | unknownLevel (text : String)
  | unusableLevel (shown : String)
  /-- Options or settings that do not fit. -/
  | invalid (model : String) (issues : List Issue)
  | tooDeep
  /-- An error of a handler without another cause. -/
  | reported (error : HandlerError) (context : Context)
  /-- An error of a handler with the cause that it reports. -/
  | chained (error : HandlerError) (context : Context) (cause : Thrown)
  deriving Repr

namespace Thrown

/-- The classes for requests to end; they are not caught as failures. -/
def requestClasses : List String :=
  ["BaseException", "CancelledError", "GeneratorExit", "KeyboardInterrupt", "SystemExit"]

/-- The cause is a failure, and no request to end the program or the task. -/
def isOrdinary : Thrown → Bool
  | .raised className _ => !requestClasses.contains className
  | _ => true

/-- The name of the class of a fault that the operating system reports. -/
def pathClassName : PathFault → String
  | .notFound => "FileNotFoundError"
  | .notDirectory => "NotADirectoryError"
  | .isDirectory => "IsADirectoryError"
  | .nameTooLong | .tooManyLinks => "OSError"

/-- The name of the cause's class. -/
def className : Thrown → String
  | .raised className _ => className
  | .invalidSource _ => "SyntaxError"
  | .unknownName _ => "NameError"
  | .unknownAttribute .. => "AttributeError"
  | .importing fault => fault.className
  | .document (.malformed ..) => "JSONDecodeError"
  | .document (.tooManyDigits _) => "ValueError"
  | .document (.tooDeep _) => "RecursionError"
  | .decoding failure => failure.className
  | .unreadable fault _ => pathClassName fault
  | .embeddedNull => "ValueError"
  | .notPathLike _ | .notCallable _ | .notAwaitable _ | .missingArgument .. => "TypeError"
  | .noRunningLoop => "RuntimeError"
  | .unknownMember .. | .unknownLevel _ => "ValueError"
  | .unusableLevel _ => "TypeError"
  | .invalid .. => "ValidationError"
  | .tooDeep => "RecursionError"
  | .reported error _ | .chained error _ _ => error.className

/-- The wording of a cause. -/
def message : Thrown → String
  | .raised className text => if className = "KeyError" then Text.quoted text else text
  | .invalidSource file => s!"invalid syntax ({file}, line 1)"
  | .unknownName name => s!"name '{name}' is not defined"
  | .unknownAttribute owner name => owner.messageOfMissing name
  | .importing fault => fault.message
  | .document fault => fault.message
  | .decoding failure => failure.message
  | .unreadable fault path => fault.message path
  | .embeddedNull => "embedded null byte"
  | .notPathLike typeName => s!"expected str, bytes or os.PathLike object, not {typeName}"
  | .notCallable typeName => s!"'{typeName}' object is not callable"
  | .notAwaitable typeName => s!"object {typeName} can't be used in 'await' expression"
  | .missingArgument call argument => s!"{call}() missing required argument '{argument}' (pos 1)"
  | .noRunningLoop => "no running event loop"
  | .unknownMember typeName value => Text.quoted value ++ s!" is not a valid {typeName}"
  | .unknownLevel text => "Unknown level: " ++ Text.quoted text
  | .unusableLevel shown => "Level not an integer or a valid string: " ++ shown
  | .invalid model issues => s!"{issues.length} validation errors for {model}"
  | .tooDeep => "maximum recursion depth exceeded"
  | .reported error _ | .chained error _ _ => error.message

/-- The cause that an error of a handler reports. -/
def cause? : Thrown → Option Thrown
  | .chained _ _ cause => some cause
  | _ => none

/-- The reported causes, outermost first. -/
def causes : Thrown → List Thrown
  | .chained _ _ cause => cause :: cause.causes
  | _ => []

/-- The error of a handler with its context. -/
def reported? : Thrown → Option (HandlerError × Context)
  | .reported error context | .chained error context _ => some (error, context)
  | _ => none

/-- Changes the context of an error of a load; anything else stays. -/
def relabel
    (change : Context → Context) : Thrown → Thrown
  | .reported error context =>
    if error.isLoad then .reported error (change context) else .reported error context
  | .chained error context cause =>
    if error.isLoad then .chained error (change context) cause else .chained error context cause
  | thrown => thrown

theorem isOrdinary_relabel
    (thrown : Thrown)
    (change : Context → Context) :
    (thrown.relabel change).isOrdinary = thrown.isOrdinary := by
  cases thrown with
  | reported error context =>
      unfold relabel
      dsimp only
      split <;> rfl
  | chained error context cause =>
      unfold relabel
      dsimp only
      split <;> rfl
  | _ => rfl

/-- A request to end has no label. -/
theorem relabel_of_request
    {thrown : Thrown}
    (request : thrown.isOrdinary = false)
    (change : Context → Context) :
    thrown.relabel change = thrown := by
  cases thrown with
  | raised className text => rfl
  | _ => cases request

/-- A request to end is no error of a handler. -/
theorem reported?_of_request
    {thrown : Thrown}
    (request : thrown.isOrdinary = false) :
    thrown.reported? = none := by
  cases thrown with
  | raised className text => rfl
  | _ => cases request

end Thrown

end ConfigTokens
