import ConfigTokens.Callback.Loop
/-!
# Making adapted calls

An adapted call looks for a loop that runs. Inside one it creates a task and returns its number; the
callback comes later. Outside of any loop nothing is scheduled: the callback gets the failure at once, in
the frame of the caller, and nothing is returned.
-/

namespace ConfigTokens.Callback

/-- Where adapted calls are made: inside a loop, or outside of any, with what was delivered there. -/
inductive Setting where
  | inside (loop : Loop)
  | outside (delivered : List Delivery)

/-- What a caller does, which may end by throwing. -/
abbrev Caller :=
  EStateM Thrown Setting

/-- Makes an adapted call; what is returned is the number of its task, or nothing. -/
def Call.make
    (call : Call) : Caller (Option Nat) := do
  match ← get with
  | .inside loop =>
    set (Setting.inside (loop.create call))
    return some loop.tasks.length
  | .outside delivered =>
    match call.callBack delivered.length (some .noRunningLoop) .null delivered with
    | .ok _ after =>
      set (Setting.outside after)
      return none
    | .error thrown after =>
      set (Setting.outside after)
      throw thrown

/-- Makes calls one after the other. -/
def makeAll
    (calls : List Call) : Caller (List (Option Nat)) :=
  calls.mapM Call.make

end ConfigTokens.Callback
