import ConfigTokens.Handler.Call
/-!
# Awaiting handlers

Only a handler that reads the file tree answers with something to be awaited. To await the answer of
another handler is an error, after the handler has done its work.
-/

namespace ConfigTokens.Handler

open ConfigTokens.Module

/-- The answer of a handler, awaited. -/
def callAwaited
    (handler : Handler)
    (token : String) : Hosted Value := do
  let answer ← handler.call token
  if handler.name.isAwaited then return answer.toValue
  else throw (.notAwaitable answer.toValue.typeName)

/-- What a callback gets for a token: the failure, or the awaited answer. -/
def callBack
    (handler : Handler)
    (token : String) : Hosted (Option Thrown × Value) :=
  tryCatch (do return (none, ← handler.callAwaited token)) fun thrown =>
    if thrown.isOrdinary then return (some thrown, .null) else throw thrown

end ConfigTokens.Handler
