import ConfigTokens.Callback.Coroutine
import ConfigTokens.Module.Value
/-!
# Callbacks in a loop

A handler whose answer is awaited can be adapted to a callback, which gets the failure or the answer.
In a loop each adapted call is a task of its own: it drives the handler, and when that has ended it calls
the callback. Requests to end are not delivered, so a task that is cancelled makes no callback unless its
handler ends otherwise. `Loop.act` performs one action, and `Loop.perform` a whole schedule of them.
-/

namespace ConfigTokens.Callback

open ConfigTokens.Module

/-- What a callback gets in a call: the failure of a handler, or its value. -/
structure Delivery where
  call : Nat
  failure : Option Thrown
  value : Value

/-- Code that calls callbacks; what they have got is kept. -/
abbrev Calling :=
  EStateM Thrown (List Delivery)

/-- An adapted call: a handler with its token, and what the callback throws for what it gets. -/
structure Call where
  handler : String → Coroutine Value
  token : String
  callback : Option Thrown → Value → Option Thrown

/-- How far a task has come. -/
inductive Progress where
  | pending (resume : Resumption → Coroutine Value) (cancelRequested : Bool)
  | ended (failure : Option Thrown)
  | cancelled

/-- Tasks by number, what was delivered, and a request to end that stopped the loop. -/
structure Loop where
  tasks : List (Call × Progress)
  delivered : List Delivery
  stopped : Option Thrown

/-- What happens next in a loop. -/
inductive Action where
  | run (task : Nat)
  | cancel (task : Nat)
  deriving DecidableEq, Repr

/-- A task that ends with a cause. -/
def progressOf
    (thrown : Thrown) : Progress :=
  if thrown.className = cancellation then .cancelled else .ended (some thrown)

/-- The classes for requests that stop the whole loop. -/
def stopClasses : List String :=
  ["KeyboardInterrupt", "SystemExit"]

/-- The cause stops the whole loop. -/
def isStop
    (thrown : Thrown) : Bool :=
  stopClasses.contains thrown.className

namespace Call

/-- A call whose handler waits a number of times, and whose callback always ends in the same way. -/
def ofSuspensions
    (suspensions : Nat)
    (result : Except Thrown Value)
    (callbackFailure : Option Thrown) : Call where
  handler _ := .suspending result suspensions
  token := ""
  callback _ _ := callbackFailure

/-- The handler at work on its token. -/
def work
    (call : Call) : Coroutine Value :=
  call.handler call.token

/-- Calls the callback. -/
def callBack
    (call : Call)
    (number : Nat)
    (failure : Option Thrown)
    (value : Value) : Calling Unit := do
  modify fun delivered => delivered ++ [⟨number, failure, value⟩]
  (call.callback failure value).forM throw

/-- What a task does when its handler has ended; the callback's own failure is not caught. -/
def settle
    (call : Call)
    (number : Nat)
    (outcome : Except Thrown Value) : Calling Unit := do
  let answer ← tryCatch (some <$> MonadExcept.ofExcept outcome) fun thrown => do
    if thrown.isOrdinary then
      call.callBack number (some thrown) .null
      return none
    else throw thrown
  match answer with
  | some value => call.callBack number none value
  | none => return

/-- The end of a task whose handler has ended, and what it delivers. -/
def finish
    (call : Call)
    (number : Nat)
    (outcome : Except Thrown Value) : Progress × List Delivery :=
  match call.settle number (outcome.mapError leaving) [] with
  | .ok _ delivered => (.ended none, delivered)
  | .error thrown delivered => (progressOf (leaving thrown), delivered)

/-- The task runs until it waits or ends. -/
def advance
    (call : Call)
    (number : Nat) : Progress → Progress × List Delivery
  | .pending resume cancelRequested =>
    match resume (if cancelRequested then .cancel else .proceed) with
    | .waiting next => (.pending next false, [])
    | .ended outcome => call.finish number outcome
  | done => (done, [])

end Call

namespace Progress

/-- A task that has not begun. -/
def created
    (call : Call) : Progress :=
  .pending call.work.unlessCancelled false

/-- Asks a task to end; one that has ended stays as it is. -/
def requestCancel : Progress → Progress
  | .pending resume _ => .pending resume true
  | done => done

/-- The request to end that stops the whole loop. -/
def stop? : Progress → Option Thrown
  | .ended (some thrown) => if isStop thrown then some thrown else none
  | _ => none

/-- What a task reports: nothing, its failure, or that it was cancelled. -/
def report : Progress → Option Thrown
  | .ended failure => failure
  | .cancelled => some Callback.cancelled
  | .pending .. => none

end Progress

namespace Loop

/-- A loop without tasks. -/
def empty : Loop :=
  ⟨[], [], none⟩

/-- Creates a task for a call. -/
def create
    (loop : Loop)
    (call : Call) : Loop :=
  { loop with tasks := loop.tasks ++ [(call, .created call)] }

/-- A loop in which tasks have been created for calls. -/
def start
    (calls : List Call) : Loop :=
  calls.foldl create empty

/-- Performs an action; a task that is not there and a loop that was stopped do nothing. -/
def act
    (loop : Loop)
    (action : Action) : Loop :=
  if loop.stopped.isSome then loop
  else
    match action with
    | .cancel task =>
      match loop.tasks[task]? with
      | some (call, progress) =>
        { loop with tasks := loop.tasks.set task (call, progress.requestCancel) }
      | none => loop
    | .run task =>
      match loop.tasks[task]? with
      | some (call, progress) =>
        let (after, delivered) := call.advance task progress
        { tasks := loop.tasks.set task (call, after)
          delivered := loop.delivered ++ delivered
          stopped := after.stop? }
      | none => loop

/-- Performs actions in order. -/
def perform
    (loop : Loop)
    (actions : List Action) : Loop :=
  actions.foldl act loop

end Loop

end ConfigTokens.Callback
