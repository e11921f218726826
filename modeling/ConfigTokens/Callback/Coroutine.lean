import ConfigTokens.Failure.Thrown
/-!
# Coroutines

A coroutine waits a number of times and then ends, with a value or by throwing. Whoever drives it resumes
it where it waits: it goes on, or a cancellation is raised there, and what it does with that is its own
affair. It may end, with the cancellation or otherwise, and it may go on and wait again.
-/

namespace ConfigTokens.Callback

/-- How a coroutine that waits is resumed: it goes on, or a cancellation is raised where it waits. -/
inductive Resumption where
  | proceed
  | cancel
  deriving DecidableEq, Repr

/-- A coroutine that has come to its end, or to where it waits next. -/
inductive Coroutine (α : Type) where
  | ended (outcome : Except Thrown α)
  | waiting (resume : Resumption → Coroutine α)

/-- The name of a cancellation's class. -/
def cancellation : String :=
  "CancelledError"

/-- A cancellation as it is raised in a coroutine. -/
def cancelled : Thrown :=
  .raised cancellation ""

/-- The name of the class for the end of an iteration, which cannot leave a coroutine. -/
def iterationEnd : String :=
  "StopIteration"

/-- What becomes of a cause that leaves a coroutine. -/
def leaving
    (thrown : Thrown) : Thrown :=
  if thrown.className = iterationEnd then .raised "RuntimeError" "coroutine raised StopIteration"
  else thrown

namespace Coroutine

variable {α : Type}

/-- Goes on as another coroutine, unless it is cancelled: that is its end. -/
def unlessCancelled
    (next : Coroutine α) : Resumption → Coroutine α
  | .proceed => next
  | .cancel => .ended (.error cancelled)

/-- A coroutine that waits a number of times, and that a cancellation ends where it waits. -/
def suspending
    (outcome : Except Thrown α) : Nat → Coroutine α
  | 0 => .ended outcome
  | count + 1 => .waiting (unlessCancelled (suspending outcome count))

/-- How often a coroutine can be resumed before it ends. -/
def depth : Coroutine α → Nat
  | .ended _ => 0
  | .waiting resume => max (depth (resume .proceed)) (depth (resume .cancel)) + 1

end Coroutine

end ConfigTokens.Callback
