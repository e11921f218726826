import ConfigTokens.Proofs.Callback.Interleaving
/-!
# Calls that nothing cancels

A handler that waits a number of times ends with its outcome in any schedule in which its task runs more
often than that and is not cancelled. Its callback then gets one delivery, which tells that outcome.
-/

namespace ConfigTokens.Callback

open ConfigTokens.Module

namespace Course

/-- A handler that has ended stays as it is. -/
theorem handler_of_ended
    {course : Course}
    {outcome : Except Thrown Value}
    (ended : course.handler = .ended outcome)
    (turns : List Turn) :
    (turns.foldl next course).handler = .ended outcome := by
  induction turns generalizing course with
  | nil => exact ended
  | cons turn rest ih =>
      apply ih
      cases turn with
      | run =>
          show course.resumed.handler = .ended outcome
          unfold resumed
          rw [ended]
          exact ended
      | cancel => exact ended

/-- A handler that waits has ended after one turn more than it waits, if none of them is a request. -/
theorem handler_of_undisturbed
    (outcome : Except Thrown Value)
    {count : Nat}
    {turns : List Turn}
    (undisturbed : .cancel ∉ turns)
    (often : count < turns.length) :
    (turns.foldl next ⟨.waiting (Coroutine.suspending outcome count).unlessCancelled, false⟩).handler =
      .ended outcome := by
  induction turns generalizing count with
  | nil => exact absurd often (Nat.not_lt_zero count)
  | cons turn rest ih =>
      rw [List.mem_cons, not_or] at undisturbed
      cases turn with
      | cancel => exact absurd rfl undisturbed.1
      | run =>
          show (rest.foldl next ⟨Coroutine.suspending outcome count, false⟩).handler = .ended outcome
          cases count with
          | zero => exact handler_of_ended rfl rest
          | succ count =>
              apply ih undisturbed.2
              rw [List.length_cons] at often
              omega

end Course

/-- What the callback of a call has got, once its handler has had the time to end. -/
theorem deliveriesTo_of_undisturbed
    {calls : List Call}
    {task : Nat}
    {call : Call}
    (started : calls[task]? = some call)
    {outcome : Except Thrown Value}
    {count : Nat}
    (waits : call.work = .suspending outcome count)
    {actions : List Action}
    (undisturbed : .cancel ∉ turns task ((Loop.start calls).performed actions))
    (often : count < (turns task ((Loop.start calls).performed actions)).length) :
    ((Loop.start calls).perform actions).deliveriesTo task =
      (call.upshot task (outcome.mapError leaving)).2 := by
  have follows := (Loop.follows_start calls).perform actions
  have told := (follows.shown task call started).2
  rw [List.nil_append] at told
  have ended :
      (call.course (turns task ((Loop.start calls).performed actions))).outcome? =
        some (outcome.mapError leaving) := by
    unfold Course.outcome? Call.course Course.unbegun
    rw [waits, Course.handler_of_undisturbed outcome undisturbed often]
  rw [told, Course.shown_of_outcome ended]

end ConfigTokens.Callback
