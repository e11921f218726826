import ConfigTokens.Proofs.Callback.Course
/-!
# Deliveries under any schedule

Each action of a schedule is a turn of one task and leaves the others alone. So what a task has come to,
and what its callback has got, is what its course shows, whatever the other tasks do. A callback gets one
delivery if its handler ends otherwise than by a request, and none if not; what a callback throws is the
end of its task and is delivered to nobody.
-/

namespace ConfigTokens

namespace Thrown

/-- An ordinary failure is of no class of the requests to end. -/
theorem className_of_isOrdinary
    {thrown : Thrown}
    (ordinary : thrown.isOrdinary = true) :
    requestClasses.contains thrown.className = false := by
  -- A failure of a decoder may name another one as its cause, at any depth.
  have decoding (failure : Codec.Failure) :
      requestClasses.contains failure.className = false := by
    induction failure with
    | within _ cause named => exact named
    | _ => rfl
  cases thrown with
  | raised className text => simpa [isOrdinary, Thrown.className] using ordinary
  | decoding failure => exact decoding failure
  | document fault => cases fault <;> rfl
  | importing fault => cases fault <;> rfl
  | unreadable fault path => cases fault <;> rfl
  | reported error context => cases error <;> rfl
  | chained error context cause => cases error <;> rfl
  | _ => rfl

end Thrown

namespace Callback

open ConfigTokens.Module

/-! ## The end of a task -/

/-- A callback that throws failures only, and none that cannot leave a coroutine. -/
def Call.FailsOrdinarily
    (call : Call) : Prop :=
  ∀ failure value thrown, call.callback failure value = some thrown →
    thrown.isOrdinary = true ∧ thrown.className ≠ iterationEnd

theorem leaving_of_ne
    {thrown : Thrown}
    (other : thrown.className ≠ iterationEnd) :
    leaving thrown = thrown :=
  if_neg other

theorem progressOf_of_isOrdinary
    {thrown : Thrown}
    (ordinary : thrown.isOrdinary = true) :
    progressOf thrown = .ended (some thrown) := by
  have apart : thrown.className ≠ cancellation := by
    intro same
    have listed := Thrown.className_of_isOrdinary ordinary
    rw [same] at listed
    exact absurd listed (by decide)
  exact if_neg apart

/-- What the task of a callback ends with. -/
def Progress.ofCallback : Option Thrown → Progress
  | none => .ended none
  | some thrown => progressOf (leaving thrown)

namespace Call

theorem callBack_apply
    (call : Call)
    (number : Nat)
    (failure : Option Thrown)
    (value : Value)
    (delivered : List Delivery) :
    call.callBack number failure value delivered =
      match call.callback failure value with
      | none => .ok () (delivered ++ [⟨number, failure, value⟩])
      | some thrown => .error thrown (delivered ++ [⟨number, failure, value⟩]) := by
  unfold callBack
  cases call.callback failure value <;> rfl

/-- The task of a handler that has returned a value is the call of the callback. -/
theorem settle_ok
    (call : Call)
    (number : Nat)
    (value : Value) :
    call.settle number (.ok value) = call.callBack number none value :=
  rfl

/-- What a task does about a failure of its handler; what the callback throws then is not caught. -/
theorem settle_error
    (call : Call)
    (number : Nat)
    (thrown : Thrown)
    (delivered : List Delivery) :
    call.settle number (.error thrown) delivered =
      if thrown.isOrdinary then call.callBack number (some thrown) .null delivered
      else .error thrown delivered := by
  change
    EStateM.bind
      (if thrown.isOrdinary then do
          call.callBack number (some thrown) .null
          return none
        else throw thrown)
      _ delivered = _
  cases thrown.isOrdinary with
  | false => rfl
  | true =>
      rw [if_pos rfl, if_pos rfl]
      simp only [EStateM.bind, bind]
      cases call.callBack number (some thrown) .null delivered <;> rfl

/-- What a task comes to by the way in which its handler has ended, and what it delivers. -/
def upshot
    (call : Call)
    (number : Nat) : Except Thrown Value → Progress × List Delivery
  | .ok value => (.ofCallback (call.callback none value), [⟨number, none, value⟩])
  | .error thrown =>
    if thrown.isOrdinary then
      (.ofCallback (call.callback (some thrown) .null), [⟨number, some thrown, .null⟩])
    else (progressOf (leaving thrown), [])

theorem finish_apply
    (call : Call)
    (number : Nat)
    (outcome : Except Thrown Value) :
    call.finish number outcome = call.upshot number (outcome.mapError leaving) := by
  unfold finish upshot
  cases outcome.mapError leaving with
  | ok value =>
      rw [settle_ok, callBack_apply]
      dsimp only
      cases call.callback none value <;> rfl
  | error thrown =>
      rw [settle_error]
      dsimp only
      cases thrown.isOrdinary with
      | false => rfl
      | true =>
          rw [if_pos rfl, if_pos rfl, callBack_apply]
          cases call.callback (some thrown) .null <;> rfl

end Call

/-- A task that is done: nothing that happens to it changes how it has ended. -/
def Progress.IsDone : Progress → Prop
  | .pending .. => False
  | _ => True

theorem isDone_progressOf
    (thrown : Thrown) :
    (progressOf thrown).IsDone := by
  unfold progressOf
  split <;> trivial

theorem Call.isDone_finish
    (call : Call)
    (number : Nat)
    (outcome : Except Thrown Value) :
    (call.finish number outcome).1.IsDone := by
  have called (failure : Option Thrown) : (Progress.ofCallback failure).IsDone := by
    cases failure with
    | none => trivial
    | some thrown => exact isDone_progressOf _
  rw [finish_apply]
  unfold upshot
  split
  case h_1 => exact called _
  case h_2 =>
      split
      case isTrue => exact called _
      case isFalse => exact isDone_progressOf _

theorem Progress.IsDone.requestCancel_eq
    {progress : Progress}
    (done : progress.IsDone) :
    progress.requestCancel = progress := by
  cases progress with
  | pending resume cancelRequested => exact done.elim
  | _ => rfl

theorem Progress.IsDone.advance_eq
    {progress : Progress}
    (done : progress.IsDone)
    (call : Call)
    (number : Nat) :
    call.advance number progress = (progress, []) := by
  cases progress with
  | pending resume cancelRequested => exact done.elim
  | _ => rfl

/-! ## A turn of a task -/

namespace Course

variable
    (course : Course)
    (call : Call)
    (number : Nat)

/-- A task is asked to end as its course says. -/
theorem shown_next_cancel :
    (course.next .cancel).shown call number =
      ((course.shown call number).1.requestCancel, (course.shown call number).2) := by
  unfold shown next
  cases course.handler with
  | waiting resume => rfl
  | ended outcome =>
      dsimp only
      rw [(call.isDone_finish number outcome).requestCancel_eq]

/-- A task runs as its course says. -/
theorem shown_next_run :
    (course.next .run).shown call number =
      ((call.advance number (course.shown call number).1).1,
        (course.shown call number).2 ++ (call.advance number (course.shown call number).1).2) := by
  cases course with
  | mk handler cancelRequested =>
      cases handler with
      | waiting resume =>
          unfold shown next resumed Call.advance
          dsimp only
          cases resume (if cancelRequested then .cancel else .proceed) <;> rfl
      | ended outcome =>
          have done := call.isDone_finish number outcome
          unfold shown next resumed
          dsimp only
          rw [done.advance_eq, List.append_nil]

end Course

/-- A task that runs delivers in its own name only. -/
theorem Call.call_of_mem_advance
    {call : Call}
    {number : Nat}
    {progress : Progress}
    {delivery : Delivery}
    (member : delivery ∈ (call.advance number progress).2) :
    delivery.call = number := by
  have named (outcome : Except Thrown Value) (member : delivery ∈ (call.finish number outcome).2) :
      delivery.call = number := by
    rw [call.finish_apply] at member
    unfold upshot at member
    split at member
    case h_1 => rw [List.mem_singleton.mp member]
    case h_2 =>
        split at member
        case isTrue => rw [List.mem_singleton.mp member]
        case isFalse => cases member
  unfold advance at member
  split at member
  case h_1 =>
      split at member
      case h_1 => cases member
      case h_2 outcome _ => exact named outcome member
  case h_2 => cases member

/-! ## What a course shows -/

/-- A delivery tells how a handler has ended: with a value, or with a failure that is no request. -/
def Delivery.Tells
    (delivery : Delivery) : Except Thrown Value → Prop
  | .ok value => delivery.failure = none ∧ delivery.value = value
  | .error thrown =>
    thrown.isOrdinary = true ∧ delivery.failure = some thrown ∧ delivery.value = .null

namespace Course

/-- How the handler has ended, for whoever awaits it. -/
def outcome?
    (course : Course) : Option (Except Thrown Value) :=
  match course.handler with
  | .waiting _ => none
  | .ended outcome => some (outcome.mapError leaving)

variable
    {course : Course}
    {call : Call}
    {number : Nat}

theorem isSome_outcome?_of_ended
    {raw : Except Thrown Value}
    (ended : course.handler = .ended raw) :
    course.outcome?.isSome = true := by
  unfold outcome?
  rw [ended]
  rfl

theorem shown_of_waiting
    (waits : course.outcome? = none) :
    ∃ resume, ∀ call number,
      course.shown call number = (.pending resume course.cancelRequested, []) := by
  cases course with
  | mk handler cancelRequested =>
      cases handler with
      | waiting resume => exact ⟨resume, fun _ _ => rfl⟩
      | ended => cases waits

theorem shown_of_outcome
    {outcome : Except Thrown Value}
    (ended : course.outcome? = some outcome) :
    course.shown call number = call.upshot number outcome := by
  cases course with
  | mk handler cancelRequested =>
      cases handler with
      | waiting => cases ended
      | ended raw =>
          cases ended
          exact call.finish_apply number raw

end Course

/-- The task of a callback that fails ordinarily ends with its failure, or without one. -/
theorem Call.FailsOrdinarily.ofCallback_eq
    {call : Call}
    (fails : call.FailsOrdinarily)
    (failure : Option Thrown)
    (value : Value) :
    Progress.ofCallback (call.callback failure value) = .ended (call.callback failure value) := by
  cases threw : call.callback failure value with
  | none => rfl
  | some thrown =>
      rcases fails failure value thrown threw with ⟨ordinary, other⟩
      unfold Progress.ofCallback
      dsimp only
      rw [leaving_of_ne other, progressOf_of_isOrdinary ordinary]

/-- A request to end leaves a coroutine as it is. -/
theorem leaving_of_request
    {thrown : Thrown}
    (request : thrown.isOrdinary = false) :
    leaving thrown = thrown := by
  apply leaving_of_ne
  cases thrown with
  | raised className text =>
      rintro rfl
      cases request
  | _ => cases request

namespace Course

variable
    {course : Course}
    {call : Call}
    {number : Nat}

/-- A task that ends cancelled has delivered nothing. -/
theorem shown_of_cancelled
    (fails : call.FailsOrdinarily)
    (cancelled : (course.shown call number).1 = .cancelled) :
    (course.shown call number).2 = [] := by
  cases ended : course.outcome? with
  | none =>
      rcases shown_of_waiting ended with ⟨resume, shown⟩
      rw [shown]
  | some outcome =>
      rw [shown_of_outcome ended] at cancelled ⊢
      unfold Call.upshot at cancelled ⊢
      split at cancelled
      case h_1 value =>
          rw [fails.ofCallback_eq] at cancelled
          cases cancelled
      case h_2 thrown =>
          split at cancelled
          case isTrue =>
              rw [fails.ofCallback_eq] at cancelled
              cases cancelled
          case isFalse request => exact if_neg request ▸ rfl

/-- What a task has delivered tells how its handler has ended. -/
theorem tells_of_mem_shown
    {delivery : Delivery}
    (member : delivery ∈ (course.shown call number).2) :
    ∃ outcome, course.outcome? = some outcome ∧ delivery.Tells outcome := by
  cases ended : course.outcome? with
  | none =>
      rcases shown_of_waiting ended with ⟨resume, shown⟩
      rw [shown] at member
      cases member
  | some outcome =>
      refine ⟨outcome, rfl, ?_⟩
      rw [shown_of_outcome ended] at member
      unfold Call.upshot at member
      split at member
      case h_1 value =>
          rw [List.mem_singleton.mp member]
          exact ⟨rfl, rfl⟩
      case h_2 thrown =>
          split at member
          case isTrue ordinary =>
              rw [List.mem_singleton.mp member]
              exact ⟨ordinary, rfl, rfl⟩
          case isFalse => cases member

/-- What a course shows is the same for a task of another number, but for the number. -/
theorem shown_renumbered
    (course : Course)
    (call : Call)
    (number twin : Nat) :
    course.shown call twin =
      ((course.shown call number).1,
        (course.shown call number).2.map fun delivery => { delivery with call := twin }) := by
  cases ended : course.outcome? with
  | none =>
      rcases shown_of_waiting ended with ⟨resume, shown⟩
      rw [shown, shown]
      rfl
  | some outcome =>
      rw [shown_of_outcome ended, shown_of_outcome ended]
      unfold Call.upshot
      split
      case h_1 => rfl
      case h_2 => split <;> rfl

end Course

end Callback

end ConfigTokens
