import ConfigTokens.Callback.Loop
/-!
# The course of a task

What happens to a task in a schedule are its own turns: it runs, or it is asked to end. They alone decide
how far its handler comes, and that alone decides how far the task has come and what it has delivered.
-/

namespace ConfigTokens.Callback

open ConfigTokens.Module

/-! ## Turns -/

/-- What happens to a single task: it runs, or it is asked to end. -/
inductive Turn where
  | run
  | cancel
  deriving DecidableEq, Repr

/-- The turn of a task in an action. -/
def Action.turn?
    (task : Nat) : Action → Option Turn
  | .run other => if other = task then some .run else none
  | .cancel other => if other = task then some .cancel else none

/-- The action that is a turn of a task. -/
def Turn.action
    (task : Nat) : Turn → Action
  | .run => .run task
  | .cancel => .cancel task

theorem Action.eq_of_turn?
    {action : Action}
    {task : Nat}
    {turn : Turn}
    (own : action.turn? task = some turn) :
    action = turn.action task := by
  cases action with
  | run other =>
      obtain ⟨rfl, rfl⟩ : other = task ∧ .run = turn := by simpa [turn?] using own
      rfl
  | cancel other =>
      obtain ⟨rfl, rfl⟩ : other = task ∧ .cancel = turn := by simpa [turn?] using own
      rfl

/-- The turns of a task in a schedule. -/
def turns
    (task : Nat)
    (actions : List Action) : List Turn :=
  actions.filterMap (Action.turn? task)

/-! ## Courses -/

/-- How far a handler has come, and whether its task was asked to end since. -/
structure Course where
  handler : Coroutine Value
  cancelRequested : Bool

namespace Course

/-- The handler is resumed where it waits. -/
def resumed
    (course : Course) : Course :=
  match course.handler with
  | .waiting resume => ⟨resume (if course.cancelRequested then .cancel else .proceed), false⟩
  | .ended _ => course

/-- The course after one more turn. -/
def next
    (course : Course) : Turn → Course
  | .run => course.resumed
  | .cancel => { course with cancelRequested := true }

/-- The course of a call that has not begun. -/
def unbegun
    (call : Call) : Course :=
  ⟨.waiting call.work.unlessCancelled, false⟩

/-- How far the task of a call has come by a course, and what it has delivered. -/
def shown
    (course : Course)
    (call : Call)
    (number : Nat) : Progress × List Delivery :=
  match course.handler with
  | .waiting resume => (.pending resume course.cancelRequested, [])
  | .ended outcome => call.finish number outcome

theorem depth_resumed
    (course : Course) :
    course.resumed.handler.depth ≤ course.handler.depth - 1 := by
  unfold resumed
  split
  case h_1 resume waits =>
      rw [waits]
      simp only [Coroutine.depth]
      split <;> omega
  case h_2 outcome ended => simp [ended, Coroutine.depth]

/-- With each turn in which its task runs, a handler that has not ended comes closer to its end. -/
theorem depth_foldl_next
    (turns : List Turn)
    (course : Course) :
    (turns.foldl next course).handler.depth ≤ course.handler.depth - turns.count .run := by
  induction turns generalizing course with
  | nil => simp
  | cons turn rest ih =>
      have later := ih (course.next turn)
      cases turn with
      | run =>
          have once := course.depth_resumed
          simp only [List.foldl_cons, next, List.count_cons_self] at later ⊢
          omega
      | cancel => simpa [next] using later

theorem exists_ended_of_depth
    {coroutine : Coroutine Value}
    (none : coroutine.depth = 0) :
    ∃ outcome, coroutine = .ended outcome := by
  cases coroutine with
  | ended outcome => exact ⟨outcome, rfl⟩
  | waiting resume => simp [Coroutine.depth] at none

end Course

/-- The course of a call in its turns. -/
def Call.course
    (call : Call)
    (turns : List Turn) : Course :=
  turns.foldl Course.next (.unbegun call)

/-- A handler ends if its task runs more often than the handler can wait. -/
theorem Call.exists_ended_of_count
    {call : Call}
    {turns : List Turn}
    (often : call.work.depth < turns.count .run) :
    ∃ outcome, (call.course turns).handler = .ended outcome := by
  have start : (Course.unbegun call).handler.depth = call.work.depth + 1 := by
    simp [Course.unbegun, Coroutine.depth, Coroutine.unlessCancelled]
  have spent := Course.depth_foldl_next turns (.unbegun call)
  exact Course.exists_ended_of_depth (by unfold Call.course; omega)

end ConfigTokens.Callback
