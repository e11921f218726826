import ConfigTokens.Proofs.Callback.Delivery
/-!
# Tasks that interleave

An action of a schedule touches one task. So a loop follows its schedule: every task is where its own
turns have brought it, and what was delivered in its name is what its own course shows.
-/

namespace ConfigTokens.Callback

open ConfigTokens.Module

/-- Of what a task delivers while it runs, all is in its own name and nothing in that of another one. -/
theorem Call.filter_advance
    (call : Call)
    (number : Nat)
    (progress : Progress)
    (other : Nat) :
    (call.advance number progress).2.filter (·.call = other) =
      if number = other then (call.advance number progress).2 else [] := by
  split
  case isTrue same =>
      rw [List.filter_eq_self]
      intro delivery member
      simp [Call.call_of_mem_advance member, same]
  case isFalse apart =>
      rw [List.filter_eq_nil_iff]
      intro delivery member
      simp [Call.call_of_mem_advance member, apart]

namespace Loop

/-- What was delivered in the name of a task. -/
def deliveriesTo
    (loop : Loop)
    (task : Nat) : List Delivery :=
  loop.delivered.filter (·.call = task)

/-- The actions of a schedule that a loop performs: those that come before it was stopped. -/
def performed
    (loop : Loop) : List Action → List Action
  | [] => []
  | action :: rest =>
    if loop.stopped.isSome then [] else action :: (loop.act action).performed rest

/-! ## One action -/

variable
    {loop : Loop}
    {calls : List Call}
    {past : List Action}

theorem act_of_stopped
    (stopped : loop.stopped.isSome = true)
    (action : Action) :
    loop.act action = loop :=
  if_pos stopped

theorem act_cancel
    (running : ¬loop.stopped.isSome = true)
    {task : Nat}
    {call : Call}
    {progress : Progress}
    (found : loop.tasks[task]? = some (call, progress)) :
    loop.act (.cancel task) =
      { loop with tasks := loop.tasks.set task (call, progress.requestCancel) } := by
  unfold act
  rw [if_neg running]
  dsimp only
  rw [found]

theorem act_run
    (running : ¬loop.stopped.isSome = true)
    {task : Nat}
    {call : Call}
    {progress : Progress}
    (found : loop.tasks[task]? = some (call, progress)) :
    loop.act (.run task) =
      ⟨loop.tasks.set task (call, (call.advance task progress).1),
        loop.delivered ++ (call.advance task progress).2,
        (call.advance task progress).1.stop?⟩ := by
  unfold act
  rw [if_neg running]
  dsimp only
  rw [found]

/-- A turn of a task that is not there is none. -/
theorem act_of_absent
    {task : Nat}
    (absent : loop.tasks[task]? = none)
    {action : Action}
    {turn : Turn}
    (own : action.turn? task = some turn) :
    loop.act action = loop := by
  obtain rfl := Action.eq_of_turn? own
  unfold act
  split
  case isTrue => rfl
  case isFalse =>
      cases turn with
      | run =>
          dsimp only [Turn.action]
          rw [absent]
      | cancel =>
          dsimp only [Turn.action]
          rw [absent]

/-- An action leaves every task alone that it is no turn of. -/
theorem act_frame
    {action : Action}
    {other : Nat}
    (apart : action.turn? other = none) :
    (loop.act action).tasks[other]? = loop.tasks[other]? ∧
      (loop.act action).deliveriesTo other = loop.deliveriesTo other := by
  unfold act deliveriesTo
  split
  case isTrue => exact ⟨rfl, rfl⟩
  case isFalse =>
      cases action with
      | cancel task =>
          have ne : task ≠ other := by
            rintro rfl
            simp [Action.turn?] at apart
          dsimp only
          split
          case h_1 => exact ⟨List.getElem?_set_ne ne, rfl⟩
          case h_2 => exact ⟨rfl, rfl⟩
      | run task =>
          have ne : task ≠ other := by
            rintro rfl
            simp [Action.turn?] at apart
          dsimp only
          split
          case h_1 call progress _ =>
              refine ⟨List.getElem?_set_ne ne, ?_⟩
              rw [List.filter_append, call.filter_advance, if_neg ne, List.append_nil]
          case h_2 => exact ⟨rfl, rfl⟩

/-! ## A schedule -/

/-- Each task of a loop is where its own turns in a schedule have brought it. -/
structure Follows
    (loop : Loop)
    (calls : List Call)
    (past : List Action) : Prop where
  shown task call : calls[task]? = some call →
    loop.tasks[task]? = some (call, ((call.course (turns task past)).shown call task).1) ∧
      loop.deliveriesTo task = ((call.course (turns task past)).shown call task).2
  absent task : calls[task]? = none → loop.tasks[task]? = none ∧ loop.deliveriesTo task = []

end Loop

theorem turns_concat
    (task : Nat)
    (past : List Action)
    (action : Action) :
    turns task (past ++ [action]) = turns task past ++ (action.turn? task).toList := by
  unfold turns
  rw [List.filterMap_append]
  cases turned : action.turn? task with
  | none => simp [turned]
  | some turn => simp [turned]

theorem Call.course_concat
    (call : Call)
    (past : List Turn)
    (turn : Turn) :
    call.course (past ++ [turn]) = (call.course past).next turn := by
  unfold course
  rw [List.foldl_append]
  rfl

namespace Loop

variable
    {loop : Loop}
    {calls : List Call}
    {past : List Action}

/-- Tasks are created one behind the other, and nothing else happens. -/
theorem foldl_create
    (calls : List Call)
    (loop : Loop) :
    calls.foldl create loop =
      { loop with tasks := loop.tasks ++ calls.map fun call => (call, .created call) } := by
  induction calls generalizing loop with
  | nil => simp
  | cons call rest later =>
      rw [List.foldl_cons, later]
      simp [create]

theorem start_eq
    (calls : List Call) :
    start calls = ⟨calls.map fun call => (call, .created call), [], none⟩ :=
  foldl_create calls empty

theorem follows_start
    (calls : List Call) :
    (start calls).Follows calls [] where
  shown task call started := by
    rw [start_eq]
    refine ⟨?_, rfl⟩
    rw [List.getElem?_map, started]
    rfl
  absent task missing := by
    rw [start_eq]
    refine ⟨?_, rfl⟩
    rw [List.getElem?_map, missing]
    rfl

/-- A turn brings the task to where its course shows it then. -/
theorem Follows.turned
    (follows : loop.Follows calls past)
    (running : ¬loop.stopped.isSome = true)
    {task : Nat}
    {call : Call}
    (started : calls[task]? = some call)
    {action : Action}
    {turn : Turn}
    (own : action.turn? task = some turn) :
    (loop.act action).tasks[task]? =
        some (call, (((call.course (turns task past)).next turn).shown call task).1) ∧
      (loop.act action).deliveriesTo task =
        (((call.course (turns task past)).next turn).shown call task).2 := by
  rcases follows.shown task call started with ⟨found, told⟩
  have there : task < loop.tasks.length := (List.getElem?_eq_some_iff.mp found).1
  obtain rfl := Action.eq_of_turn? own
  cases turn with
  | cancel =>
      rw [Turn.action, act_cancel running found, Course.shown_next_cancel]
      exact ⟨List.getElem?_set_self there, told⟩
  | run =>
      rw [Turn.action, act_run running found, Course.shown_next_run]
      refine ⟨List.getElem?_set_self there, ?_⟩
      unfold deliveriesTo at told ⊢
      dsimp only
      rw [List.filter_append, told, call.filter_advance, if_pos rfl]

/-- A loop that follows its schedule follows it after one more action. -/
theorem Follows.act
    (follows : loop.Follows calls past)
    (running : ¬loop.stopped.isSome = true)
    (action : Action) :
    (loop.act action).Follows calls (past ++ [action]) where
  shown task call started := by
    rw [turns_concat]
    cases turned : action.turn? task with
    | none =>
        rcases follows.shown task call started with ⟨found, told⟩
        rcases act_frame turned with ⟨sameTask, sameDeliveries⟩
        rw [sameTask, sameDeliveries, Option.toList_none, List.append_nil]
        exact ⟨found, told⟩
    | some turn =>
        rw [Option.toList_some, Call.course_concat]
        exact follows.turned running started turned
  absent task missing := by
    rcases follows.absent task missing with ⟨away, silent⟩
    cases turned : action.turn? task with
    | none =>
        rcases act_frame turned with ⟨sameTask, sameDeliveries⟩
        exact ⟨sameTask.trans away, sameDeliveries.trans silent⟩
    | some turn =>
        rw [act_of_absent away turned]
        exact ⟨away, silent⟩

/-- A stopped loop stays as it is. -/
theorem perform_of_stopped
    (stopped : loop.stopped.isSome = true)
    (actions : List Action) :
    loop.perform actions = loop := by
  induction actions with
  | nil => rfl
  | cons action rest same =>
      change (loop.act action).perform rest = loop
      rw [act_of_stopped stopped, same]

/-- A loop that has followed a schedule follows what it performs of the rest. -/
theorem Follows.perform
    (follows : loop.Follows calls past)
    (actions : List Action) :
    (loop.perform actions).Follows calls (past ++ loop.performed actions) := by
  induction actions generalizing loop past with
  | nil =>
      rw [performed, List.append_nil]
      exact follows
  | cons action rest later =>
      have first : loop.perform (action :: rest) = (loop.act action).perform rest := rfl
      rw [first, performed]
      split
      case isTrue stopped =>
          rw [act_of_stopped stopped, perform_of_stopped stopped, List.append_nil]
          exact follows
      case isFalse running =>
          have stepped := later (follows.act running action)
          rwa [List.append_assoc] at stepped

end Loop

/-! ## What every call delivers -/

/--
Whatever the schedule of a loop, each call comes to what its own turns make of its handler:

* A call whose task ends cancelled gets no callback.
* A call whose handler ends with a value gets one, with the value, and one whose handler fails gets one,
  with the failure. The task then ends with what the callback throws, and otherwise without a failure.
* A call whose handler is ended by a request gets none, and its task ends with the request.
* A call whose handler still waits has got none, and its handler has ended if the task has run more often
  than the handler can wait.
* Whatever is delivered in the loop is how the handler of the call that gets it has ended.
* In any other loop, among other calls and under another schedule, the call comes to the same if its own
  turns are the same.
-/
theorem deliveries_under_schedule
    {calls : List Call}
    {task : Nat}
    {call : Call}
    (started : calls[task]? = some call)
    (fails : call.FailsOrdinarily)
    (actions : List Action) :
    let after := (Loop.start calls).perform actions
    let turnsOf (task : Nat) := turns task ((Loop.start calls).performed actions)
    let course := call.course (turnsOf task)
    ∃ progress, after.tasks[task]? = some (call, progress) ∧
      (progress = .cancelled → after.deliveriesTo task = []) ∧
      (∀ value, course.outcome? = some (.ok value) →
        after.deliveriesTo task = [⟨task, none, value⟩] ∧
          progress = .ended (call.callback none value)) ∧
      (∀ thrown, course.outcome? = some (.error thrown) →
        if thrown.isOrdinary then
          after.deliveriesTo task = [⟨task, some thrown, .null⟩] ∧
            progress = .ended (call.callback (some thrown) .null)
        else after.deliveriesTo task = [] ∧ progress = progressOf thrown) ∧
      (course.outcome? = none →
        after.deliveriesTo task = [] ∧
          ∃ resume, progress = .pending resume course.cancelRequested) ∧
      (call.work.depth < (turnsOf task).count .run → course.outcome?.isSome = true) ∧
      (∀ delivery ∈ after.delivered, ∃ other, calls[delivery.call]? = some other ∧
        ∃ outcome, (other.course (turnsOf delivery.call)).outcome? = some outcome ∧
          delivery.Tells outcome) ∧
      ∀ (others : List Call) (twin : Nat) (schedule : List Action),
        others[twin]? = some call →
          turns twin ((Loop.start others).performed schedule) = turnsOf task →
            let elsewhere := (Loop.start others).perform schedule
            elsewhere.tasks[twin]? = some (call, progress) ∧
              elsewhere.deliveriesTo twin =
                (after.deliveriesTo task).map fun delivery => { delivery with call := twin } := by
  intro after turnsOf course
  have follows : after.Follows calls ((Loop.start calls).performed actions) :=
    (Loop.follows_start calls).perform actions
  rcases follows.shown task call started with ⟨found, told⟩
  refine ⟨(course.shown call task).1, found, ?_, ?_, ?_, ?_, ?_, ?_, ?_⟩
  · intro cancelled
    rw [told, Course.shown_of_cancelled fails cancelled]
  · intro value ended
    rw [told, Course.shown_of_outcome ended]
    exact ⟨rfl, fails.ofCallback_eq none value⟩
  · intro thrown ended
    rw [told, Course.shown_of_outcome ended]
    unfold Call.upshot
    dsimp only
    split
    case isTrue => exact ⟨rfl, fails.ofCallback_eq (some thrown) .null⟩
    case isFalse request =>
        rw [leaving_of_request ((Bool.not_eq_true _).mp request)]
        exact ⟨rfl, rfl⟩
  · intro waits
    rcases Course.shown_of_waiting waits with ⟨resume, shown⟩
    rw [told, shown]
    exact ⟨rfl, resume, rfl⟩
  · intro often
    rcases Call.exists_ended_of_count often with ⟨outcome, ended⟩
    exact Course.isSome_outcome?_of_ended ended
  · intro delivery member
    have own : delivery ∈ after.deliveriesTo delivery.call :=
      List.mem_filter.mpr ⟨member, decide_eq_true rfl⟩
    cases known : calls[delivery.call]? with
    | none =>
        rw [(follows.absent _ known).2] at own
        cases own
    | some other =>
        rw [(follows.shown _ other known).2] at own
        exact ⟨other, rfl, Course.tells_of_mem_shown own⟩
  · intro others twin schedule among same
    have elsewhere := ((Loop.follows_start others).perform schedule).shown twin call among
    rw [List.nil_append, same, Course.shown_renumbered _ call task twin] at elsewhere
    rw [told]
    exact elsewhere

/-- A call that waits once and has a value, and whose callback raises. -/
def raisingCall : Call :=
  .ofSuspensions 1 (.ok (.str "value")) (some (.raised "ValueError" "late"))

/-- The call beside one that fails at once and one that waits twice. -/
def mixedCalls : List Call :=
  [raisingCall, .ofSuspensions 0 (.error (.raised "KeyError" "key")) none,
    .ofSuspensions 2 (.ok .null) none]

/-- A schedule in which the last task is cancelled where it waits. -/
def mixedSchedule : List Action :=
  [.run 2, .run 0, .run 1, .cancel 2, .run 0, .run 2]

theorem raisingCall_failsOrdinarily :
    raisingCall.FailsOrdinarily := by
  intro failure value thrown threw
  rw [← Option.some.inj threw]
  decide

/-- The callback that raises has got the value once, and its failure is the end of its task only. -/
theorem deliveries_under_mixedSchedule :
    mixedCalls[0]? = some raisingCall ∧ raisingCall.FailsOrdinarily ∧
      ((Loop.start mixedCalls).perform mixedSchedule).deliveriesTo 0 =
        [⟨0, none, .str "value"⟩] ∧
      ((Loop.start mixedCalls).perform mixedSchedule).tasks[0]? =
        some (raisingCall, .ended (some (.raised "ValueError" "late"))) := by
  have started : mixedCalls[0]? = some raisingCall := rfl
  rcases deliveries_under_schedule started raisingCall_failsOrdinarily mixedSchedule with
    ⟨progress, found, -, value, -⟩
  rcases value (.str "value") rfl with ⟨told, ended⟩
  rw [ended] at found
  exact ⟨started, raisingCall_failsOrdinarily, told, found⟩

end ConfigTokens.Callback
