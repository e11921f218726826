import ConfigTokens.Callback.Adapter
import ConfigTokens.Proofs.Callback.Interleaving
/-!
# What making adapted calls comes to

Inside a loop an adapted call creates a task and calls nobody, so it cannot throw. Outside of any loop the
callback is called in the frame of the caller, with nothing between the two: what it throws ends the caller,
and the calls that were to follow are not made.
-/

namespace ConfigTokens.Callback

/-! ## A single call -/

/-- What a callback gets in a call that is made outside of any loop. -/
def refusal
    (number : Nat) : Delivery :=
  ⟨number, some .noRunningLoop, .null⟩

/-- What the callback of a call throws when no loop runs. -/
def Call.objection?
    (call : Call) : Option Thrown :=
  call.callback (some .noRunningLoop) .null

theorem make_inside
    (call : Call)
    (loop : Loop) :
    call.make (.inside loop) = .ok (some loop.tasks.length) (.inside (loop.create call)) :=
  rfl

theorem make_outside
    (call : Call)
    (delivered : List Delivery) :
    call.make (.outside delivered) =
      match call.objection? with
      | none => .ok none (.outside (delivered ++ [refusal delivered.length]))
      | some thrown => .error thrown (.outside (delivered ++ [refusal delivered.length])) := by
  have called := call.callBack_apply delivered.length (some .noRunningLoop) .null delivered
  have found :
      (get : Caller Setting) (.outside delivered) =
        .ok (.outside delivered) (.outside delivered) :=
    rfl
  unfold Call.make Call.objection?
  simp only [bind, EStateM.bind, found, called]
  cases call.callback (some .noRunningLoop) .null <;> rfl

/-! ## Calls one after the other -/

theorem makeAll_cons
    (call : Call)
    (calls : List Call)
    (setting : Setting) :
    makeAll (call :: calls) setting =
      match call.make setting with
      | .ok first after =>
        match makeAll calls after with
        | .ok rest final => .ok (first :: rest) final
        | .error thrown final => .error thrown final
      | .error thrown after => .error thrown after := by
  unfold makeAll
  rw [List.mapM_cons]
  simp only [bind, EStateM.bind]
  cases call.make setting with
  | error thrown after => rfl
  | ok first after =>
      dsimp only
      cases calls.mapM Call.make after <;> rfl

/-- Inside a loop every call returns the number of its task. -/
theorem makeAll_inside
    (calls : List Call)
    (loop : Loop) :
    makeAll calls (.inside loop) =
      .ok ((List.range' loop.tasks.length calls.length).map some)
        (.inside (calls.foldl Loop.create loop)) := by
  induction calls generalizing loop with
  | nil => rfl
  | cons call rest later =>
      have length : (loop.create call).tasks.length = loop.tasks.length + 1 := by
        simp [Loop.create]
      rw [makeAll_cons, make_inside]
      dsimp only
      rw [later, length, List.length_cons, List.range'_succ]
      rfl

/-- What is delivered by a number of calls that are made outside of any loop. -/
def refusals
    (first count : Nat) : List Delivery :=
  (List.range' first count).map refusal

/-- Outside of a loop the first callback that throws ends the caller. -/
theorem makeAll_outside
    (calls : List Call)
    (delivered : List Delivery) :
    makeAll calls (.outside delivered) =
      match calls.findSome? Call.objection? with
      | none =>
        .ok (calls.map fun _ => none)
          (.outside (delivered ++ refusals delivered.length calls.length))
      | some thrown =>
        .error thrown
          (.outside
            (delivered ++ refusals delivered.length
              (calls.takeWhile (·.objection?.isNone)).length.succ)) := by
  induction calls generalizing delivered with
  | nil =>
      unfold refusals
      simp [makeAll]
      rfl
  | cons call rest later =>
      have behind (count : Nat) :
          delivered ++ [refusal delivered.length] ++
              refusals (delivered ++ [refusal delivered.length]).length count =
            delivered ++ refusals delivered.length (count + 1) := by
        simp [refusals, List.range'_succ]
      rw [makeAll_cons, make_outside, List.findSome?_cons]
      cases objects : call.objection? with
      | some thrown => simp [objects, refusals]
      | none =>
          dsimp only
          rw [later, behind, List.takeWhile_cons_of_pos (by simp [objects]), List.length_cons]
          cases rest.findSome? Call.objection? with
          | none => rfl
          | some thrown =>
              dsimp only
              rw [behind]
              rfl

/--
Adapted calls that are made one after the other:

* Inside a loop each returns the number of its task, which has not begun; nothing else has changed.
* Outside of any loop each callback gets the failure once and each call returns nothing, as long as no
  callback throws. The first that does ends the caller with what it throws: its own call returns nothing,
  and those behind it are not made.
* So all calls return outside of any loop exactly if no callback throws when it is told that no loop runs.
-/
theorem makeAll_anywhere
    (calls : List Call) :
    (∀ loop : Loop,
      makeAll calls (.inside loop) =
        .ok ((List.range' loop.tasks.length calls.length).map some)
          (.inside
            { loop with tasks := loop.tasks ++ calls.map fun call => (call, .created call) })) ∧
    (∀ delivered : List Delivery,
      makeAll calls (.outside delivered) =
        match calls.findSome? Call.objection? with
        | none =>
          .ok (calls.map fun _ => none)
            (.outside (delivered ++ refusals delivered.length calls.length))
        | some thrown =>
          .error thrown
            (.outside
              (delivered ++ refusals delivered.length
                (calls.takeWhile (·.objection?.isNone)).length.succ))) ∧
    ∀ delivered : List Delivery,
      (∃ returned after, makeAll calls (.outside delivered) = .ok returned after) ↔
        ∀ call ∈ calls, call.callback (some .noRunningLoop) .null = none := by
  refine ⟨fun loop => ?_, makeAll_outside calls, fun delivered => ?_⟩
  · rw [makeAll_inside, Loop.foldl_create]
  · change _ ↔ ∀ call ∈ calls, call.objection? = none
    rw [makeAll_outside, ← List.findSome?_eq_none_iff]
    cases calls.findSome? Call.objection? with
    | none => simp
    | some thrown => simp

/-- Two calls, and the callback of the first one raises. -/
def objectingCalls : List Call :=
  [.ofSuspensions 0 (.ok .null) (some (.raised "ValueError" "first")),
    .ofSuspensions 0 (.ok .null) none]

/-- Adapted calls do not always return, and a callback that raises stops the calls after it. -/
theorem objectingCalls_raise :
    ¬∀ (calls : List Call) (setting : Setting),
      ∃ returned after, makeAll calls setting = .ok returned after := by
  intro claim
  rcases claim objectingCalls (.outside []) with ⟨returned, after, made⟩
  have raised :
      makeAll objectingCalls (.outside []) =
        .error (.raised "ValueError" "first") (.outside [refusal 0]) :=
    makeAll_outside objectingCalls []
  cases raised.symm.trans made

end ConfigTokens.Callback
