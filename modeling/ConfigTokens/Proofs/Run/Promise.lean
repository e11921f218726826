import ConfigTokens.Module.World
/-!
# Promises of computations

A computation on the world ends with a value or by throwing, and leaves a world either way. The
inversion lemmas take the end of a composed computation apart. A `Promise` says how a computation may
change the world and what it may throw; since the changes compose, a computation keeps a promise as
soon as its parts keep it.
-/

namespace ConfigTokens.Module

namespace Run

variable {α β : Type}

/-! ## How composed computations end -/

theorem bind_eq_ok
    {run : Run α}
    {next : α → Run β}
    {world final : World}
    {result : β} :
    (run >>= next) world = .ok result final ↔
      ∃ value middle,
        run world = .ok value middle ∧ next value middle = .ok result final := by
  change EStateM.bind run next world = _ ↔ _
  unfold EStateM.bind
  cases run world with
  | ok value middle => simp [and_assoc]
  | error thrown middle => simp

theorem bind_eq_error
    {run : Run α}
    {next : α → Run β}
    {world final : World}
    {thrown : Thrown} :
    (run >>= next) world = .error thrown final ↔
      run world = .error thrown final ∨
        ∃ value middle,
          run world = .ok value middle ∧ next value middle = .error thrown final := by
  change EStateM.bind run next world = _ ↔ _
  unfold EStateM.bind
  cases run world with
  | ok value middle => simp [and_assoc]
  | error other middle => simp

theorem bind_of_ok
    {run : Run α}
    {next : α → Run β}
    {world middle : World}
    {value : α}
    (ended : run world = .ok value middle) :
    (run >>= next) world = next value middle := by
  change EStateM.bind run next world = _
  unfold EStateM.bind
  rw [ended]

theorem bind_congr
    {run other : Run α}
    {world : World}
    (same : run world = other world)
    (next : α → Run β) :
    (run >>= next) world = (other >>= next) world := by
  change EStateM.bind run next world = EStateM.bind other next world
  unfold EStateM.bind
  rw [same]

theorem tryCatch_eq_ok
    {run : Run α}
    {handler : Thrown → Run α}
    {world final : World}
    {result : α} :
    tryCatch run handler world = .ok result final ↔
      run world = .ok result final ∨
        ∃ thrown middle,
          run world = .error thrown middle ∧ handler thrown middle = .ok result final := by
  change EStateM.tryCatch run handler world = _ ↔ _
  unfold EStateM.tryCatch
  cases run world with
  | ok value middle => simp
  | error thrown middle =>
      simp [EStateM.Backtrackable.restore, EStateM.dummyRestore, and_assoc]

theorem tryCatch_eq_error
    {run : Run α}
    {handler : Thrown → Run α}
    {world final : World}
    {thrown : Thrown} :
    tryCatch run handler world = .error thrown final ↔
      ∃ first middle,
        run world = .error first middle ∧ handler first middle = .error thrown final := by
  change EStateM.tryCatch run handler world = _ ↔ _
  unfold EStateM.tryCatch
  cases run world with
  | ok value middle => simp
  | error first middle =>
      simp [EStateM.Backtrackable.restore, EStateM.dummyRestore, and_assoc]

/-- The world that a computation leaves, be its end a value or not. -/
def final
    (run : Run α)
    (world : World) : World :=
  match run world with
  | .ok _ final | .error _ final => final

theorem final_congr
    {run other : Run α}
    {world start : World}
    (same : run world = other start) :
    run.final world = other.final start := by
  unfold final
  rw [same]

theorem final_bind
    (run : Run α)
    (next : α → Run β)
    (world : World) :
    (run >>= next).final world =
      match run world with
      | .ok value middle => (next value).final middle
      | .error _ final => final := by
  change (match EStateM.bind run next world with
    | .ok _ final | .error _ final => final) = _
  unfold EStateM.bind
  cases run world with
  | ok value middle => rfl
  | error thrown final => rfl

theorem final_map
    (change : α → β)
    (run : Run α)
    (world : World) :
    (change <$> run).final world = run.final world := by
  rw [map_eq_pure_bind, final_bind]
  unfold final
  cases run world with
  | ok value middle => rfl
  | error thrown final => rfl

end Run

/-! ## Promises -/

/-- How a computation may change the world, and what it may throw. -/
structure Promise where
  moves : World → World → Prop
  throws : Thrown → Prop
  refl : ∀ world, moves world world
  trans : ∀ {first second third}, moves first second → moves second third → moves first third

/-- The same promise for the world, with anything thrown. -/
def Promise.unbound
    (promise : Promise) : Promise where
  moves := promise.moves
  throws _ := True
  refl := promise.refl
  trans := promise.trans

namespace Run

variable {α β : Type}

/-- A computation keeps a promise, from whatever world it starts. -/
structure Keeps
    (run : Run α)
    (promise : Promise) : Prop where
  moves_of_ok : ∀ {world value final}, run world = .ok value final → promise.moves world final
  moves_of_error :
    ∀ {world thrown final}, run world = .error thrown final → promise.moves world final
  throws_of_error :
    ∀ {world thrown final}, run world = .error thrown final → promise.throws thrown

namespace Keeps

variable {promise : Promise}

theorem pure
    (value : α) :
    (Pure.pure value : Run α).Keeps promise where
  moves_of_ok ended := by
    cases ended
    exact promise.refl _
  moves_of_error ended := by cases ended
  throws_of_error ended := by cases ended

theorem throw
    {thrown : Thrown}
    (allowed : promise.throws thrown) :
    (MonadExcept.throw thrown : Run α).Keeps promise where
  moves_of_ok ended := by cases ended
  moves_of_error ended := by
    cases ended
    exact promise.refl _
  throws_of_error ended := by
    cases ended
    exact allowed

/-- A computation that only changes the world, in a way that the promise allows. -/
theorem modify
    {change : World → World}
    (allowed : ∀ world, promise.moves world (change world)) :
    (modify change : Run PUnit).Keeps promise where
  moves_of_ok ended := by
    cases ended
    exact allowed _
  moves_of_error ended := by cases ended
  throws_of_error ended := by cases ended

theorem get :
    (MonadState.get : Run World).Keeps promise where
  moves_of_ok ended := by
    cases ended
    exact promise.refl _
  moves_of_error ended := by cases ended
  throws_of_error ended := by cases ended

theorem unbound
    {run : Run α}
    (kept : run.Keeps promise) :
    run.Keeps promise.unbound where
  moves_of_ok := kept.moves_of_ok
  moves_of_error := kept.moves_of_error
  throws_of_error _ := trivial

theorem bind
    {run : Run α}
    {next : α → Run β}
    (first : run.Keeps promise)
    (second : ∀ value, (next value).Keeps promise) :
    (run >>= next).Keeps promise where
  moves_of_ok ended := by
    rcases bind_eq_ok.mp ended with ⟨value, middle, early, late⟩
    exact promise.trans (first.moves_of_ok early) ((second value).moves_of_ok late)
  moves_of_error ended := by
    rcases bind_eq_error.mp ended with early | ⟨value, middle, early, late⟩
    · exact first.moves_of_error early
    · exact promise.trans (first.moves_of_ok early) ((second value).moves_of_error late)
  throws_of_error ended := by
    rcases bind_eq_error.mp ended with early | ⟨value, middle, -, late⟩
    · exact first.throws_of_error early
    · exact (second value).throws_of_error late

theorem map
    {run : Run α}
    (kept : run.Keeps promise)
    (change : α → β) :
    (change <$> run).Keeps promise := by
  rw [map_eq_pure_bind]
  exact kept.bind fun value => pure (change value)

theorem tryCatch
    {run : Run α}
    {handler : Thrown → Run α}
    (first : run.Keeps promise)
    (second : ∀ thrown, promise.throws thrown → (handler thrown).Keeps promise) :
    (MonadExcept.tryCatch run handler).Keeps promise where
  moves_of_ok ended := by
    rcases tryCatch_eq_ok.mp ended with early | ⟨thrown, middle, early, late⟩
    · exact first.moves_of_ok early
    · have handled := second thrown (first.throws_of_error early)
      exact promise.trans (first.moves_of_error early) (handled.moves_of_ok late)
  moves_of_error ended := by
    rcases tryCatch_eq_error.mp ended with ⟨thrown, middle, early, late⟩
    have handled := second thrown (first.throws_of_error early)
    exact promise.trans (first.moves_of_error early) (handled.moves_of_error late)
  throws_of_error ended := by
    rcases tryCatch_eq_error.mp ended with ⟨thrown, middle, early, late⟩
    exact (second thrown (first.throws_of_error early)).throws_of_error late

theorem moves_final
    {run : Run α}
    (kept : run.Keeps promise)
    (world : World) :
    promise.moves world (run.final world) := by
  unfold final
  split
  case h_1 value final ended => exact kept.moves_of_ok ended
  case h_2 thrown final ended => exact kept.moves_of_error ended

theorem forM_option
    {action : α → Run PUnit}
    (kept : ∀ value, (action value).Keeps promise)
    (value? : Option α) :
    (value?.forM action).Keeps promise := by
  cases value? with
  | none => exact pure _
  | some value => exact kept value

theorem foldlM
    {step : β → α → Run β}
    (kept : ∀ state item, (step state item).Keeps promise)
    (items : List α)
    (start : β) :
    (items.foldlM step start).Keeps promise := by
  induction items generalizing start with
  | nil => exact pure start
  | cons item rest ih =>
      rw [List.foldlM_cons]
      exact (kept start item).bind ih

end Keeps

end Run

end ConfigTokens.Module
