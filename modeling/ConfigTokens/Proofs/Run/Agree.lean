import ConfigTokens.Module.Body
import ConfigTokens.Proofs.Run.Promise
/-!
# Computations that agree

Two computations agree in a world if they end alike there, and the world that they leave keeps what
held before. Computations that are composed of agreeing parts agree. A computation that reads leaves the
world as it is.
-/

namespace ConfigTokens.Module

namespace World

/-- The module of an identity, without globals where there is none. -/
def moduleAt
    (world : World)
    (id : ObjectId) : ModuleObject :=
  (world.module? id).getD ⟨[], "", none, false⟩

/-- The world with a global of a module. -/
def withGlobal
    (world : World)
    (id : ObjectId)
    (name : String)
    (value : Value) : World :=
  let content := world.moduleAt id
  world.setObject id (.module { content with globals := Assoc.put content.globals name value })

end World

namespace Run

variable {α β : Type}

/-! ## How single computations end -/

theorem moduleOf_apply
    (id : ObjectId)
    (world : World) :
    moduleOf id world = .ok (world.moduleAt id) world := rfl

theorem setGlobal_apply
    (id : ObjectId)
    (name : String)
    (value : Value)
    (world : World) :
    setGlobal id name value world = .ok () (world.withGlobal id name value) := rfl

theorem tabled?_apply
    (name : String)
    (world : World) :
    tabled? name world = .ok (world.table.lookup name) world := rfl

theorem tabledOf_of_some
    {name : String}
    {id : ObjectId}
    {world : World}
    (known : world.table.lookup name = some id) :
    tabledOf name world = .ok id world := by
  unfold tabledOf
  rw [bind_of_ok (tabled?_apply name world), known]
  rfl

theorem tabledOf_of_none
    {name : String}
    {world : World}
    (gone : world.table.lookup name = none) :
    tabledOf name world = .error (.importing (.detached name)) world := by
  unfold tabledOf
  rw [bind_of_ok (tabled?_apply name world), gone]
  rfl

theorem get_apply
    (world : World) :
    (get : Run World) world = .ok world world := rfl

theorem final_of_ok
    {run : Run α}
    {world final : World}
    {value : α}
    (ended : run world = .ok value final) :
    run.final world = final := by
  unfold Run.final
  rw [ended]

theorem final_of_error
    {run : Run α}
    {world final : World}
    {thrown : Thrown}
    (ended : run world = .error thrown final) :
    run.final world = final := by
  unfold Run.final
  rw [ended]

theorem final_tryCatch
    (run : Run α)
    (handler : Thrown → Run α)
    (world : World) :
    (tryCatch run handler).final world =
      match run world with
      | .ok _ final => final
      | .error thrown middle => (handler thrown).final middle := by
  change (match EStateM.tryCatch run handler world with
    | .ok _ final | .error _ final => final) = _
  unfold EStateM.tryCatch
  cases run world with
  | ok value middle => rfl
  | error thrown middle => rfl

/-! ## Computations that read -/

/-- The world stays as it is. -/
def Reads
    (run : Run α) : Prop :=
  ∀ world, run.final world = world

namespace Reads

theorem pure
    (value : α) :
    Reads (Pure.pure value) := fun _ => rfl

theorem throw
    (thrown : Thrown) :
    Reads (MonadExcept.throw thrown : Run α) := fun _ => rfl

theorem get :
    Reads (MonadState.get : Run World) := fun _ => rfl

theorem bind
    {run : Run α}
    {next : α → Run β}
    (first : run.Reads)
    (second : ∀ value, (next value).Reads) :
    (run >>= next).Reads := by
  intro world
  rw [final_bind]
  cases ended : run world with
  | ok value middle =>
      have same : middle = world := (final_of_ok ended).symm.trans (first world)
      exact same ▸ second value middle
  | error thrown middle => exact (final_of_error ended).symm.trans (first world)

theorem foldlM
    {step : β → α → Run β}
    (reads : ∀ state item, (step state item).Reads)
    (items : List α)
    (start : β) :
    (items.foldlM step start).Reads := by
  induction items generalizing start with
  | nil => exact pure start
  | cons item rest ih =>
      rw [List.foldlM_cons]
      exact (reads start item).bind ih

end Reads

/-! ## Agreement -/

/-- Two computations end alike in a world, and what they leave satisfies `holds`. -/
structure AgreesAt
    (holds : World → Prop)
    (run other : Run α)
    (world : World) : Prop where
  same : run world = other world
  kept : holds (run.final world)

namespace AgreesAt

variable
    {holds : World → Prop}
    {world : World}

theorem refl
    {run : Run α}
    (kept : holds (run.final world)) :
    AgreesAt holds run run world :=
  ⟨rfl, kept⟩

theorem pure
    (value : α)
    (held : holds world) :
    AgreesAt holds (Pure.pure value) (Pure.pure value) world :=
  refl held

theorem throw
    (thrown : Thrown)
    (held : holds world) :
    AgreesAt holds (MonadExcept.throw thrown : Run α) (MonadExcept.throw thrown) world :=
  refl held

theorem reads
    {run : Run α}
    (reads : run.Reads)
    (held : holds world) :
    AgreesAt holds run run world :=
  refl ((reads world).symm ▸ held)

theorem kept_of_ok
    {run other : Run α}
    (agrees : AgreesAt holds run other world)
    {value : α}
    {middle : World}
    (ended : run world = .ok value middle) :
    holds middle :=
  final_of_ok ended ▸ agrees.kept

theorem kept_of_error
    {run other : Run α}
    (agrees : AgreesAt holds run other world)
    {thrown : Thrown}
    {middle : World}
    (ended : run world = .error thrown middle) :
    holds middle :=
  final_of_error ended ▸ agrees.kept

theorem bind
    {run other : Run α}
    {next further : α → Run β}
    (first : AgreesAt holds run other world)
    (second :
      ∀ value middle, run world = .ok value middle → holds middle →
        AgreesAt holds (next value) (further value) middle) :
    AgreesAt holds (run >>= next) (other >>= further) world := by
  cases ended : run world with
  | ok value middle =>
      have rest := second value middle ended (first.kept_of_ok ended)
      constructor
      · rw [bind_of_ok ended, bind_of_ok (first.same.symm.trans ended)]
        exact rest.same
      · rw [final_bind, ended]
        exact rest.kept
  | error thrown middle =>
      constructor
      · rw [bind_eq_error.mpr (.inl ended), bind_eq_error.mpr (.inl (first.same.symm.trans ended))]
      · rw [final_bind, ended]
        exact first.kept_of_error ended

/-- After a computation whose end is known the rest decides. -/
theorem bind_of_ok
    {run : Run α}
    {next further : α → Run β}
    {value : α}
    {middle : World}
    (ended : run world = .ok value middle)
    (rest : AgreesAt holds (next value) (further value) middle) :
    AgreesAt holds (run >>= next) (run >>= further) world where
  same := by rw [Run.bind_of_ok ended, Run.bind_of_ok ended, rest.same]
  kept := by
    rw [final_bind, ended]
    exact rest.kept

/-- After a failure nothing else is done. -/
theorem bind_of_error
    {run : Run α}
    {next further : α → Run β}
    {thrown : Thrown}
    {middle : World}
    (failed : run world = .error thrown middle)
    (kept : holds middle) :
    AgreesAt holds (run >>= next) (run >>= further) world where
  same := by rw [bind_eq_error.mpr (.inl failed), bind_eq_error.mpr (.inl failed)]
  kept := by
    rw [final_bind, failed]
    exact kept

theorem map
    {run other : Run α}
    (agrees : AgreesAt holds run other world)
    (change : α → β) :
    AgreesAt holds (change <$> run) (change <$> other) world := by
  rw [map_eq_pure_bind, map_eq_pure_bind]
  exact agrees.bind fun value middle _ held => pure _ held

theorem tryCatch
    {run other : Run α}
    {handler further : Thrown → Run α}
    (first : AgreesAt holds run other world)
    (second :
      ∀ thrown middle, run world = .error thrown middle → holds middle →
        AgreesAt holds (handler thrown) (further thrown) middle) :
    AgreesAt holds (MonadExcept.tryCatch run handler) (MonadExcept.tryCatch other further) world := by
  cases ended : run world with
  | ok value middle =>
      constructor
      · rw [tryCatch_eq_ok.mpr (.inl ended), tryCatch_eq_ok.mpr (.inl (first.same.symm.trans ended))]
      · rw [final_tryCatch, ended]
        exact first.kept_of_ok ended
  | error thrown middle =>
      have rest := second thrown middle ended (first.kept_of_error ended)
      constructor
      · change EStateM.tryCatch run handler world = EStateM.tryCatch other further world
        unfold EStateM.tryCatch
        rw [← first.same, ended]
        exact rest.same
      · rw [final_tryCatch, ended]
        exact rest.kept

end AgreesAt

end Run

/-! ## What bodies read -/

namespace Run

theorem moduleOf_reads
    (id : ObjectId) :
    (moduleOf id).Reads := fun _ => rfl

theorem tabled?_reads
    (name : String) :
    (tabled? name).Reads := fun _ => rfl

end Run

namespace Body

theorem global_apply
    (self : ObjectId)
    (name : String)
    (world : World) :
    global self name world =
      match (world.moduleAt self).globals.lookup name with
      | some value => .ok value world
      | none => .error (.unknownName name) world := by
  refine (Run.bind_of_ok (Run.moduleOf_apply self world)).trans ?_
  cases (world.moduleAt self).globals.lookup name <;> rfl

theorem global_reads
    (self : ObjectId)
    (name : String) :
    (global self name).Reads := by
  refine (Run.moduleOf_reads self).bind fun content => ?_
  split
  · exact .pure _
  · exact .throw _

theorem member_reads
    (value : Value)
    (name : String) :
    (member value name).Reads := by
  refine Run.Reads.get.bind fun world => ?_
  split
  · exact .pure _
  · exact .throw _

theorem attributeOrSubmodule_reads
    (id : ObjectId)
    (content : ModuleObject)
    (name : String) :
    (attributeOrSubmodule id content name).Reads := by
  refine Run.Reads.get.bind fun world => ?_
  split
  · exact .pure _
  · refine (Run.tabled?_reads _).bind fun submodule => ?_
    split
    · exact .pure _
    · exact .throw _

end Body

end ConfigTokens.Module
