import ConfigTokens.Proofs.Invocation.Execute
import ConfigTokens.Proofs.Nesting.Consistent
import ConfigTokens.Proofs.Registry.Identity
import ConfigTokens.Proofs.Run.Call
/-!
# Functions that count their calls

A function that counts gives its number and is one further afterwards. Nothing but a call of the function
itself changes it: loads make new objects and change the globals of modules, and the names in the table are
those of modules, so an import binds nothing in a function. `World.Counting.after` says what one call
does to a counter, and `World.Counting.afterCalls` what a run does.
-/

namespace ConfigTokens.Module

/-! ## Objects that changes keep -/

namespace World

variable
    {world : World}
    {id : ObjectId}

theorem function?_eq_some_iff
    {content : FunctionObject} :
    world.function? id = some content ↔ world.objects[id]? = some (.function content) := by
  unfold function?
  split
  case h_1 found there => simp [there]
  case h_2 other => exact ⟨nofun, fun there => (other _ there).elim⟩

end World

/-! ## Tables of modules -/

/-- An identity is that of a module. -/
def World.IsModule
    (world : World)
    (id : ObjectId) : Prop :=
  ∃ content, world.objects[id]? = some (.module content)

namespace World.IsModule

variable
    {world : World}
    {id : ObjectId}

theorem push
    (module : world.IsModule id)
    (object : Object) :
    (world.push object).IsModule id := by
  obtain ⟨content, there⟩ := module
  exact ⟨content, objects_push_of_some there object⟩

theorem newest
    (world : World)
    (content : ModuleObject) :
    (world.push (.module content)).IsModule world.objects.size :=
  ⟨content, Array.getElem?_push_size⟩

theorem setModule
    (module : world.IsModule id)
    (other : ObjectId)
    (content : ModuleObject) :
    (world.setObject other (.module content)).IsModule id := by
  obtain ⟨own, there⟩ := module
  by_cases same : id = other
  · subst same
    obtain ⟨made, -⟩ := Array.getElem?_eq_some_iff.mp there
    exact ⟨content, by simp [setObject, made]⟩
  · exact ⟨own, (objects_setObject_of_ne same _).trans there⟩

theorem setFunction
    (module : world.IsModule id)
    {other : ObjectId}
    {content : FunctionObject}
    (found : world.function? other = some content)
    (changed : FunctionObject) :
    (world.setObject other (.function changed)).IsModule id := by
  obtain ⟨own, there⟩ := module
  refine ⟨own, (objects_setObject_of_ne ?_ _).trans there⟩
  rintro rfl
  cases there.symm.trans (function?_eq_some_iff.mp found)

end World.IsModule

/-- The names in the table are those of modules. -/
def World.TablesModules
    (world : World) : Prop :=
  ∀ name id, world.table.lookup name = some id → world.IsModule id

namespace World.TablesModules

variable
    {world final : World}

theorem mono
    (tables : world.TablesModules)
    (table : ∀ name id, final.table.lookup name = some id → world.table.lookup name = some id)
    (modules : ∀ id, world.IsModule id → final.IsModule id) :
    final.TablesModules :=
  fun name id known => modules id (tables name id (table name id known))

theorem push
    (tables : world.TablesModules)
    (object : Object) :
    (world.push object).TablesModules :=
  tables.mono (fun _ _ known => known) fun _ module => module.push object

theorem setModule
    (tables : world.TablesModules)
    (id : ObjectId)
    (content : ModuleObject) :
    (world.setObject id (.module content)).TablesModules :=
  tables.mono (fun _ _ known => known) fun _ module => module.setModule id content

theorem untabulate
    (tables : world.TablesModules)
    (name : String) :
    (world.untabulate name).TablesModules := by
  refine tables.mono (fun other id known => ?_) fun _ module => module
  rw [lookup_untabulate] at known
  split at known
  · cases known
  · exact known

/-- A new module gets a name. -/
theorem pushNamed
    (tables : world.TablesModules)
    (content : ModuleObject)
    (name : String) :
    ((world.push (.module content)).tabulate name world.objects.size).TablesModules := by
  intro other id known
  rw [lookup_tabulate] at known
  split at known
  case isTrue =>
      cases known
      exact .newest world content
  case isFalse => exact tables.push _ other id known

end World.TablesModules

/-- The regime of worlds whose table has modules only. -/
def Regime.tablesModules
    (site : Site) : Regime site where
  holds _ world := world.TablesModules
  imports _ := True
  searched _ _ := True
  above _ _ := trivial
  push object tables := tables.push object
  trace _ tables := tables
  note _ _ tables := tables
  assign _ _ _ tables := tables.setModule _ _
  mark _ _ tables := tables.setModule _ _
  search _ _ _ := trivial
  bind _ _ tables _ _ := tables.setModule _ _
  enter _ _ tables := tables
  document _ _ tables _ := tables.push _
  openFile _ tables _ := tables.pushNamed _ _
  closeFile _ _ tables := tables
  discardFile _ _ _ tables := tables.untabulate _
  found _ _ _ _ tables _ := tables.pushNamed _ _
  openImport _ _ _ _ tables _ := tables.pushNamed _ _
  closeImport _ tables := tables
  failImport _ tables := tables.untabulate _

namespace World.TablesModules

theorem after
    {world : World}
    (tables : world.TablesModules)
    (call : Call) :
    (call.after world).TablesModules := by
  let regime := Regime.tablesModules call.site
  have free : regime.Free := fun _ => trivial
  have changes {world : World} {id : ObjectId} {content : FunctionObject}
      (found : world.function? id = some content) (held : regime.holds .outside world)
      (changed : FunctionObject) :
      regime.holds .outside (world.setObject id (.function changed)) :=
    World.TablesModules.mono held (fun _ _ known => known) fun _ module =>
      module.setFunction found changed
  have held : regime.holds .outside world := tables
  exact Regime.after_holds free changes held

theorem afterCalls
    {world : World}
    (tables : world.TablesModules)
    (calls : List Call) :
    (world.afterCalls calls).TablesModules := by
  induction calls generalizing world with
  | nil => exact tables
  | cons call rest ih => exact ih (tables.after call)

end World.TablesModules

/-! ## Objects that loads leave alone -/

/-- An object that is no module under way, and that the table has no name for. -/
structure World.Shelters
    (world : World)
    (id : ObjectId)
    (object : Object)
    (stage : Stage) : Prop where
  there : world.objects[id]? = some object
  unnamed : ∀ name, world.table.lookup name ≠ some id
  idle : stage.self ≠ some id

namespace World.Shelters

variable
    {world final : World}
    {id : ObjectId}
    {object : Object}
    {stage : Stage}

theorem push
    (shelters : world.Shelters id object stage)
    (other : Object) :
    (world.push other).Shelters id object stage where
  there := objects_push_of_some shelters.there other
  unnamed := shelters.unnamed
  idle := shelters.idle

theorem setObject
    (shelters : world.Shelters id object stage)
    {other : ObjectId}
    (apart : id ≠ other)
    (changed : Object) :
    (world.setObject other changed).Shelters id object stage where
  there := (objects_setObject_of_ne apart changed).trans shelters.there
  unnamed := shelters.unnamed
  idle := shelters.idle

theorem setOwn
    (shelters : world.Shelters id object stage)
    {self : ObjectId}
    (own : stage.self = some self)
    (changed : Object) :
    (world.setObject self changed).Shelters id object stage :=
  shelters.setObject (fun same => shelters.idle (same ▸ own)) changed

theorem ne_newest
    (shelters : world.Shelters id object stage) :
    some world.objects.size ≠ some id := by
  intro same
  cases same
  obtain ⟨made, -⟩ := Array.getElem?_eq_some_iff.mp shelters.there
  exact absurd made (Nat.lt_irrefl _)

theorem pushNamed
    (shelters : world.Shelters id object stage)
    (content : ModuleObject)
    (name : String) :
    ((world.push (.module content)).tabulate name world.objects.size).Shelters id object stage where
  there := objects_push_of_some shelters.there _
  unnamed other known := by
    rw [lookup_tabulate] at known
    split at known
    · exact shelters.ne_newest known
    · exact shelters.unnamed other known
  idle := shelters.idle

theorem untabulate
    (shelters : world.Shelters id object stage)
    (name : String) :
    (world.untabulate name).Shelters id object stage where
  there := shelters.there
  unnamed other known := by
    rw [lookup_untabulate] at known
    split at known
    · cases known
    · exact shelters.unnamed other known
  idle := shelters.idle

/-- Another module is under way, or none. -/
theorem inStage
    {inner : Stage}
    (shelters : world.Shelters id object stage)
    (idle : inner.self ≠ some id) :
    world.Shelters id object inner :=
  ⟨shelters.there, shelters.unnamed, idle⟩

end World.Shelters

/-- The regime of loads that leave an object alone. -/
def Regime.shelters
    (site : Site)
    (id : ObjectId)
    (object : Object) : Regime site where
  holds stage world := world.Shelters id object stage
  imports _ := True
  searched _ _ := True
  above _ _ := trivial
  push other shelters := shelters.push other
  trace _ shelters := ⟨shelters.there, shelters.unnamed, shelters.idle⟩
  note _ _ shelters := ⟨shelters.there, shelters.unnamed, shelters.idle⟩
  assign _ _ own shelters := shelters.setOwn own _
  mark _ own shelters := shelters.setOwn own _
  search _ _ _ := trivial
  bind _ _ shelters _ known := shelters.setObject (fun same => shelters.unnamed _ (same ▸ known)) _
  enter _ _ shelters := ⟨shelters.there, shelters.unnamed, shelters.idle⟩
  document _ _ shelters _ :=
    have pushed := shelters.push _
    ⟨pushed.there, pushed.unnamed, pushed.idle⟩
  openFile _ shelters _ :=
    have opened := shelters.pushNamed _ _
    ⟨opened.there, opened.unnamed, shelters.ne_newest⟩
  closeFile before _ shelters := shelters.inStage before.idle
  discardFile _ before _ shelters :=
    have closed := (shelters.inStage before.idle).untabulate _
    ⟨closed.there, closed.unnamed, closed.idle⟩
  found _ _ _ _ shelters _ := shelters.pushNamed _ _
  openImport _ _ _ _ shelters _ := (shelters.pushNamed _ _).inStage shelters.ne_newest
  closeImport before shelters := shelters.inStage before.idle
  failImport before shelters := (shelters.inStage before.idle).untabulate _

/-! ## Calls of a counter -/

/-- A call that executes a token which designates a function. -/
def Call.CallsFunction
    (call : Call)
    (world : World)
    (id : ObjectId) : Prop :=
  ∃ base token loaded middle,
    call.request = .execute base token ∧
      call.load world = .ok loaded middle ∧
        Designates middle loaded.value (Reference.parse token).member (.function id)

open scoped Classical in
/-- How often a run of calls calls a function. -/
noncomputable def World.timesCalled
    (id : ObjectId) : World → List Call → Nat
  | _, [] => 0
  | world, call :: rest =>
    (if call.CallsFunction world id then 1 else 0) + timesCalled id (call.after world) rest

/-- A function that counts stands at a number. -/
structure World.Counting
    (world : World)
    (id : ObjectId)
    (log : Option String)
    (next : Int) : Prop where
  tables : world.TablesModules
  counter : world.function? id = some ⟨log, .counts next⟩

namespace World.Counting

variable
    {world : World}
    {id : ObjectId}
    {log : Option String}
    {next : Int}

theorem shelters
    (counting : world.Counting id log next) :
    world.Shelters id (.function ⟨log, .counts next⟩) .outside where
  there := function?_eq_some_iff.mp counting.counter
  unnamed name known := by
    obtain ⟨content, there⟩ := counting.tables name id known
    cases there.symm.trans (function?_eq_some_iff.mp counting.counter)
  idle := nofun

/-- A load leaves a counter alone, whether it succeeds or fails. -/
theorem load
    (counting : world.Counting id log next)
    (call : Call) :
    (call.load.final world).Shelters id (.function ⟨log, .counts next⟩) .outside := by
  let regime := Regime.shelters call.site id (.function ⟨log, .counts next⟩)
  have free : regime.Free := fun _ => trivial
  have held : regime.holds .outside world := counting.shelters
  exact (Regime.load_agrees free.permitsSite call.request (fun _ _ => trivial) held).kept

/-- A counter that is called gives its number, and stands at the next one. -/
theorem invoke_counter
    (interpreter : Interpreter)
    (loader : Loader)
    (counter : world.function? id = some ⟨log, .counts next⟩) :
    ∃ final, invoke interpreter loader (.function id) world = .ok (.int next) final ∧
      final.function? id = some ⟨log, .counts (next + 1)⟩ := by
  obtain ⟨made, -⟩ := Array.getElem?_eq_some_iff.mp (function?_eq_some_iff.mp counter)
  have called (world : World) (made : id < world.objects.size) :
      (world.setObject id (.function ⟨log, .counts (next + 1)⟩)).function? id =
        some ⟨log, .counts (next + 1)⟩ :=
    function?_eq_some_iff.mpr (by simp [setObject, made])
  unfold invoke
  dsimp only
  rw [Run.bind_of_ok (Run.get_apply world), counter]
  cases log with
  | none => exact ⟨_, rfl, called world made⟩
  | some text => exact ⟨_, rfl, called (world.trace text) made⟩

/-- What a call that calls a counter gives. -/
theorem executed
    (counting : world.Counting id log next)
    {site : Site}
    {base token : String}
    (calls : (⟨site, .execute base token⟩ : Call).CallsFunction world id) :
    ∃ final, executeToken site (.forSite site) base token world = .ok (.int next) final ∧
      final.function? id = some ⟨log, .counts (next + 1)⟩ := by
  obtain ⟨_, _, loaded, middle, ⟨⟩, ended, designates⟩ := calls
  have kept := counting.load ⟨site, .execute base token⟩
  rw [Run.final_of_ok ended] at kept
  obtain ⟨final, called, counter⟩ :=
    invoke_counter site.interpreter (.forSite site) (function?_eq_some_iff.mpr kept.there)
  refine ⟨final, ?_, counter⟩
  exact (Run.bind_of_ok ended).trans ((invokeLoaded_of_designates designates).trans called)

/-- A call that calls a counter moves it on. -/
theorem after_of_calls
    (counting : world.Counting id log next)
    {call : Call}
    (calls : call.CallsFunction world id) :
    (call.after world).Counting id log (next + 1) where
  tables := counting.tables.after call
  counter := by
    obtain ⟨site, request⟩ := call
    obtain ⟨base, token, loaded, middle, rfl, rest⟩ := calls
    obtain ⟨final, ended, counter⟩ := counting.executed ⟨base, token, loaded, middle, rfl, rest⟩
    rw [Call.after_execute, Run.final_of_ok ended]
    exact counter

/-- Every other call leaves a counter alone. -/
theorem after_of_not_calls
    (counting : world.Counting id log next)
    {call : Call}
    (other : ¬call.CallsFunction world id) :
    (call.after world).Counting id log next where
  tables := counting.tables.after call
  counter := by
    let regime := Regime.shelters call.site id (.function ⟨log, .counts next⟩)
    have kept : regime.holds .outside (call.load.final world) := counting.load call
    suffices held : regime.holds .outside (call.after world) from
      function?_eq_some_iff.mpr (World.Shelters.there held)
    unfold Call.after Call.run
    rw [Run.final_bind]
    cases ended : call.load world with
    | error thrown middle =>
        rw [Run.final_of_error ended] at kept
        exact kept
    | ok loaded middle =>
        rw [Run.final_of_ok ended] at kept
        have free : regime.Free := fun _ => trivial
        have agrees := Regime.ofDepth_agrees free.permitsSite call.site.depth .outside
        refine Regime.use_holds (fun base token operation request found => ?_) kept
        refine Regime.invoke_holds free agrees (fun {_ given _} called _ held changed => ?_) kept
        have apart : id ≠ given := by
          rintro rfl
          subst called
          exact other ⟨base, token, loaded, middle, request, ended,
            findTarget_eq_invokable_iff.mp found⟩
        exact World.Shelters.setObject held apart _

/-- After a run of calls a counter has moved on once for each call of it. -/
theorem afterCalls
    (counting : world.Counting id log next)
    (calls : List Call) :
    (world.afterCalls calls).Counting id log (next + timesCalled id world calls) := by
  induction calls generalizing world next with
  | nil =>
      have sum : next + timesCalled id world [] = next := Int.add_zero next
      rw [sum]
      exact counting
  | cons call rest ih =>
      by_cases called : call.CallsFunction world id
      · have later := ih (counting.after_of_calls called)
        have sum :
            next + timesCalled id world (call :: rest) =
              next + 1 + timesCalled id (call.after world) rest := by
          simp only [timesCalled, if_pos called]
          omega
        rw [sum]
        exact later
      · have later := ih (counting.after_of_not_calls called)
        have sum :
            next + timesCalled id world (call :: rest) =
              next + timesCalled id (call.after world) rest := by
          simp only [timesCalled, if_neg called]
          omega
        rw [sum]
        exact later

end World.Counting

theorem World.tablesModules_empty :
    World.empty.TablesModules := by
  intro name id known
  cases known

/--
A function that counts has been made in a run of calls, and stands at a number. Whatever calls follow, a
call that executes a token which designates the function gives that number and one more for each call that
has called the function since.
-/
theorem number_of_call
    {earlier : List Call}
    {id : ObjectId}
    {log : Option String}
    {start : Int}
    (made : (World.empty.afterCalls earlier).function? id = some ⟨log, .counts start⟩)
    {later : List Call}
    {site : Site}
    {base token : String}
    (calls :
      (⟨site, .execute base token⟩ : Call).CallsFunction
        ((World.empty.afterCalls earlier).afterCalls later) id) :
    ∃ final,
      executeToken site (.forSite site) base token
          ((World.empty.afterCalls earlier).afterCalls later) =
        .ok (.int (start + World.timesCalled id (World.empty.afterCalls earlier) later)) final := by
  have counting : (World.empty.afterCalls earlier).Counting id log start :=
    ⟨World.tablesModules_empty.afterCalls earlier, made⟩
  obtain ⟨final, ended, -⟩ := (counting.afterCalls later).executed calls
  exact ⟨final, ended⟩

/-- A body that makes a function which counts from five. -/
def countingBody : List Step :=
  [.assign "number" (.function none (.counts 5))]

/-- A call that executes the token of the function. -/
def numberCall : Call :=
  ⟨loneSite countingBody, .execute "/site" "./a.py#number"⟩

theorem key?_numberCall :
    (numberCall.request.aim numberCall.site).key? numberCall.site = some loneFile := by
  have aimed : numberCall.request.aim (loneSite []) = .path loneFile := by decide
  have same : numberCall.request.aim numberCall.site = .path loneFile := aimed
  rw [same]
  exact key?_loneFile countingBody

section Number

variable
    {world : World}
    (known : world.answer? none loneFile = some (.module 0))
    (member : attribute? world (.module 0) "number" = some (.function 1))

include known

theorem load_numberCall :
    numberCall.load world = .ok (.module 0) (world.note (.asked none loneFile (some (.module 0)))) :=
  Request.load_of_answer? key?_numberCall known

include member

theorem numberCall_callsFunction :
    numberCall.CallsFunction world 1 := by
  have parsed : Reference.parse "./a.py#number" = ⟨"./a.py", some "number"⟩ := by decide
  refine ⟨"/site", "./a.py#number", .module 0, _, rfl, load_numberCall known, ?_⟩
  rw [parsed]
  exact .member (.ofAttribute (fun _ => nofun) member) (.itself rfl)

theorem after_numberCall
    {next : Int}
    (counter : world.function? 1 = some ⟨none, .counts next⟩) :
    numberCall.after world =
      (world.note (.asked none loneFile (some (.module 0)))).setObject 1
        (.function ⟨none, .counts (next + 1)⟩) := by
  obtain ⟨_, _, loaded, middle, ⟨⟩, ended, designates⟩ := numberCall_callsFunction known member
  cases ended.symm.trans (load_numberCall known)
  have executed :
      executeToken (loneSite countingBody) (.forSite (loneSite countingBody)) "/site"
          "./a.py#number" world =
        invoke .usual (.forSite (loneSite countingBody)) (.function 1)
          (world.note (.asked none loneFile (some (.module 0)))) :=
    (Run.bind_of_ok ended).trans (invokeLoaded_of_designates designates)
  have found :
      (world.note (.asked none loneFile (some (.module 0)))).function? 1 =
        some ⟨none, .counts next⟩ := counter
  unfold numberCall
  rw [Call.after_execute, Run.final_congr executed]
  unfold invoke
  dsimp only
  rw [Run.final_bind, Run.get_apply]
  dsimp only
  rw [found]
  rfl

end Number

namespace World

/-- The module with the function has been loaded. -/
def counted : World :=
  ((((empty.note (.asked none loneFile none)).opened none loneFile).push
      (.function ⟨none, .counts 5⟩)).withGlobal 0 "number" (.function 1)).note
    (.bodyEnded none loneFile (synthesizedName loneFile) 0)

/-- The function has been called once. -/
def countedOnce : World :=
  (counted.note (.asked none loneFile (some (.module 0)))).setObject 1
    (.function ⟨none, .counts 6⟩)

end World

theorem after_loneCall_countingBody :
    (loneCall countingBody).after .empty = .counted := by
  have ended : (loneCall countingBody).load .empty = .ok (.module 0) .counted := by
    rw [load_loneCall countingBody World.empty rfl, loadSource_apply, run_loneFile]
    rfl
  rw [Call.after_of_load_eq_ok ended]
  rfl

/-- The function that counts from five gives six when it is called again. -/
theorem number_of_numberCall :
    ∃ final,
      executeToken (loneSite countingBody) (.forSite (loneSite countingBody)) "/site"
          "./a.py#number" (numberCall.after ((loneCall countingBody).after .empty)) =
        .ok (.int 6) final := by
  have first : World.empty.afterCalls [loneCall countingBody] = .counted :=
    after_loneCall_countingBody
  have called : numberCall.CallsFunction .counted 1 := numberCall_callsFunction rfl rfl
  have counter : World.counted.function? 1 = some ⟨none, .counts 5⟩ := rfl
  have once : numberCall.after .counted = .countedOnce := after_numberCall rfl rfl counter
  have second :
      (World.empty.afterCalls [loneCall countingBody]).afterCalls [numberCall] = .countedOnce := by
    rw [first]
    exact once
  have made :
      (World.empty.afterCalls [loneCall countingBody]).function? 1 = some ⟨none, .counts 5⟩ := by
    rw [first]
    exact counter
  have again :
      numberCall.CallsFunction
        ((World.empty.afterCalls [loneCall countingBody]).afterCalls [numberCall]) 1 := by
    rw [second]
    exact numberCall_callsFunction rfl rfl
  obtain ⟨final, ended⟩ := number_of_call made again
  have times : World.timesCalled 1 .counted [numberCall] = 1 := by
    simp [World.timesCalled, called]
  rw [first, times] at ended
  rw [after_loneCall_countingBody]
  exact ⟨final, ended⟩

end ConfigTokens.Module
