import ConfigTokens.Module.Import
import ConfigTokens.Proofs.Run.Promise
/-!
# Promises of module bodies and imports

A body makes objects, changes globals, logs and requires; an import also changes the table of modules.
A promise that admits each of these is kept by every body and every import whose loads keep it.
-/

namespace ConfigTokens.Module

/-- A promise that allows what calls do: they make objects, change them and log. -/
structure Promise.AdmitsObjects
    (promise : Promise) : Prop where
  push : ∀ world object, promise.moves world (world.push object)
  setObject : ∀ world id object, promise.moves world (world.setObject id object)
  trace : ∀ world text, promise.moves world (world.trace text)

/-- A promise that allows what bodies and imports do apart from the loads that they start. -/
structure Promise.Admits
    (promise : Promise)
    (site : Site) : Prop extends promise.AdmitsObjects where
  tabulate : ∀ world name id, promise.moves world (world.tabulate name id)
  untabulate : ∀ world name, promise.moves world (world.untabulate name)
  ordinary : ∀ {thrown}, thrown.isOrdinary = true → promise.throws thrown
  raised :
    ∀ {file steps className text},
      site.program file = .ok (.steps steps) → Step.raise className text ∈ steps →
        promise.throws (.raised className text)

/-- A loader whose loads keep a promise. -/
structure Loader.Keeps
    (loader : Loader)
    (promise : Promise) : Prop where
  require : ∀ base token, (loader.require base token).Keeps promise
  importModule : ∀ name, (loader.importModule name).Keeps promise

/-- A loader with which bodies keep a promise: when they require, and when they import. -/
structure Loader.Serves
    (loader : Loader)
    (promise : Promise) : Prop where
  require : ∀ self token, (Body.require loader self token).Keeps promise
  importModule : ∀ name, (loader.importModule name).Keeps promise

variable
    {promise : Promise}
    {site : Site}
    {loader : Loader}

theorem Site.isOrdinary_of_program_eq_error
    {file : String}
    {thrown : Thrown}
    (unread : site.program file = .error thrown) :
    thrown.isOrdinary = true := by
  unfold Site.program at unread
  split at unread
  · cases unread
    rfl
  · cases unread
  · split at unread <;> cases unread

/-! ## Objects and globals -/

namespace Run

theorem allocate_keeps
    (admits : promise.AdmitsObjects)
    (object : Object) :
    (allocate object).Keeps promise where
  moves_of_ok ended := by
    cases ended
    exact admits.push _ _
  moves_of_error ended := by cases ended
  throws_of_error ended := by cases ended

theorem moduleOf_keeps
    (id : ObjectId) :
    (moduleOf id).Keeps promise :=
  Keeps.get.bind fun _ => .pure _

theorem changeModule_keeps
    (admits : promise.AdmitsObjects)
    (id : ObjectId)
    (change : ModuleObject → ModuleObject) :
    (changeModule id change).Keeps promise :=
  (moduleOf_keeps id).bind fun _ => .modify fun _ => admits.setObject _ _ _

theorem tabled?_keeps
    (name : String) :
    (tabled? name).Keeps promise :=
  Keeps.get.bind fun _ => .pure _

end Run

namespace Literal

mutual

theorem build_keeps
    (admits : promise.AdmitsObjects) :
    (literal : Literal) → (build literal).Keeps promise
  | .null => .pure _
  | .bool _ => .pure _
  | .int _ => .pure _
  | .float _ => .pure _
  | .str _ => .pure _
  | .bytes _ => .pure _
  | .list items => (buildItems_keeps admits items).bind fun _ => .pure _
  | .mapping members => (buildMembers_keeps admits members).bind fun _ => .pure _
  | .function log outcome =>
      (Run.allocate_keeps admits (.function ⟨log, outcome⟩)).bind fun _ => .pure _
  | .answering answer => (build_keeps admits answer).bind fun _ => .pure _
  | .classType _ => .pure _
  | .record attributes => (buildMembers_keeps admits attributes).bind fun _ => .pure _
  | .module globals =>
      (buildMembers_keeps admits globals).bind fun _ =>
        (Run.allocate_keeps admits _).bind fun _ => .pure _

theorem buildItems_keeps
    (admits : promise.AdmitsObjects) :
    (items : List Literal) → (buildItems items).Keeps promise
  | [] => .pure _
  | item :: rest =>
      (build_keeps admits item).bind fun _ =>
        (buildItems_keeps admits rest).bind fun _ => .pure _

theorem buildMembers_keeps
    (admits : promise.AdmitsObjects) :
    (members : List (String × Literal)) → (buildMembers members).Keeps promise
  | [] => .pure _
  | (_, member) :: rest =>
      (build_keeps admits member).bind fun _ =>
        (buildMembers_keeps admits rest).bind fun _ => .pure _

end

end Literal

/-! ## What bodies require -/

/-- What a body requires ends like the load, and is noted when the load succeeds. -/
theorem Body.require_apply
    (loader : Loader)
    (self : ObjectId)
    (token : String)
    (world : World) :
    ∃ base, Body.require loader self token world =
      match loader.require base token world with
      | .ok answer middle => .ok answer.value (middle.note (.required self base token answer))
      | .error thrown middle => .error thrown middle := by
  let content := (world.module? self).getD ⟨[], "", none, false⟩
  refine ⟨Path.directoryText (content.file?.getD ""), ?_⟩
  change EStateM.bind (loader.require (Path.directoryText (content.file?.getD "")) token) _ world = _
  unfold EStateM.bind
  cases loader.require (Path.directoryText (content.file?.getD "")) token world with
  | ok answer middle => rfl
  | error thrown middle => rfl

/-- What the body of a file requires, when the load succeeds. -/
theorem Body.require_of_ok
    {self : ObjectId}
    {file token : String}
    {content : ModuleObject}
    {world middle : World}
    {answer : Export}
    (module : world.module? self = some content)
    (place : content.file? = some file)
    (loaded : loader.require (Path.directoryText file) token world = .ok answer middle) :
    Body.require loader self token world =
      .ok answer.value
        (middle.note (.required self (Path.directoryText file) token answer)) := by
  have read : Run.moduleOf self world = .ok content world := by
    change EStateM.Result.ok ((world.module? self).getD _) world = _
    rw [module, Option.getD_some]
  unfold Body.require
  rw [Run.bind_of_ok read, place, Option.getD_some, Run.bind_of_ok loaded]
  rfl

/-- What the body of a file requires, when the load fails. -/
theorem Body.require_of_error
    {self : ObjectId}
    {file token : String}
    {content : ModuleObject}
    {world middle : World}
    {thrown : Thrown}
    (module : world.module? self = some content)
    (place : content.file? = some file)
    (failed : loader.require (Path.directoryText file) token world = .error thrown middle) :
    Body.require loader self token world = .error thrown middle := by
  have read : Run.moduleOf self world = .ok content world := by
    change EStateM.Result.ok ((world.module? self).getD _) world = _
    rw [module, Option.getD_some]
  unfold Body.require
  rw [Run.bind_of_ok read, place, Option.getD_some]
  exact Run.bind_eq_error.mpr (.inl failed)

/-- What a body requires keeps a promise that its loads keep, also with the note of a load that succeeds. -/
theorem Body.require_keeps
    (keeps : ∀ base token, (loader.require base token).Keeps promise)
    (self : ObjectId)
    (token : String)
    (noted :
      ∀ {base world answer middle}, loader.require base token world = .ok answer middle →
        promise.moves world (middle.note (.required self base token answer))) :
    (Body.require loader self token).Keeps promise := by
  constructor
  · intro world value final ended
    obtain ⟨base, same⟩ := Body.require_apply loader self token world
    rw [same] at ended
    split at ended
    case h_1 answer middle loaded =>
        cases ended
        exact noted loaded
    case h_2 => cases ended
  · intro world thrown final ended
    obtain ⟨base, same⟩ := Body.require_apply loader self token world
    rw [same] at ended
    split at ended
    case h_1 => cases ended
    case h_2 cause middle failed =>
        cases ended
        exact (keeps base token).moves_of_error failed
  · intro world thrown final ended
    obtain ⟨base, same⟩ := Body.require_apply loader self token world
    rw [same] at ended
    split at ended
    case h_1 => cases ended
    case h_2 cause middle failed =>
        cases ended
        exact (keeps base token).throws_of_error failed

/-- Bodies keep a promise of their loads that allows what a body notes of them. -/
theorem Loader.Keeps.serves
    (loads : loader.Keeps promise)
    (required :
      ∀ world self base token answer,
        promise.moves world (world.note (.required self base token answer))) :
    loader.Serves promise where
  require self token :=
    Body.require_keeps loads.require self token fun loaded =>
      promise.trans ((loads.require _ token).moves_of_ok loaded) (required _ self _ token _)
  importModule := loads.importModule

namespace Body

/-! ## Steps of a body -/

theorem runStep_require_of_ok
    {self : ObjectId}
    {token : String}
    {world middle : World}
    {value : Value}
    (required : require loader self token world = .ok value middle)
    (name : String) :
    runStep loader self (.require name token) world = Run.setGlobal self name value middle :=
  Run.bind_of_ok required

/-- A failure of what is required becomes the value, and the body goes on. -/
theorem runStep_tryRequire_of_error
    {self : ObjectId}
    {token : String}
    {world middle : World}
    {thrown : Thrown}
    (failed : require loader self token world = .error thrown middle)
    (ordinary : thrown.isOrdinary = true)
    (name : String) :
    runStep loader self (.tryRequire name token) world =
      Run.setGlobal self name (.str (failureCode thrown)) middle := by
  have caught : tryRequire loader self token world = .ok (.str (failureCode thrown)) middle := by
    refine Run.tryCatch_eq_ok.mpr (.inr ⟨thrown, middle, failed, ?_⟩)
    rw [if_pos ordinary]
    rfl
  exact Run.bind_of_ok caught

theorem runStep_tryRequire_of_ok
    {self : ObjectId}
    {token : String}
    {world middle : World}
    {value : Value}
    (required : require loader self token world = .ok value middle)
    (name : String) :
    runStep loader self (.tryRequire name token) world = Run.setGlobal self name value middle :=
  Run.bind_of_ok (Run.tryCatch_eq_ok.mpr (.inl required))

theorem runSteps_cons_of_ok
    {self : ObjectId}
    {step : Step}
    {world middle : World}
    (stepped : runStep loader self step world = .ok () middle)
    (rest : List Step) :
    runSteps loader self (step :: rest) world = runSteps loader self rest middle :=
  Run.bind_of_ok stepped

theorem runSteps_append_of_ok
    {self : ObjectId}
    {steps : List Step}
    {world middle : World}
    (ended : runSteps loader self steps world = .ok () middle)
    (rest : List Step) :
    runSteps loader self (steps ++ rest) world = runSteps loader self rest middle := by
  induction steps generalizing world with
  | nil =>
      cases ended
      rfl
  | cons step later ih =>
      obtain ⟨⟨⟩, after, stepped, further⟩ := Run.bind_eq_ok.mp ended
      rw [List.cons_append, runSteps_cons_of_ok stepped]
      exact ih further

theorem run_of_program
    {file : String}
    {steps : List Step}
    (read : site.program file = .ok (.steps steps))
    (loader : Loader)
    (self : ObjectId) :
    run site loader self file = runSteps loader self steps := by
  unfold run
  rw [read]

/-- A body stops where what it requires first fails to load. -/
theorem run_of_failed_require
    {self : ObjectId}
    {file place name token : String}
    {rest : List Step}
    {content : ModuleObject}
    {world middle : World}
    {thrown : Thrown}
    (read : site.program file = .ok (.steps (.require name token :: rest)))
    (module : world.module? self = some content)
    (placed : content.file? = some place)
    (failed : loader.require (Path.directoryText place) token world = .error thrown middle) :
    run site loader self file world = .error thrown middle := by
  rw [run_of_program read]
  have stopped := require_of_error module placed failed
  exact Run.bind_eq_error.mpr (.inl (Run.bind_eq_error.mpr (.inl stopped)))

theorem global_keeps
    (admits : promise.Admits site)
    (self : ObjectId)
    (name : String) :
    (global self name).Keeps promise := by
  refine (Run.moduleOf_keeps self).bind fun content => ?_
  split
  · exact .pure _
  · exact .throw (admits.ordinary rfl)

theorem member_keeps
    (admits : promise.Admits site)
    (value : Value)
    (name : String) :
    (member value name).Keeps promise := by
  refine Run.Keeps.get.bind fun world => ?_
  split
  · exact .pure _
  · exact .throw (admits.ordinary rfl)

theorem tryRequire_keeps
    (serves : loader.Serves promise)
    (self : ObjectId)
    (token : String) :
    (tryRequire loader self token).Keeps promise := by
  refine (serves.require self token).tryCatch fun thrown allowed => ?_
  split
  · exact .pure _
  · exact .throw allowed

theorem importMember_keeps
    (serves : loader.Serves promise)
    (name : String) :
    (importMember loader name).Keeps promise := by
  refine ((serves.importModule name).map _).tryCatch fun thrown allowed => ?_
  split
  · split
    · exact .pure _
    · exact .throw allowed
  · exact .throw allowed

theorem attributeOrSubmodule_keeps
    (admits : promise.Admits site)
    (id : ObjectId)
    (content : ModuleObject)
    (name : String) :
    (attributeOrSubmodule id content name).Keeps promise := by
  refine Run.Keeps.get.bind fun world => ?_
  split
  · exact .pure _
  · refine (Run.tabled?_keeps _).bind fun submodule => ?_
    split
    · exact .pure _
    · exact .throw (admits.ordinary rfl)

theorem importedMember_keeps
    (admits : promise.Admits site)
    (serves : loader.Serves promise)
    (id : ObjectId)
    (name : String) :
    (importedMember loader id name).Keeps promise := by
  have found (content : ModuleObject) : (attributeOrSubmodule id content name).Keeps promise :=
    attributeOrSubmodule_keeps admits id content name
  refine (Run.moduleOf_keeps id).bind fun content => ?_
  refine Run.Keeps.get.bind fun world => ?_
  split
  · exact (importMember_keeps serves _).bind fun _ => found content
  · exact found content

theorem fromImport_keeps
    (admits : promise.Admits site)
    (serves : loader.Serves promise)
    (self : ObjectId)
    (source name : String) :
    (fromImport loader self source name).Keeps promise := by
  refine (Run.moduleOf_keeps self).bind fun content => ?_
  dsimp only
  split
  · have stopped : (throw (.importing .noParentPackage) : Run PUnit).Keeps promise :=
      .throw (admits.ordinary rfl)
    exact stopped.bind fun _ =>
      (serves.importModule _).bind fun id => importedMember_keeps admits serves id name
  · exact (serves.importModule _).bind fun id => importedMember_keeps admits serves id name

/-- A step keeps a promise that allows what the step itself may raise. -/
theorem runStep_keeps
    (admits : promise.Admits site)
    (serves : loader.Serves promise)
    (self : ObjectId)
    (step : Step)
    (raised :
      ∀ className text, step = .raise className text →
        promise.throws (.raised className text)) :
    (runStep loader self step).Keeps promise := by
  have sets (name : String) (value : Value) : (Run.setGlobal self name value).Keeps promise :=
    Run.changeModule_keeps admits.toAdmitsObjects self _
  cases step with
  | assign name literal =>
      exact (literal.build_keeps admits.toAdmitsObjects).bind (sets name)
  | log text =>
      exact .modify fun world => admits.trace world text
  | raise className text =>
      exact .throw (raised className text rfl)
  | require name token =>
      exact (serves.require self token).bind (sets name)
  | tryRequire name token =>
      exact (tryRequire_keeps serves self token).bind (sets name)
  | peek name owner member =>
      refine (global_keeps admits self owner).bind fun value => ?_
      exact Run.Keeps.get.bind fun world => sets name _
  | copy name source members =>
      refine (global_keeps admits self source).bind fun start => ?_
      have walked : (members.foldlM member start).Keeps promise :=
        .foldlM (member_keeps admits) members start
      exact walked.bind (sets name)
  | fromImport name source member =>
      exact (fromImport_keeps admits serves self source member).bind (sets name)
  | mention name =>
      exact (global_keeps admits self name).map _

theorem runSteps_keeps
    (admits : promise.Admits site)
    (serves : loader.Serves promise)
    (self : ObjectId)
    (steps : List Step)
    (raised :
      ∀ className text, Step.raise className text ∈ steps →
        promise.throws (.raised className text)) :
    (runSteps loader self steps).Keeps promise := by
  induction steps with
  | nil => exact .pure _
  | cons step rest ih =>
      have first : (runStep loader self step).Keeps promise := by
        apply runStep_keeps admits serves
        intro className text same
        exact raised className text (same ▸ List.mem_cons_self)
      have later : (runSteps loader self rest).Keeps promise :=
        ih fun className text member => raised className text (List.mem_cons_of_mem _ member)
      exact first.bind fun _ => later

/-- The body of a file keeps a promise that its loads keep. -/
theorem run_keeps
    (admits : promise.Admits site)
    (serves : loader.Serves promise)
    (self : ObjectId)
    (file : String) :
    (run site loader self file).Keeps promise := by
  unfold run
  split
  case h_1 thrown unread =>
      exact .throw (admits.ordinary (Site.isOrdinary_of_program_eq_error unread))
  case h_2 broken =>
      exact .throw (admits.ordinary rfl)
  case h_3 steps read =>
      exact runSteps_keeps admits serves self steps fun _ _ member => admits.raised read member

end Body

/-! ## Imports by name -/

theorem runImported_keeps
    (admits : promise.Admits site)
    (serves : loader.Serves promise)
    (name : String)
    (id : ObjectId)
    (file : String) :
    (runImported site loader name id file).Keeps promise := by
  have mark (initialising : Bool) :
      (Run.changeModule id fun content => { content with initialising }).Keeps promise :=
    Run.changeModule_keeps admits.toAdmitsObjects id _
  have dropped : (Run.untabulate name).Keeps promise :=
    .modify fun world => admits.untabulate world name
  have body : (Body.run site loader id file).Keeps promise :=
    Body.run_keeps admits serves id file
  refine (mark true).bind fun _ => ?_
  refine (body.tryCatch fun thrown allowed => ?_).bind fun _ => mark false
  exact dropped.bind fun _ => (mark false).bind fun _ => .throw allowed

theorem tabledOf_keeps
    (admits : promise.Admits site)
    (name : String) :
    (Run.tabledOf name).Keeps promise := by
  refine (Run.tabled?_keeps name).bind fun known => ?_
  split
  · exact .pure _
  · exact .throw (admits.ordinary rfl)

theorem importTarget_keeps
    (admits : promise.Admits site)
    (serves : loader.Serves promise)
    (name parent : String)
    (target : ImportTarget) :
    (importTarget site loader name parent target).Keeps promise := by
  have tabulated (id : ObjectId) : (Run.tabulate name id).Keeps promise :=
    .modify fun world => admits.tabulate world name id
  refine (Run.allocate_keeps admits.toAdmitsObjects _).bind fun id => (tabulated id).bind fun _ => ?_
  have body : (target.file?.forM (runImported site loader name id)).Keeps promise :=
    .forM_option (runImported_keeps admits serves name id) target.file?
  exact body.bind fun _ => tabledOf_keeps admits name

theorem importIn_keeps
    (admits : promise.Admits site)
    (serves : loader.Serves promise)
    (directory last name parent : String) :
    (importIn site loader directory last name parent).Keeps promise := by
  unfold importIn
  split
  · exact importTarget_keeps admits serves name parent _
  · exact .throw (admits.ordinary rfl)

theorem checkSearch_keeps
    (admits : promise.Admits site)
    (content : ModuleObject)
    (parts : List String) :
    (checkSearch content parts).Keeps promise := by
  fun_induction checkSearch content parts with
  | case1 content last next rest bare parent ih =>
      refine (Run.tabled?_keeps parent).bind fun holder => ?_
      split
      · exact .throw (admits.ordinary rfl)
      · refine (Run.moduleOf_keeps _).bind fun above => ?_
        dsimp only
        split
        · have stopped (world : World) (id : ObjectId) :
              (throw (.unknownAttribute (attributeOwner world (.module id)) "__path__") :
                Run PUnit).Keeps promise :=
            .throw (admits.ordinary rfl)
          exact Run.Keeps.get.bind fun world => (stopped world _).bind fun _ => ih above
        · exact ih above
  | case2 => exact .pure _
  | case3 => exact .pure _

theorem searchBelow_keeps
    (admits : promise.Admits site)
    (serves : loader.Serves promise)
    (last name : String)
    (above : List String)
    (content : ModuleObject) :
    (searchBelow site loader last name above content).Keeps promise := by
  unfold searchBelow
  split
  · exact (checkSearch_keeps admits content above).bind fun _ =>
      importIn_keeps admits serves _ last name _
  · exact .throw (admits.ordinary rfl)

theorem importBelow_keeps
    (admits : promise.Admits site)
    (serves : loader.Serves promise)
    (last name : String)
    (above : List String) :
    (importBelow site loader last name above).Keeps promise := by
  refine (Run.tabled?_keeps name).bind fun known => ?_
  split
  · exact .pure _
  · refine (tabledOf_keeps admits _).bind fun holder => (Run.moduleOf_keeps holder).bind fun content => ?_
    refine (searchBelow_keeps admits serves last name above content).bind fun id => ?_
    have bound : (bindSubmodule (nameOfParts above) last id).Keeps promise :=
      (tabledOf_keeps admits _).bind fun later => Run.changeModule_keeps admits.toAdmitsObjects later _
    exact bound.bind fun _ => .pure _

theorem importParts_keeps
    (admits : promise.Admits site)
    (serves : loader.Serves promise)
    (parts : List String) :
    (importParts site loader parts).Keeps promise := by
  induction parts with
  | nil => exact .throw (admits.ordinary rfl)
  | cons last above ih =>
      have below : (importBelow site loader last (nameOfParts (last :: above)) above).Keeps promise :=
        importBelow_keeps admits serves last _ above
      refine (Run.tabled?_keeps _).bind fun known => ?_
      split
      · exact .pure _
      · split
        · exact importIn_keeps admits serves _ last _ _
        · refine (Run.tabled?_keeps _).bind fun holder => ?_
          dsimp only
          split
          · exact (ih.map _).bind fun _ => below
          · exact below

theorem importModule_keeps
    (admits : promise.Admits site)
    (serves : loader.Serves promise)
    (name : String) :
    (importModule site loader name).Keeps promise := by
  unfold importModule
  split
  · exact .throw (admits.ordinary rfl)
  · exact importParts_keeps admits serves _

theorem importAbsolute_keeps
    (admits : promise.Admits site)
    (serves : loader.Serves promise)
    (name : String) :
    (importAbsolute site loader name).Keeps promise := by
  unfold importAbsolute
  split
  · exact .throw (admits.ordinary rfl)
  · exact importModule_keeps admits serves name

end ConfigTokens.Module
