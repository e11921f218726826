import ConfigTokens.Proofs.Import.Searchable
import ConfigTokens.Proofs.Registry.Aim
import ConfigTokens.Proofs.Run.Agree
/-!
# Regimes

A stage says which bodies are under way: those of which files, and those under which names. A regime is a
condition on the world at each stage that every single change keeps, where a change that begins or ends a
body leads from one stage to another. `Regime.layer_agrees` is the result: if two loaders end alike at
every stage with one more body under way, and keep the condition there, then so do the loads of a site
with the one and with the other below them.
-/

namespace ConfigTokens.Module

/-! ## Stages -/

/-- The bodies under way. -/
structure Stage where
  /-- The files whose bodies are under way, the innermost first. -/
  files : List String
  /-- The names under which imported bodies are under way, the innermost first. -/
  names : List String
  /-- The module of the innermost body. -/
  self : Option ObjectId

namespace Stage

/-- No body is under way. -/
def outside : Stage :=
  ⟨[], [], none⟩

/-- The body of a file begins. -/
def openFile
    (stage : Stage)
    (file : String)
    (id : ObjectId) : Stage :=
  ⟨file :: stage.files, stage.names, some id⟩

/-- A body begins under a name. -/
def openImport
    (stage : Stage)
    (name : String)
    (id : ObjectId) : Stage :=
  ⟨stage.files, name :: stage.names, some id⟩

/-- The number of bodies under way. -/
def size
    (stage : Stage) : Nat :=
  stage.files.length + stage.names.length

theorem size_openFile
    (stage : Stage)
    (file : String)
    (id : ObjectId) :
    (stage.openFile file id).size = stage.size + 1 := by
  simp only [size, openFile, List.length_cons]
  omega

theorem size_openImport
    (stage : Stage)
    (name : String)
    (id : ObjectId) :
    (stage.openImport name id).size = stage.size + 1 := by
  simp only [size, openImport, List.length_cons]
  omega

end Stage

/-! ## What imports change -/

namespace World

/-- The world with a module that is marked as being imported, or as imported. -/
def marked
    (world : World)
    (id : ObjectId)
    (initialising : Bool) : World :=
  world.setObject id (.module { world.moduleAt id with initialising })

/-- The world with a module for what an import has found. -/
def withFound
    (world : World)
    (name parent : String)
    (target : ImportTarget) : World :=
  let content :=
    ModuleObject.fresh name target.file? (packageOf name parent target) target.searchPath
  (world.push (.module content)).tabulate name world.objects.size

@[simp]
theorem table_setObject
    (world : World)
    (id : ObjectId)
    (object : Object) :
    (world.setObject id object).table = world.table := rfl

@[simp]
theorem table_trace
    (world : World)
    (text : String) :
    (world.trace text).table = world.table := rfl

@[simp]
theorem table_note
    (world : World)
    (event : Event) :
    (world.note event).table = world.table := rfl

end World

/-- How the body of an imported module ends. -/
theorem runImported_apply
    (site : Site)
    (loader : Loader)
    (name : String)
    (id : ObjectId)
    (file : String)
    (world : World) :
    runImported site loader name id file world =
      match Body.run site loader id file (world.marked id true) with
      | .ok _ middle => .ok () (middle.marked id false)
      | .error thrown middle => .error thrown ((middle.untabulate name).marked id false) := by
  change
    EStateM.bind
      (EStateM.tryCatch (Body.run site loader id file) fun thrown => do
        Run.untabulate name
        Run.changeModule id fun content => { content with initialising := false }
        throw thrown)
      (fun _ => Run.changeModule id fun content => { content with initialising := false })
      (world.marked id true) = _
  unfold EStateM.bind EStateM.tryCatch
  cases Body.run site loader id file (world.marked id true) with
  | ok value middle => rfl
  | error thrown middle => rfl

/-- How an import of what has been found ends. -/
theorem importTarget_apply
    (site : Site)
    (loader : Loader)
    (name parent : String)
    (target : ImportTarget)
    (world : World) :
    importTarget site loader name parent target world =
      match target.file? with
      | none => .ok world.objects.size (world.withFound name parent target)
      | some file =>
        match Body.run site loader world.objects.size file
            ((world.withFound name parent target).marked world.objects.size true) with
        | .ok _ middle =>
          match middle.table.lookup name with
          | some current => .ok current (middle.marked world.objects.size false)
          | none => .error (.importing (.detached name)) (middle.marked world.objects.size false)
        | .error thrown middle =>
          .error thrown ((middle.untabulate name).marked world.objects.size false) := by
  change
    EStateM.bind (target.file?.forM (runImported site loader name world.objects.size))
      (fun _ => Run.tabledOf name) (world.withFound name parent target) = _
  unfold EStateM.bind
  cases target.file? with
  | none =>
      have tabled :
          (world.withFound name parent target).table.lookup name = some world.objects.size := by
        simp [World.withFound, World.tabulate]
      exact Run.tabledOf_of_some tabled
  | some file =>
      have body :
          (some file).forM (runImported site loader name world.objects.size) =
            runImported site loader name world.objects.size file := rfl
      rw [body, runImported_apply]
      dsimp only
      cases Body.run site loader world.objects.size file
          ((world.withFound name parent target).marked world.objects.size true) with
      | ok value middle =>
          dsimp only
          cases known : middle.table.lookup name with
          | some current => exact Run.tabledOf_of_some known
          | none => exact Run.tabledOf_of_none known
      | error thrown middle => rfl

/-- A submodule becomes a global of what the table has under the name above it. -/
theorem bindSubmodule_of_some
    {parent : String}
    {holder : ObjectId}
    {world : World}
    (tabled : world.table.lookup parent = some holder)
    (last : String)
    (id : ObjectId) :
    bindSubmodule parent last id world = .ok () (world.withGlobal holder last (.module id)) := by
  unfold bindSubmodule
  rw [Run.bind_of_ok (Run.tabledOf_of_some tabled)]
  rfl

theorem bindSubmodule_of_none
    {parent last : String}
    {id : ObjectId}
    {world : World}
    (gone : world.table.lookup parent = none) :
    bindSubmodule parent last id world = .error (.importing (.detached parent)) world :=
  Run.bind_eq_error.mpr (.inl (Run.tabledOf_of_none gone))

/-! ## Regimes -/

/-- A step imports nothing: it loads by file references only. -/
def Step.ImportsNothing : Step → Prop
  | .require _ token | .tryRequire _ token => isFileReference token = true
  | .fromImport .. => False
  | _ => True

/-- The bodies of the site import nothing. -/
def Site.ImportsNothing
    (site : Site) : Prop :=
  ∀ file steps, site.program file = .ok (.steps steps) → ∀ step ∈ steps, step.ImportsNothing

/-- A condition on the world at each stage that single changes keep. -/
structure Regime (site : Site) where
  holds : Stage → World → Prop
  /-- The names that may be imported, by their parts. -/
  imports : List String → Prop
  /-- Where modules may be looked for below a name. -/
  searched : String → String → Prop
  above {last : String} {parts : List String} :
    imports (last :: parts) → parts ≠ [] → imports parts
  push {stage : Stage} {world : World} (object : Object) :
    holds stage world → holds stage (world.push object)
  trace {stage : Stage} {world : World} (text : String) :
    holds stage world → holds stage (world.trace text)
  note {stage : Stage} {world : World} (event : Event) :
    event.beginsBody = false → holds stage world → holds stage (world.note event)
  assign {stage : Stage} {world : World} {self : ObjectId} (name : String) (value : Value) :
    stage.self = some self → holds stage world → holds stage (world.withGlobal self name value)
  mark {stage : Stage} {world : World} {self : ObjectId} (initialising : Bool) :
    stage.self = some self → holds stage world → holds stage (world.marked self initialising)
  search {stage : Stage} {world : World} {name directory : String} {id : ObjectId} :
    holds stage world → world.table.lookup name = some id →
      (world.moduleAt id).searchPath = some directory → searched name directory
  /-- A submodule is bound in what the table has for the name above it. -/
  bind {stage : Stage} {world : World} {parent directory : String} {holder : ObjectId}
    (last : String) (id : ObjectId) :
    holds stage world → searched parent directory → world.table.lookup parent = some holder →
      holds stage (world.withGlobal holder last (.module id))
  enter {stage : Stage} {world : World} (name : String) (id : ObjectId) :
    holds stage world → holds stage (world.enter site.registry (importKey name) (.module id))
  document {stage : Stage} {world : World} {file : String} (content : Json) :
    site.IsKey file → holds stage world → world.answer? site.registry file = none →
      holds stage (world.withDocument site.registry file content)
  openFile {stage : Stage} {world : World} {file : String} :
    site.IsKey file → holds stage world → world.answer? site.registry file = none →
      holds (stage.openFile file world.objects.size) (world.opened site.registry file)
  closeFile {stage : Stage} {before world : World} {file : String} :
    holds stage before → before.answer? site.registry file = none →
      holds (stage.openFile file before.objects.size) world → holds stage world
  discardFile {stage : Stage} {before world : World} {file : String} (reason : String) :
    holds stage before → before.answer? site.registry file = none →
      holds (stage.openFile file before.objects.size) world →
        holds stage (world.discarded site.registry file reason)
  found {stage : Stage} {world : World} {parts : List String} {target : ImportTarget}
    (parent : String) :
    (∀ part ∈ parts, IsPart part) → imports parts → site.Finds searched parts target →
      holds stage world → world.table.lookup (nameOfParts parts) = none →
        holds stage (world.withFound (nameOfParts parts) parent target)
  openImport {stage : Stage} {world : World} {parts : List String} {target : ImportTarget}
    (parent : String) :
    (∀ part ∈ parts, IsPart part) → imports parts → site.Finds searched parts target →
      holds stage world → world.table.lookup (nameOfParts parts) = none →
        holds (stage.openImport (nameOfParts parts) world.objects.size)
          (world.withFound (nameOfParts parts) parent target)
  closeImport {stage : Stage} {before world : World} {name : String} :
    holds stage before → holds (stage.openImport name before.objects.size) world →
      holds stage world
  failImport {stage : Stage} {before world : World} {name : String} :
    holds stage before → holds (stage.openImport name before.objects.size) world →
      holds stage (world.untabulate name)

/-- The computations end alike in a world where a regime holds at a stage, and it still holds after them. -/
abbrev Regime.AgreesAt
    {α : Type}
    {site : Site}
    (regime : Regime site)
    (stage : Stage)
    (run other : Run α)
    (world : World) : Prop :=
  run.AgreesAt (regime.holds stage) other world

namespace Regime

variable
    {α : Type}
    {site : Site}

/-- A token refers to a file, or to a name that may be imported. -/
def Requires
    (regime : Regime site)
    (token : String) : Prop :=
  isFileReference token = false → regime.imports (nameParts (dottedName token))

/-- A step of a body imports no other names than those that may be imported. -/
def Permits
    (regime : Regime site) : Step → Prop
  | .require _ token | .tryRequire _ token => regime.Requires token
  | .fromImport .. => ∀ parts, regime.imports parts
  | _ => True

/-- The bodies of the site import no other names than those that may be imported. -/
def PermitsSite
    (regime : Regime site) : Prop :=
  ∀ file steps, site.program file = .ok (.steps steps) → ∀ step ∈ steps, regime.Permits step

/-- Every name may be imported. -/
def Free
    (regime : Regime site) : Prop :=
  ∀ parts, regime.imports parts

theorem Free.permits
    {regime : Regime site}
    (free : regime.Free)
    (step : Step) :
    regime.Permits step := by
  cases step with
  | require name token => exact fun _ => free _
  | tryRequire name token => exact fun _ => free _
  | fromImport name source member => exact free
  | _ => trivial

theorem Free.permitsSite
    {regime : Regime site}
    (free : regime.Free) :
    regime.PermitsSite :=
  fun _ _ _ step _ => free.permits step

/-- Bodies that import nothing need no permission. -/
theorem permitsSite_of_importsNothing
    {regime : Regime site}
    (nothing : site.ImportsNothing) :
    regime.PermitsSite := by
  have reference {token : String} (file : isFileReference token = true) : regime.Requires token := by
    intro bare
    cases file.symm.trans bare
  intro path steps read step member
  have own := nothing path steps read step member
  cases step with
  | require name token => exact reference own
  | tryRequire name token => exact reference own
  | fromImport name source member => exact own.elim
  | _ => trivial

/-- Two loaders end alike wherever a regime holds at a stage, and keep it there. -/
structure Agrees
    (regime : Regime site)
    (stage : Stage)
    (loader other : Loader) : Prop where
  require {base token : String} {world : World} :
    regime.Requires token → regime.holds stage world →
      regime.AgreesAt stage (loader.require base token) (other.require base token) world
  importModule {name : String} {world : World} :
    regime.imports (nameParts name) → regime.holds stage world →
      regime.AgreesAt stage (loader.importModule name) (other.importModule name) world

variable
    {regime : Regime site}
    {stage : Stage}
    {loader other : Loader}
    {world : World}
    {self : ObjectId}

/-! ## Values -/

mutual

theorem build_agrees
    (regime : Regime site)
    {stage : Stage} :
    (literal : Literal) → {world : World} → regime.holds stage world →
      regime.AgreesAt stage literal.build literal.build world
  | .null, _, held => .pure _ held
  | .bool _, _, held => .pure _ held
  | .int _, _, held => .pure _ held
  | .float _, _, held => .pure _ held
  | .str _, _, held => .pure _ held
  | .bytes _, _, held => .pure _ held
  | .list items, _, held =>
      (buildItems_agrees regime items held).bind fun _ _ _ later => .pure _ later
  | .mapping members, _, held =>
      (buildMembers_agrees regime members held).bind fun _ _ _ later => .pure _ later
  | .function _ _, _, held => .bind_of_ok rfl (.pure _ (regime.push _ held))
  | .answering answer, _, held =>
      (build_agrees regime answer held).bind fun _ _ _ later => .pure _ later
  | .classType _, _, held => .pure _ held
  | .record attributes, _, held =>
      (buildMembers_agrees regime attributes held).bind fun _ _ _ later => .pure _ later
  | .module globals, _, held =>
      (buildMembers_agrees regime globals held).bind fun _ _ _ later =>
        .bind_of_ok rfl (.pure _ (regime.push _ later))

theorem buildItems_agrees
    (regime : Regime site)
    {stage : Stage} :
    (items : List Literal) → {world : World} → regime.holds stage world →
      regime.AgreesAt stage (Literal.buildItems items) (Literal.buildItems items) world
  | [], _, held => .pure _ held
  | item :: rest, _, held =>
      (build_agrees regime item held).bind fun _ _ _ later =>
        (buildItems_agrees regime rest later).bind fun _ _ _ last => .pure _ last

theorem buildMembers_agrees
    (regime : Regime site)
    {stage : Stage} :
    (members : List (String × Literal)) → {world : World} → regime.holds stage world →
      regime.AgreesAt stage (Literal.buildMembers members) (Literal.buildMembers members) world
  | [], _, held => .pure _ held
  | (_, member) :: rest, _, held =>
      (build_agrees regime member held).bind fun _ _ _ later =>
        (buildMembers_agrees regime rest later).bind fun _ _ _ last => .pure _ last

end

/-! ## Bodies -/

section Bodies

variable
    (nested : regime.Agrees stage loader other)
    (own : stage.self = some self)

include own in
theorem setGlobal_agrees
    (name : String)
    (value : Value)
    (held : regime.holds stage world) :
    regime.AgreesAt stage (Run.setGlobal self name value) (Run.setGlobal self name value) world :=
  .refl (regime.assign name value own held)

include nested in
theorem bodyRequire_agrees
    {token : String}
    (requires : regime.Requires token)
    (held : regime.holds stage world) :
    regime.AgreesAt stage (Body.require loader self token) (Body.require other self token) world := by
  refine .bind_of_ok (Run.moduleOf_apply self world) ?_
  refine (nested.require requires held).bind fun answer middle _ later => ?_
  exact .bind_of_ok rfl (.pure _ (regime.note _ rfl later))

include nested in
theorem tryRequire_agrees
    {token : String}
    (requires : regime.Requires token)
    (held : regime.holds stage world) :
    regime.AgreesAt stage (Body.tryRequire loader self token) (Body.tryRequire other self token)
      world := by
  refine (bodyRequire_agrees nested requires held).tryCatch fun thrown middle _ later => ?_
  split
  · exact .pure _ later
  · exact .throw _ later

include nested in
theorem importMember_agrees
    {name : String}
    (imports : regime.imports (nameParts name))
    (held : regime.holds stage world) :
    regime.AgreesAt stage (Body.importMember loader name) (Body.importMember other name) world := by
  refine ((nested.importModule imports held).map _).tryCatch fun thrown middle _ later => ?_
  split
  · split
    · exact .pure _ later
    · exact .throw _ later
  · exact .throw _ later

include nested in
theorem importedMember_agrees
    (imports : ∀ parts, regime.imports parts)
    (id : ObjectId)
    (name : String)
    (held : regime.holds stage world) :
    regime.AgreesAt stage (Body.importedMember loader id name) (Body.importedMember other id name)
      world := by
  have found (content : ModuleObject) {middle : World} (later : regime.holds stage middle) :
      regime.AgreesAt stage (Body.attributeOrSubmodule id content name)
        (Body.attributeOrSubmodule id content name) middle :=
    .reads (Body.attributeOrSubmodule_reads id content name) later
  refine .bind_of_ok (Run.moduleOf_apply id world) (.bind_of_ok (Run.get_apply world) ?_)
  split
  · exact (importMember_agrees nested (imports _) held).bind fun _ _ _ later => found _ later
  · exact found _ held

include nested in
theorem fromImport_agrees
    (imports : ∀ parts, regime.imports parts)
    (source name : String)
    (held : regime.holds stage world) :
    regime.AgreesAt stage (Body.fromImport loader self source name)
      (Body.fromImport other self source name) world := by
  refine .bind_of_ok (Run.moduleOf_apply self world) ?_
  dsimp only
  have rest :
      regime.AgreesAt stage
        (do
          let id ← loader.importModule ((world.moduleAt self).package ++ "." ++ source)
          Body.importedMember loader id name)
        (do
          let id ← other.importModule ((world.moduleAt self).package ++ "." ++ source)
          Body.importedMember other id name) world :=
    (nested.importModule (imports _) held).bind fun id _ _ later =>
      importedMember_agrees nested imports id name later
  split
  · have stopped :
        regime.AgreesAt stage (throw (.importing .noParentPackage) : Run PUnit)
          (throw (.importing .noParentPackage)) world :=
      .throw _ held
    exact stopped.bind fun _ _ failed _ => by cases failed
  · exact rest

include nested own in
/-- A step of a body. -/
theorem runStep_agrees
    {step : Step}
    (permitted : regime.Permits step)
    (held : regime.holds stage world) :
    regime.AgreesAt stage (Body.runStep loader self step) (Body.runStep other self step) world := by
  cases step with
  | assign name literal =>
      exact (build_agrees regime literal held).bind fun value _ _ later =>
        setGlobal_agrees own name value later
  | log text => exact .refl (regime.trace text held)
  | raise className text => exact .throw _ held
  | require name token =>
      exact (bodyRequire_agrees nested permitted held).bind fun value _ _ later =>
        setGlobal_agrees own name value later
  | tryRequire name token =>
      exact (tryRequire_agrees nested permitted held).bind fun value _ _ later =>
        setGlobal_agrees own name value later
  | peek name owner member =>
      have read :
          regime.AgreesAt stage (Body.global self owner) (Body.global self owner) world :=
        .reads (Body.global_reads self owner) held
      refine read.bind fun value middle _ later => .bind_of_ok (Run.get_apply middle) ?_
      exact setGlobal_agrees own name _ later
  | copy name source members =>
      have read :
          regime.AgreesAt stage (Body.global self source) (Body.global self source) world :=
        .reads (Body.global_reads self source) held
      refine read.bind fun start middle _ later => ?_
      have walked :
          regime.AgreesAt stage (members.foldlM Body.member start) (members.foldlM Body.member start)
            middle :=
        .reads (.foldlM Body.member_reads members start) later
      exact walked.bind fun value _ _ last => setGlobal_agrees own name value last
  | fromImport name source member =>
      exact (fromImport_agrees nested permitted source member held).bind fun value _ _ later =>
        setGlobal_agrees own name value later
  | mention name =>
      have read : regime.AgreesAt stage (Body.global self name) (Body.global self name) world :=
        .reads (Body.global_reads self name) held
      exact read.map _

include nested own in
theorem runSteps_agrees
    {steps : List Step}
    (permitted : ∀ step ∈ steps, regime.Permits step)
    (held : regime.holds stage world) :
    regime.AgreesAt stage (Body.runSteps loader self steps) (Body.runSteps other self steps)
      world := by
  induction steps generalizing world with
  | nil => exact .pure _ held
  | cons step rest ih =>
      have first := runStep_agrees nested own (permitted step List.mem_cons_self) held
      refine first.bind fun _ _ _ later => ?_
      exact ih (fun next member => permitted next (List.mem_cons_of_mem _ member)) later

include nested own in
/-- The body of a file. -/
theorem run_agrees
    (permits : regime.PermitsSite)
    (file : String)
    (held : regime.holds stage world) :
    regime.AgreesAt stage (Body.run site loader self file) (Body.run site other self file)
      world := by
  unfold Body.run
  split
  case h_1 thrown unread => exact .throw _ held
  case h_2 broken => exact .throw _ held
  case h_3 steps read => exact runSteps_agrees nested own (permits file steps read) held

end Bodies

end Regime

end ConfigTokens.Module
