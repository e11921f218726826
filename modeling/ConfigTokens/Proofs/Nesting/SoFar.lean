import ConfigTokens.Proofs.Nesting.Guarded
/-!
# The module of a body under way

While the body of a file is under way, its registry answers for the file with its module, and the loads
that a step of the body starts find the module with the globals of the steps before. Nothing but the body
itself changes them, except that a package gets its submodules as globals when they are imported.
-/

namespace ConfigTokens.Module

/-- Modules are looked for below a name. -/
def Site.SearchesBelow
    (site : Site)
    (name : String) : Prop :=
  ∃ directory, site.Searchable name directory

/-- Below the name that is made for a file modules are looked for only if the name is that of a package. -/
theorem Site.Regular.exists_package
    {site : Site}
    (regular : site.Regular)
    {file : String}
    (isKey : site.IsKey file)
    (searches : site.SearchesBelow (synthesizedName file)) :
    ∃ package, site.IsKey package ∧ isPackageFile package = true ∧
      synthesizedName package = synthesizedName file := by
  obtain ⟨directory, searchable⟩ := searches
  generalize named : synthesizedName file = name at searchable
  cases searchable with
  | package package body => exact ⟨_, package, body, rfl⟩
  | top single root found searches =>
      exact absurd named.symm (regular.ne_synthesizedName (.top root found) isKey)
  | nested single inner upper found searches =>
      exact absurd named.symm (regular.ne_synthesizedName (.nested inner upper found) isKey)

/-- The registry answers for a file with a module, and the table has it under no other name. -/
structure World.Running
    (world : World)
    (site : Site)
    (file : String)
    (id : ObjectId) : Prop where
  consistent : world.Consistent site
  made : id < world.objects.size
  answered : world.answer? site.registry file = some (.module id)
  tabled : ∀ name, world.table.lookup name = some id → name = synthesizedName file

/--
The registry answers for a file with its module, and its globals are those that it had at the start,
apart from submodules, which are bound only if modules are looked for below the name of the file.
-/
structure World.SoFar
    (world start : World)
    (site : Site)
    (file : String)
    (id : ObjectId) : Prop where
  answered : world.answer? site.registry file = some (.module id)
  globals :
    ∀ name,
      (world.moduleAt id).globals.lookup name = (start.moduleAt id).globals.lookup name ∨
        site.SearchesBelow (synthesizedName file) ∧
          ∃ submodule, (world.moduleAt id).globals.lookup name = some (.module submodule)

namespace World

variable
    {site : Site}
    {file : String}
    {id : ObjectId}
    {world final start : World}

namespace Running

theorem opened
    (consistent : world.Consistent site)
    (isKey : site.IsKey file) :
    (world.opened site.registry file).Running site file world.objects.size where
  consistent := consistent.opened isKey _
  made := by
    rw [size_objects_opened]
    exact Nat.lt_succ_self _
  answered := by rw [answer?_opened, if_pos ⟨rfl, rfl⟩]
  tabled name known := by
    change (world.tabulate (synthesizedName file) world.objects.size).table.lookup name = _ at known
    rw [lookup_tabulate] at known
    split at known
    case isTrue same => exact same
    case isFalse => exact absurd (consistent.made name _ known) (Nat.lt_irrefl _)

theorem mono
    (running : world.Running site file id)
    (consistent : final.Consistent site)
    (objects : world.objects.size ≤ final.objects.size)
    (answered : final.answer? site.registry file = world.answer? site.registry file)
    (table :
      ∀ name, final.table.lookup name = some id → world.table.lookup name = some id) :
    final.Running site file id where
  consistent := consistent
  made := Nat.lt_of_lt_of_le running.made objects
  answered := answered.trans running.answered
  tabled name known := running.tabled name (table name known)

/-- Another file is answered for with other objects. -/
theorem ne_of_absent
    (running : world.Running site file id)
    {other : String}
    (absent : world.answer? site.registry other = none) :
    file ≠ other := by
  rintro rfl
  rw [running.answered] at absent
  cases absent

/-- The newest object is another one. -/
theorem ne_newest
    (running : world.Running site file id) :
    some world.objects.size ≠ some id := by
  intro same
  cases same
  exact absurd running.made (Nat.lt_irrefl _)

theorem lookup_of_tabulate
    (running : world.Running site file id)
    {name other : String}
    (known : (world.tabulate other world.objects.size).table.lookup name = some id) :
    world.table.lookup name = some id := by
  rw [lookup_tabulate] at known
  split at known
  · cases known
    exact absurd running.made (Nat.lt_irrefl _)
  · exact known

theorem lookup_of_untabulate
    {name other : String}
    (known : (world.untabulate other).table.lookup name = some id) :
    world.table.lookup name = some id := by
  rw [lookup_untabulate] at known
  split at known
  · cases known
  · exact known

theorem push
    (running : world.Running site file id)
    (object : Object) :
    (world.push object).Running site file id :=
  running.mono (running.consistent.push object) (by simp) rfl fun _ known => known

theorem trace
    (running : world.Running site file id)
    (text : String) :
    (world.trace text).Running site file id :=
  running.mono ⟨running.consistent.made, running.consistent.searchable⟩ (Nat.le_refl _) rfl
    fun _ known => known

theorem note
    (running : world.Running site file id)
    (event : Event) :
    (world.note event).Running site file id :=
  running.mono ⟨running.consistent.made, running.consistent.searchable⟩ (Nat.le_refl _) rfl
    fun _ known => known

theorem withGlobal
    (running : world.Running site file id)
    (other : ObjectId)
    (name : String)
    (value : Value) :
    (world.withGlobal other name value).Running site file id :=
  running.mono (running.consistent.withGlobal _ _ _) (by simp [World.withGlobal]) rfl
    fun _ known => known

theorem marked
    (running : world.Running site file id)
    (other : ObjectId)
    (initialising : Bool) :
    (world.marked other initialising).Running site file id :=
  running.mono (running.consistent.marked _ _) (by simp [World.marked]) rfl fun _ known => known

theorem enter
    (running : world.Running site file id)
    (rooted : FileTree.isRooted file = true)
    (name : String)
    (answer : Export) :
    (world.enter site.registry (importKey name) answer).Running site file id := by
  refine running.mono ⟨running.consistent.made, running.consistent.searchable⟩ (Nat.le_refl _) ?_
    fun _ known => known
  rw [answer?_enter, if_neg fun same => importKey_ne_of_isRooted rooted same.2.symm]

theorem withDocument
    (running : world.Running site file id)
    {other : String}
    (absent : world.answer? site.registry other = none)
    (content : Json) :
    (world.withDocument site.registry other content).Running site file id := by
  have pushed := running.consistent.push (.document content)
  refine running.mono ⟨pushed.made, pushed.searchable⟩ ?_ ?_ fun _ known => known
  · rw [size_objects_withDocument]
    exact Nat.le_succ _
  · rw [answer?_withDocument, if_neg fun same => running.ne_of_absent absent same.2]

theorem openOther
    (running : world.Running site file id)
    {other : String}
    (isKey : site.IsKey other)
    (absent : world.answer? site.registry other = none) :
    (world.opened site.registry other).Running site file id := by
  refine running.mono (running.consistent.opened isKey _) ?_ ?_ fun _ known =>
    running.lookup_of_tabulate known
  · rw [size_objects_opened]
    exact Nat.le_succ _
  · rw [answer?_opened, if_neg fun same => running.ne_of_absent absent same.2]

theorem discardOther
    (running : world.Running site file id)
    {other : String}
    (apart : file ≠ other)
    (reason : String) :
    (world.discarded site.registry other reason).Running site file id := by
  refine running.mono (running.consistent.discarded _ _ _) (Nat.le_refl _) ?_ fun _ known =>
    lookup_of_untabulate known
  rw [answer?_discarded, if_neg fun same => apart same.2]

theorem withFound
    (running : world.Running site file id)
    {parts : List String}
    {target : ImportTarget}
    (single : ∀ part ∈ parts, IsPart part)
    (finds : site.Finds site.Searchable parts target)
    (parent : String) :
    (world.withFound (nameOfParts parts) parent target).Running site file id :=
  running.mono (running.consistent.withFound single finds parent)
    (by simp [World.withFound, World.tabulate]) rfl fun _ known => running.lookup_of_tabulate known

theorem untabulate
    (running : world.Running site file id)
    (name : String) :
    (world.untabulate name).Running site file id :=
  running.mono (running.consistent.untabulate _) (Nat.le_refl _) rfl fun _ known =>
    lookup_of_untabulate known

end Running

end World

/-- The regime in which the module of a file stays the answer for it. -/
def Regime.running
    (site : Site)
    {file : String}
    (rooted : FileTree.isRooted file = true)
    (id : ObjectId) : Regime site where
  holds _ world := world.Running site file id
  imports _ := True
  searched := site.Searchable
  above _ _ := trivial
  push object running := running.push object
  trace text running := running.trace text
  note event _ running := running.note event
  assign name value _ running := running.withGlobal _ name value
  mark initialising _ running := running.marked _ initialising
  search running tabled searches := running.consistent.searchable _ _ _ tabled searches
  bind last submodule running _ _ := running.withGlobal _ last (.module submodule)
  enter name other running := running.enter rooted name (.module other)
  document content _ running absent := running.withDocument absent content
  openFile isKey running absent := running.openOther isKey absent
  closeFile _ _ running := running
  discardFile reason before absent running :=
    running.discardOther (before.ne_of_absent absent) reason
  found parent single _ finds running _ := running.withFound single finds parent
  openImport parent single _ finds running _ := running.withFound single finds parent
  closeImport _ running := running
  failImport _ running := running.untabulate _

/-! ## Globals -/

namespace World.SoFar

variable
    {site : Site}
    {file : String}
    {id : ObjectId}
    {world final start : World}

theorem refl
    (answered : world.answer? site.registry file = some (.module id)) :
    world.SoFar world site file id where
  answered := answered
  globals _ := .inl rfl

theorem mono
    (soFar : world.SoFar start site file id)
    (answered : final.answer? site.registry file = some (.module id))
    (globals : (final.moduleAt id).globals = (world.moduleAt id).globals) :
    final.SoFar start site file id where
  answered := answered
  globals name := by
    rw [globals]
    exact soFar.globals name

theorem push
    (soFar : world.SoFar start site file id)
    (running : world.Running site file id)
    (object : Object) :
    (world.push object).SoFar start site file id :=
  soFar.mono soFar.answered (by rw [world.moduleAt_push_of_lt running.made])

/-- Another module is changed. -/
theorem setObject
    (soFar : world.SoFar start site file id)
    {other : ObjectId}
    (apart : id ≠ other)
    (object : Object) :
    (world.setObject other object).SoFar start site file id :=
  soFar.mono soFar.answered (by rw [world.moduleAt_setObject_of_ne apart])

/-- A submodule is bound, in the module itself only if it is that of a package. -/
theorem bound
    (soFar : world.SoFar start site file id)
    {holder : ObjectId}
    (package : holder = id → site.SearchesBelow (synthesizedName file))
    (last : String)
    (submodule : ObjectId) :
    (world.withGlobal holder last (.module submodule)).SoFar start site file id := by
  by_cases same : id = holder
  · subst same
    refine ⟨soFar.answered, fun name => ?_⟩
    let content := world.moduleAt id
    let grown := Assoc.put content.globals last (.module submodule)
    rcases world.moduleAt_setObject_self id { content with globals := grown } with new | old
    · unfold World.withGlobal
      rw [new]
      by_cases named : name = last
      · subst named
        exact .inr ⟨package rfl, submodule, Assoc.lookup_put_self _ _ _⟩
      · have other : grown.lookup name = content.globals.lookup name :=
          Assoc.lookup_put_of_ne named
        dsimp only
        rw [other]
        exact soFar.globals name
    · unfold World.withGlobal
      rw [old]
      exact soFar.globals name
  · exact soFar.setObject same _

end World.SoFar

/-- The regime of loads that find a module with the globals that it had at the start. -/
def Regime.soFar
    (site : Site)
    {file : String}
    (rooted : FileTree.isRooted file = true)
    (id : ObjectId)
    (start : World) : Regime site where
  holds stage world :=
    world.Running site file id ∧ stage.self ≠ some id ∧ world.SoFar start site file id
  imports _ := True
  searched := site.Searchable
  above _ _ := trivial
  push object := fun ⟨running, apart, soFar⟩ => ⟨running.push object, apart, soFar.push running object⟩
  trace text := fun ⟨running, apart, soFar⟩ => ⟨running.trace text, apart, soFar.mono soFar.answered rfl⟩
  note event _ := fun ⟨running, apart, soFar⟩ =>
    ⟨running.note event, apart, soFar.mono soFar.answered rfl⟩
  assign name value own := fun ⟨running, apart, soFar⟩ =>
    ⟨running.withGlobal _ name value, apart, soFar.setObject (fun same => apart (same ▸ own)) _⟩
  mark initialising own := fun ⟨running, apart, soFar⟩ =>
    ⟨running.marked _ initialising, apart, soFar.setObject (fun same => apart (same ▸ own)) _⟩
  search := fun ⟨running, _, _⟩ tabled searches =>
    running.consistent.searchable _ _ _ tabled searches
  bind last submodule := fun ⟨running, apart, soFar⟩ searched tabled => by
    refine ⟨running.withGlobal _ last (.module submodule), apart, soFar.bound (fun same => ?_) _ _⟩
    have named := running.tabled _ (same ▸ tabled)
    exact ⟨_, named ▸ searched⟩
  enter name other := fun ⟨running, apart, soFar⟩ =>
    have later := running.enter rooted name (.module other)
    ⟨later, apart, soFar.mono later.answered rfl⟩
  document content _ := fun ⟨running, apart, soFar⟩ absent =>
    have later := running.withDocument absent content
    ⟨later, apart, (soFar.push running _).mono later.answered rfl⟩
  openFile isKey := fun ⟨running, apart, soFar⟩ absent =>
    have later := running.openOther isKey absent
    ⟨later, running.ne_newest, (soFar.push running _).mono later.answered rfl⟩
  closeFile := fun ⟨_, apart, _⟩ _ ⟨running, _, soFar⟩ => ⟨running, apart, soFar⟩
  discardFile reason := fun ⟨before, apart, _⟩ absent ⟨running, _, soFar⟩ =>
    have later := running.discardOther (before.ne_of_absent absent) reason
    ⟨later, apart, soFar.mono later.answered rfl⟩
  found parent single _ finds := fun ⟨running, apart, soFar⟩ _ =>
    have later := running.withFound single finds parent
    ⟨later, apart, (soFar.push running _).mono later.answered rfl⟩
  openImport parent single _ finds := fun ⟨running, apart, soFar⟩ _ =>
    have later := running.withFound single finds parent
    ⟨later, running.ne_newest, (soFar.push running _).mono later.answered rfl⟩
  closeImport := fun ⟨_, apart, _⟩ ⟨running, _, soFar⟩ => ⟨running, apart, soFar⟩
  failImport := fun ⟨_, apart, _⟩ ⟨running, _, soFar⟩ =>
    have later := running.untabulate _
    ⟨later, apart, soFar.mono later.answered rfl⟩

/--
After some steps of the body of a file, whatever the next step loads begins where the registry answers
for the file with its module and the module has the globals of those steps, and so does every load that
is nested in it: whatever other loads there were to do elsewhere, the loads end alike.
-/
theorem loads_find_soFar
    {site : Site}
    {file : String}
    (isKey : site.IsKey file)
    {world start : World}
    (consistent : world.Consistent site)
    {depth : Nat}
    {steps : List Step}
    (ran :
      Body.runSteps (.ofDepth site depth) world.objects.size steps
        (world.opened site.registry file) = .ok () start)
    (other : Loader) :
    let soFar (world' : World) : Prop := world'.SoFar start site file world.objects.size
    let guarded := Loader.guarded site soFar other (.ofDepth site 0) depth
    (∀ base token,
      guarded.require base token start = (Loader.ofDepth site depth).require base token start) ∧
    ∀ name,
      guarded.importModule name start = (Loader.ofDepth site depth).importModule name start := by
  intro soFar guarded
  let id := world.objects.size
  have rooted : FileTree.isRooted file = true := by
    obtain ⟨path, chosen, found, rfl⟩ := isKey
    exact Site.isRooted_key found
  -- The steps before keep the module as the answer, since only they have changed its globals.
  have known : start.Running site file id := by
    let regime := Regime.running site rooted id
    have free : regime.Free := fun _ => trivial
    have nested := Regime.ofDepth_agrees free.permitsSite depth (Stage.outside.openFile file id)
    have begun : regime.holds (Stage.outside.openFile file id) (world.opened site.registry file) :=
      World.Running.opened consistent isKey
    exact (Regime.runSteps_agrees nested rfl (fun step _ => free.permits step) begun).kept_of_ok ran
  let regime := Regime.soFar site rooted id start
  have held : regime.holds .outside start := ⟨known, by simp [Stage.outside], .refl known.answered⟩
  have free : regime.Free := fun _ => trivial
  have covers (stage : Stage) (world : World) (held : regime.holds stage world) : soFar world :=
    held.2.2
  have agrees : regime.Agrees .outside guarded (.ofDepth site depth) :=
    Regime.guarded_agrees free.permitsSite covers other fun inner _ => Regime.ofDepth_zero_agrees inner
  exact ⟨fun base token => (agrees.require (fun _ => trivial) held).same,
    fun name => (agrees.importModule trivial held).same⟩

end ConfigTokens.Module
