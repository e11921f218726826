import ConfigTokens.Proofs.Registry.Requirement
import ConfigTokens.Proofs.Table.Failure
/-!
# Modules whose name another load takes over

All registries share the table, and the name of a file module is made from the path of the file alone. So
a load that begins the body of a file puts its own module in the place of the one that another registry
has there, and takes the name out if the body fails. A module keeps its place exactly as long as no body
begins for a file with its name.
-/

namespace ConfigTokens.Module

/-! ## Bodies that begin under a name -/

namespace World

/-- The body of a file with a name begins after a length of the journal. -/
def BeginsSince
    (world : World)
    (start : Nat)
    (name : String) : Prop :=
  ∃ registry file id,
    .bodyStarted registry file id ∈ world.eventsSince start ∧ synthesizedName file = name

variable
    {world : World}
    {start : Nat}
    {name : String}

theorem beginsSince_note
    (fits : start ≤ world.journal.size)
    {event : Event}
    (idle : event.beginsBody = false) :
    (world.note event).BeginsSince start name ↔ world.BeginsSince start name := by
  unfold BeginsSince
  rw [eventsSince_note fits]
  constructor
  · rintro ⟨registry, file, id, member, same⟩
    rcases List.mem_append.mp member with before | last
    · exact ⟨registry, file, id, before, same⟩
    · cases List.mem_singleton.mp last
      cases idle
  · rintro ⟨registry, file, id, member, same⟩
    exact ⟨registry, file, id, List.mem_append_left _ member, same⟩

theorem beginsSince_opened
    (fits : start ≤ world.journal.size)
    (registry : RegistryName)
    (file : String) :
    (world.opened registry file).BeginsSince start name ↔
      world.BeginsSince start name ∨ synthesizedName file = name := by
  have events :
      (world.opened registry file).eventsSince start =
        world.eventsSince start ++ [.bodyStarted registry file world.objects.size] :=
    eventsSince_note fits (.bodyStarted registry file world.objects.size)
  unfold BeginsSince
  rw [events]
  constructor
  · rintro ⟨given, other, id, member, same⟩
    rcases List.mem_append.mp member with before | last
    · exact .inl ⟨given, other, id, before, same⟩
    · cases List.mem_singleton.mp last
      exact .inr same
  · rintro (⟨given, other, id, member, same⟩ | same)
    · exact ⟨given, other, id, List.mem_append_left _ member, same⟩
    · exact ⟨registry, file, _, List.mem_append_right _ (List.mem_singleton_self _), same⟩

end World

/-! ## The place of a module -/

/--
What the table has under a name with a module at the start: the same module until a body begins under the
name, and from then on a newer one or none.
-/
structure World.Holding
    (world start : World)
    (name : String)
    (id : ObjectId)
    (stage : Stage) : Prop where
  journal : start.journal.size ≤ world.journal.size
  objects : start.objects.size ≤ world.objects.size
  kept :
    ¬world.BeginsSince start.journal.size name →
      world.table.lookup name = some id ∧ name ∉ stage.names
  newer :
    world.BeginsSince start.journal.size name →
      ∀ left, world.table.lookup name = some left → start.objects.size ≤ left
  begun :
    ∀ file ∈ stage.files, synthesizedName file = name →
      world.BeginsSince start.journal.size name

namespace World.Holding

variable
    {site : Site}
    {world final start : World}
    {name : String}
    {id : ObjectId}
    {stage : Stage}

theorem refl
    (known : world.table.lookup name = some id) :
    world.Holding world name id .outside where
  journal := Nat.le_refl _
  objects := Nat.le_refl _
  kept _ := ⟨known, List.not_mem_nil⟩
  newer := by
    have nothing : world.eventsSince world.journal.size = [] :=
      List.drop_eq_nil_of_le (Nat.le_of_eq Array.length_toList)
    rintro ⟨registry, file, opened, member, -⟩
    rw [nothing] at member
    cases member
  begun file member := absurd member List.not_mem_nil

/-- A change that neither touches the name nor begins a body under it. -/
theorem same
    (holding : world.Holding start name id stage)
    (journal : world.journal.size ≤ final.journal.size)
    (objects : world.objects.size ≤ final.objects.size)
    (table : final.table.lookup name = world.table.lookup name)
    (begins :
      final.BeginsSince start.journal.size name ↔ world.BeginsSince start.journal.size name) :
    final.Holding start name id stage where
  journal := Nat.le_trans holding.journal journal
  objects := Nat.le_trans holding.objects objects
  kept idle := by
    rw [table]
    exact holding.kept (mt begins.mpr idle)
  newer started := by
    rw [table]
    exact holding.newer (begins.mp started)
  begun file member named := begins.mpr (holding.begun file member named)

theorem push
    (holding : world.Holding start name id stage)
    (object : Object) :
    (world.push object).Holding start name id stage :=
  holding.same (Nat.le_refl _) (by simp) rfl Iff.rfl

theorem setObject
    (holding : world.Holding start name id stage)
    (other : ObjectId)
    (object : Object) :
    (world.setObject other object).Holding start name id stage :=
  holding.same (Nat.le_refl _) (by simp) rfl Iff.rfl

theorem note
    (holding : world.Holding start name id stage)
    {event : Event}
    (idle : event.beginsBody = false) :
    (world.note event).Holding start name id stage :=
  holding.same (by simp) (Nat.le_refl _) rfl (beginsSince_note holding.journal idle)

theorem openFile
    (holding : world.Holding start name id stage)
    (registry : RegistryName)
    (file : String) :
    (world.opened registry file).Holding start name id
      (stage.openFile file world.objects.size) where
  journal := by
    have grown : world.journal.size ≤ (world.opened registry file).journal.size := by
      simp [opened, tabulate, World.push]
    exact Nat.le_trans holding.journal grown
  objects := Nat.le_trans holding.objects (by simp)
  kept idle := by
    rw [beginsSince_opened holding.journal, not_or] at idle
    rw [lookup_opened, if_neg (Ne.symm idle.2)]
    exact holding.kept idle.1
  newer started left known := by
    rw [lookup_opened] at known
    split at known
    case isTrue =>
        cases known
        exact holding.objects
    case isFalse apart =>
        rw [beginsSince_opened holding.journal] at started
        exact holding.newer (started.resolve_right (Ne.symm apart)) left known
  begun other member named := by
    rw [beginsSince_opened holding.journal]
    rcases List.mem_cons.mp member with rfl | below
    · exact .inr named
    · exact .inl (holding.begun other below named)

theorem closeFile
    {file : String}
    {opened : ObjectId}
    (holding : world.Holding start name id (stage.openFile file opened)) :
    world.Holding start name id stage :=
  { holding with begun := fun other member => holding.begun other (List.mem_cons_of_mem _ member) }

theorem discardFile
    {file : String}
    {opened : ObjectId}
    (holding : world.Holding start name id (stage.openFile file opened))
    (registry : RegistryName)
    (reason : String) :
    (world.discarded registry file reason).Holding start name id stage := by
  have begins :
      (world.discarded registry file reason).BeginsSince start.journal.size name ↔
        world.BeginsSince start.journal.size name :=
    beginsSince_note holding.journal rfl
  have journal : world.journal.size ≤ (world.discarded registry file reason).journal.size := by
    simp [discarded, untabulate]
  by_cases named : name = synthesizedName file
  · have started := holding.begun file List.mem_cons_self named.symm
    refine ⟨Nat.le_trans holding.journal journal, holding.objects, fun idle => ?_, ?_, ?_⟩
    · exact absurd (begins.mpr started) idle
    · intro _ left known
      rw [lookup_discarded, if_pos named] at known
      cases known
    · exact fun _ _ _ => begins.mpr started
  · refine holding.closeFile.same journal (Nat.le_refl _) ?_ begins
    rw [lookup_discarded, if_neg named]

/-- A name that is not in the table is another one, or a body has begun under it. -/
theorem beginsSince_of_absent
    (holding : world.Holding start name id stage)
    (absent : world.table.lookup name = none) :
    world.BeginsSince start.journal.size name := by
  by_contra idle
  cases (holding.kept idle).1.symm.trans absent

theorem found
    (holding : world.Holding start name id stage)
    {other : String}
    (absent : world.table.lookup other = none)
    (parent : String)
    (target : ImportTarget) :
    (world.withFound other parent target).Holding start name id stage := by
  have objects : world.objects.size ≤ (world.withFound other parent target).objects.size := by
    simp [withFound, tabulate]
  by_cases named : name = other
  · subst named
    have started := holding.beginsSince_of_absent absent
    refine ⟨holding.journal, Nat.le_trans holding.objects objects, fun idle => ?_, ?_, ?_⟩
    · exact absurd started idle
    · intro _ left known
      rw [lookup_withFound, if_pos rfl] at known
      cases known
      exact holding.objects
    · exact holding.begun
  · refine holding.same (Nat.le_refl _) objects ?_ Iff.rfl
    rw [lookup_withFound, if_neg named]

theorem openImport
    (holding : world.Holding start name id stage)
    {other : String}
    (absent : world.table.lookup other = none)
    (parent : String)
    (target : ImportTarget) :
    (world.withFound other parent target).Holding start name id
      (stage.openImport other world.objects.size) := by
  refine { holding.found absent parent target with kept := fun idle => ?_ }
  have kept := (holding.found absent parent target).kept idle
  refine ⟨kept.1, List.not_mem_cons_of_ne_of_not_mem ?_ kept.2⟩
  rintro rfl
  exact idle (holding.beginsSince_of_absent absent)

theorem closeImport
    {other : String}
    {opened : ObjectId}
    (holding : world.Holding start name id (stage.openImport other opened)) :
    world.Holding start name id stage :=
  { holding with
    kept := fun idle => ⟨(holding.kept idle).1, List.not_mem_of_not_mem_cons (holding.kept idle).2⟩ }

theorem failImport
    {other : String}
    {opened : ObjectId}
    (holding : world.Holding start name id (stage.openImport other opened)) :
    (world.untabulate other).Holding start name id stage := by
  by_cases named : name = other
  · subst named
    refine ⟨holding.journal, holding.objects, fun idle => ?_, ?_, holding.begun⟩
    · exact absurd List.mem_cons_self (holding.kept idle).2
    · intro _ left known
      rw [lookup_untabulate, if_pos rfl] at known
      cases known
  · refine holding.closeImport.same (Nat.le_refl _) (Nat.le_refl _) ?_ Iff.rfl
    rw [lookup_untabulate, if_neg named]

end World.Holding

/-- The regime of loads that leave a module in its place until a body begins under its name. -/
def Regime.holding
    (site : Site)
    (start : World)
    (name : String)
    (id : ObjectId) : Regime site where
  holds stage world := world.Holding start name id stage
  imports _ := True
  searched _ _ := True
  above _ _ := trivial
  push object holding := holding.push object
  trace _ holding := holding.same (Nat.le_refl _) (Nat.le_refl _) rfl Iff.rfl
  note _ idle holding := holding.note idle
  assign _ _ _ holding := holding.setObject _ _
  mark _ _ holding := holding.setObject _ _
  search _ _ _ := trivial
  bind _ _ holding _ _ := holding.setObject _ _
  enter _ _ holding := holding.same (Nat.le_refl _) (Nat.le_refl _) rfl Iff.rfl
  document _ _ holding _ :=
    have noted := (holding.push _).note rfl
    noted.same (Nat.le_refl _) (Nat.le_refl _) rfl Iff.rfl
  openFile _ holding _ := holding.openFile _ _
  closeFile _ _ holding := holding.closeFile
  discardFile reason _ _ holding := holding.discardFile _ reason
  found parent _ _ _ holding absent := holding.found absent parent _
  openImport parent _ _ _ holding absent := holding.openImport absent parent _
  closeImport _ holding := holding.closeImport
  failImport _ holding := holding.failImport

variable
    {site : Site}

/--
The table has a module under the name that is made for a file, whichever registry put it there. After a
load that fails:

* The module is still there exactly if the load has begun no body of a file with that name.
* If it has begun one, there is nothing under the name, or a module that the load has made.
* If a file of source with that name is what the load failed to load, there is nothing under the name.
-/
theorem table_after_failure
    {request : Request}
    {file : String}
    {id : ObjectId}
    {world after : World}
    {thrown : Thrown}
    (known : world.table.lookup (synthesizedName file) = some id)
    (made : id < world.objects.size)
    (failed : request.load site (.forSite site) world = .error thrown after) :
    let name := synthesizedName file
    (after.table.lookup name = some id ↔ ¬after.BeginsSince world.journal.size name) ∧
    (after.BeginsSince world.journal.size name →
      ∀ left, after.table.lookup name = some left → world.objects.size ≤ left) ∧
    (∀ reference other,
      request.aim site = .path reference → site.findFile reference = some other →
        isDocument (site.key other) = false → synthesizedName (site.key other) = name →
          thrown.isOrdinary = true → after.table.lookup name = none) := by
  intro name
  let regime := Regime.holding site world name id
  have free : regime.Free := fun _ => trivial
  have held : regime.holds .outside world := World.Holding.refl known
  have loads := Regime.load_agrees free.permitsSite request (fun _ _ => trivial) held
  have holding : after.Holding world name id .outside := loads.kept_of_error failed
  refine ⟨⟨fun stays started => ?_, fun idle => (holding.kept idle).1⟩, holding.newer, ?_⟩
  · have newer : world.objects.size ≤ id := holding.newer started id stays
    exact absurd made (Nat.not_lt.mpr newer)
  · intro reference other aims chosen source named ordinary
    obtain ⟨cause, stopped, -, rfl⟩ :=
      exists_stopped_of_failed_file aims chosen source failed ordinary
    rw [World.lookup_discarded, if_pos named.symm]

/-! ## A cycle that two registries enter at different modules -/

/-- A body that takes over a global of the second module. -/
def borrowingBody : List Step :=
  [.require "b" "./b", .copy "x" "b" ["v"]]

/-- A body that sets the global after it has required the first module. -/
def lendingBody : List Step :=
  [.require "a" "./a", .assign "v" (.int 1)]

/-- The site with the cycle, for a registry. -/
def lendingSite
    (registry : RegistryName) : Site :=
  { pairSite borrowingBody lendingBody with registry }

/-- Another registry than the default one. -/
def takingRegistry : RegistryName :=
  some "other"

namespace World

/-- The first body begins. -/
def lendBegun : World :=
  (empty.note (.asked none firstFile none)).opened none firstFile

/-- The second body begins while the first one is under way. -/
def lendNested : World :=
  (lendBegun.note (.asked none secondFile none)).opened none secondFile

/-- The second body has got the first module. -/
def lendClosed : World :=
  (lendNested.note (.asked none firstFile (some (.module 0)))).note
    (.required 1 "/" "./a" (.module 0))

/-- The second body has come to its end. -/
def lendFilled : World :=
  (lendClosed.withGlobal 1 "a" (.module 0)).withGlobal 1 "v" (.int 1)

/-- The first body has got the second module. -/
def lendReturned : World :=
  (lendFilled.note (.bodyEnded none secondFile (synthesizedName secondFile) 1)).note
    (.required 0 "/" "./b" (.module 1))

/-- The first registry has loaded both modules. -/
def lent : World :=
  ((lendReturned.withGlobal 0 "b" (.module 1)).withGlobal 0 "x" (.int 1)).note
    (.bodyEnded none firstFile (synthesizedName firstFile) 0)

/-- The second body begins for the other registry. -/
def takeBegun : World :=
  (lent.note (.asked takingRegistry secondFile none)).opened takingRegistry secondFile

/-- The first body begins there while the second one is under way. -/
def takeNested : World :=
  (takeBegun.note (.asked takingRegistry firstFile none)).opened takingRegistry firstFile

/-- The first body has got the second module, which has not set its global. -/
def takeClosed : World :=
  (takeNested.note (.asked takingRegistry secondFile (some (.module 2)))).note
    (.required 3 "/" "./b" (.module 2))

/-- Both modules of the other registry have failed. -/
def taken
    (first second : String) : World :=
  ((takeClosed.withGlobal 3 "b" (.module 2)).discarded takingRegistry firstFile first).discarded
    takingRegistry secondFile second

end World

section Lending

variable
    (registry : RegistryName)

theorem program_borrowing :
    (lendingSite registry).program firstFile = .ok (.steps borrowingBody) :=
  program_firstFile borrowingBody lendingBody

theorem program_lending :
    (lendingSite registry).program secondFile = .ok (.steps lendingBody) :=
  program_secondFile borrowingBody lendingBody

theorem key?_borrowing :
    (Aim.ofToken (lendingSite registry) (Path.directoryText secondFile) "./a").key?
      (lendingSite registry) = some firstFile := by
  rw [directoryText_secondFile]
  exact key?_firstFile borrowingBody lendingBody

theorem key?_lending :
    (Aim.ofToken (lendingSite registry) (Path.directoryText firstFile) "./b").key?
      (lendingSite registry) = some secondFile := by
  rw [directoryText_firstFile]
  exact key?_secondFile borrowingBody lendingBody

end Lending

theorem runSteps_lendNested
    (loader : Loader) :
    Body.runSteps (.layer (lendingSite none) loader) 1 lendingBody .lendNested =
      .ok () .lendFilled := by
  have module : World.lendNested.module? 1 = some (freshFileModule secondFile) := rfl
  have known : World.lendNested.answer? none firstFile = some (.module 0) := rfl
  have required := Body.require_of_answer? module rfl (key?_borrowing none) known loader
  rw [directoryText_secondFile] at required
  exact (Body.runSteps_cons_of_ok (Body.runStep_require_of_ok required "a") _).trans rfl

theorem runSteps_lendBegun
    (loader : Loader) :
    Body.runSteps (.layer (lendingSite none) (.layer (lendingSite none) loader)) 0 borrowingBody
        .lendBegun =
      .ok () ((World.lendReturned.withGlobal 0 "b" (.module 1)).withGlobal 0 "x" (.int 1)) := by
  have module : World.lendBegun.module? 0 = some (freshFileModule firstFile) := rfl
  have absent : World.lendBegun.answer? none secondFile = none := by decide
  have source : isDocument secondFile = false := by decide
  have ran :
      Body.run (lendingSite none) (.layer (lendingSite none) loader) 1 secondFile .lendNested =
        .ok () .lendFilled := by
    rw [Body.run_of_program (program_lending none)]
    exact runSteps_lendNested loader
  have required := Body.require_of_body module rfl rfl (key?_lending none) source absent ran
  rw [directoryText_firstFile] at required
  exact (Body.runSteps_cons_of_ok (Body.runStep_require_of_ok required "b") _).trans rfl

theorem load_lent :
    requireToken (lendingSite none) (.forSite (lendingSite none)) "/" "./a" .empty =
      .ok (.module 0) .lent := by
  have source : isDocument firstFile = false := by decide
  have ran :
      Body.run (lendingSite none) (.forSite (lendingSite none)) 0 firstFile .lendBegun =
        .ok () ((World.lendReturned.withGlobal 0 "b" (.module 1)).withGlobal 0 "x" (.int 1)) := by
    rw [Body.run_of_program (program_borrowing none)]
    exact runSteps_lendBegun (.ofDepth (lendingSite none) 99)
  have resolved :
      (Aim.ofToken (lendingSite none) "/" "./a").key? (lendingSite none) = some firstFile :=
    key?_firstFile borrowingBody lendingBody
  have absent : World.empty.answer? none firstFile = none := rfl
  exact requireToken_of_loadSource rfl resolved source absent (loadSource_of_ok ran)

theorem runSteps_takeNested
    (loader : Loader) :
    ∃ cause, cause.isOrdinary = true ∧
      Body.runSteps (.layer (lendingSite takingRegistry) loader) 3 borrowingBody .takeNested =
        .error cause (World.takeClosed.withGlobal 3 "b" (.module 2)) := by
  have module : World.takeNested.module? 3 = some (freshFileModule firstFile) := rfl
  have known : World.takeNested.answer? takingRegistry secondFile = some (.module 2) := rfl
  have required := Body.require_of_answer? module rfl (key?_lending takingRegistry) known loader
  rw [directoryText_firstFile] at required
  refine ⟨_, ?_, (Body.runSteps_cons_of_ok (Body.runStep_require_of_ok required "b") _).trans rfl⟩
  rfl

theorem load_taken :
    ∃ first second thrown, thrown.isOrdinary = true ∧
      requireToken (lendingSite takingRegistry) (.forSite (lendingSite takingRegistry)) "/" "./b"
          .lent =
        .error thrown (.taken first second) := by
  let site := lendingSite takingRegistry
  let loader := Loader.ofDepth site 99
  have firstSource : isDocument firstFile = false := by decide
  have secondSource : isDocument secondFile = false := by decide
  obtain ⟨inner, innerOrdinary, stopped⟩ := runSteps_takeNested loader
  have nested :
      Body.run site (.layer site loader) 3 firstFile .takeNested =
        .error inner (World.takeClosed.withGlobal 3 "b" (.module 2)) := by
    rw [Body.run_of_program (program_borrowing takingRegistry)]
    exact stopped
  have module : World.takeBegun.module? 2 = some (freshFileModule secondFile) := rfl
  have absent : World.takeBegun.answer? takingRegistry firstFile = none := by decide
  obtain ⟨cause, ordinary, required⟩ :=
    Body.exists_require_of_failed_body module rfl rfl (key?_borrowing takingRegistry) firstSource
      absent nested innerOrdinary
  have ran :
      Body.run site (.forSite site) 2 secondFile .takeBegun =
        .error cause
          ((World.takeClosed.withGlobal 3 "b" (.module 2)).discarded takingRegistry firstFile
            inner.message) := by
    rw [Body.run_of_program (program_lending takingRegistry)]
    exact Run.bind_eq_error.mpr (.inl (Run.bind_eq_error.mpr (.inl required)))
  have resolved : (Aim.ofToken site "/" "./b").key? site = some secondFile :=
    key?_secondFile borrowingBody lendingBody
  have untouched : World.lent.answer? takingRegistry secondFile = none := by decide
  obtain ⟨thrown, kept, failed⟩ :=
    exists_requireToken_of_failed_body rfl resolved secondSource untouched ran ordinary
  exact ⟨inner.message, cause.message, thrown, kept, failed⟩

/-- The module of the first registry is out of the table once the other registry has failed. -/
theorem table_of_taken :
    ∃ thrown after,
      World.lent.table.lookup (synthesizedName secondFile) = some 1 ∧
        requireToken (lendingSite takingRegistry) (.forSite (lendingSite takingRegistry)) "/" "./b"
            .lent =
          .error thrown after ∧
        after.table.lookup (synthesizedName secondFile) = none := by
  obtain ⟨first, second, thrown, ordinary, failed⟩ := load_taken
  let request : Request := .require "/" "./b"
  have known : World.lent.table.lookup (synthesizedName secondFile) = some 1 :=
    Assoc.lookup_put_self _ _ _
  have made : 1 < World.lent.objects.size := by decide
  have loaded :
      request.load (lendingSite takingRegistry) (.forSite (lendingSite takingRegistry)) .lent =
        .error thrown (.taken first second) := failed
  have key : (lendingSite takingRegistry).key secondFile = secondFile :=
    key_secondFile borrowingBody lendingBody
  have source : isDocument ((lendingSite takingRegistry).key secondFile) = false := by
    rw [key]
    decide
  have gone :=
    (table_after_failure known made loaded).2.2 "/b" secondFile
      (aim_secondFile borrowingBody lendingBody) (findFile_secondFile borrowingBody lendingBody)
      source (by rw [key]) ordinary
  exact ⟨thrown, .taken first second, known, failed, gone⟩

/-- A load that fails does not always leave the modules of other registries in the table. -/
theorem taken_leaves :
    ¬∀ (site : Site) (owner other : RegistryName) (earlier request : Request) (loaded : Export)
        (file : String) (id : ObjectId) (world after : World) (thrown : Thrown),
      owner ≠ other →
        earlier.load { site with registry := owner } (.forSite { site with registry := owner })
            .empty = .ok loaded world →
          world.answer? owner file = some (.module id) →
            world.table.lookup (synthesizedName file) = some id →
              request.load { site with registry := other }
                  (.forSite { site with registry := other }) world = .error thrown after →
                thrown.isOrdinary = true →
                  after.table.lookup (synthesizedName file) = some id := by
  intro claim
  obtain ⟨first, second, thrown, ordinary, failed⟩ := load_taken
  have stays :=
    claim (lendingSite none) none takingRegistry (.require "/" "./a") (.require "/" "./b")
      (.module 0) secondFile 1 .lent (.taken first second) thrown (by decide) load_lent rfl
      (Assoc.lookup_put_self _ _ _) failed ordinary
  unfold World.taken at stays
  rw [World.lookup_discarded, if_pos rfl] at stays
  cases stays

end ConfigTokens.Module
