import ConfigTokens.Proofs.Isolation.Load
import ConfigTokens.Proofs.Registry.Identity
import ConfigTokens.Proofs.Run.Bytecode
import ConfigTokens.Proofs.Table.Failure
import Mathlib.Logic.Function.Basic
import Mathlib.Tactic.Choose
/-!
# Registries side by side

The registries of one world share its table of modules, but each has exports of its own. Where no body
imports anything, the calls of one registry do the same as if there were no other one, and a registry that
is cleared does the same as a new one in an empty world: the objects that the registries answer with can
be told apart, and no body reads the table. A package that imports a submodule shows that this is needed.
-/

namespace ConfigTokens.Module

/-! ## Runs of several registries -/

/-- An action refers to a file, and the bodies and functions of its site import nothing. -/
def Action.FilesOnly : Action → Prop
  | .call made => made.site.FilesOnly ∧ made.RefersToFile
  | .clear _ => True

/-- The actions of a registry. -/
def actionsOf
    (registry : RegistryName)
    (actions : List Action) : List Action :=
  actions.filter fun action => action.registry = registry

/-- The texts that a call logs. -/
def Call.texts
    (call : Call)
    (world : World) : List String :=
  (call.after world).traced.toList.drop world.traced.size

/--
A call gives in two worlds the same export up to the identity of objects, or the same failure, and logs
the same texts.
-/
structure Call.AnswersAlike
    (call : Call)
    (world other : World) : Prop where
  load :
    ∃ couple : FileCouple call.site.registry, couple.left = world ∧ couple.right = other ∧
      Run.Matches couple Export.Alike call.load call.load
  texts : call.texts world = call.texts other

theorem Call.answersAlike_of_couple
    {call : Call}
    (couple : FileCouple call.site.registry)
    (files : call.site.FilesOnly)
    (refers : call.RefersToFile) :
    call.AnswersAlike couple.left couple.right where
  load := ⟨couple, rfl, rfl, couple.load_matches files refers⟩
  texts := by
    obtain ⟨final, grown, left, right⟩ := couple.call_follows files refers
    obtain ⟨texts, more, further⟩ := grown.traced
    unfold Call.texts Call.after
    rw [← left, ← right, more, further]
    simp

/-! ## A registry by itself -/

/-- What an action does in a world that belongs to one registry: clearing it may lead to any world. -/
inductive World.OwnStep
    (registry : RegistryName) : World → Action → World → Prop where
  | call {world : World} {made : Call} :
      made.site.registry = registry → OwnStep registry world (.call made) (made.after world)
  | clear {world fresh : World} :
      (∀ key, fresh.answer? registry key = none) → OwnStep registry world (.clear registry) fresh
  | other {world : World} {action : Action} :
      action.registry ≠ registry → OwnStep registry world action world

/-- The run of the registry alone. -/
inductive World.OwnRun
    (registry : RegistryName) : World → List Action → World → Prop where
  | nil {world : World} : OwnRun registry world [] world
  | cons {world middle final : World} {action : Action} {rest : List Action} :
      OwnStep registry world action middle → OwnRun registry middle rest final →
        OwnRun registry world (action :: rest) final

namespace World.OwnStep

variable
    {registry : RegistryName}
    {world final : World}

theorem eq_of_ne
    {action : Action}
    (step : OwnStep registry world action final)
    (apart : registry ≠ action.registry) :
    final = world := by
  cases step with
  | call same => exact absurd same.symm apart
  | clear => exact absurd rfl apart
  | other => rfl

theorem eq_after
    {made : Call}
    (step : OwnStep made.site.registry world (.call made) final) :
    final = made.after world := by
  cases step with
  | call => rfl
  | other apart => exact absurd rfl apart

theorem answer?_of_clear
    (step : OwnStep registry world (.clear registry) final)
    (key : String) :
    final.answer? registry key = none := by
  cases step with
  | clear empty => exact empty key
  | other apart => exact absurd rfl apart

end World.OwnStep

namespace World.OwnRun

variable
    {registry : RegistryName}
    {world middle final : World}
    {actions later : List Action}

theorem append
    (first : OwnRun registry world actions middle)
    (second : OwnRun registry middle later final) :
    OwnRun registry world (actions ++ later) final := by
  induction first with
  | nil => exact second
  | cons step _ ih => exact .cons step (ih second)

theorem eq_of_nil
    (run : OwnRun registry world [] final) :
    final = world := by
  cases run
  rfl

theorem exists_step
    {action : Action}
    (run : OwnRun registry world (action :: actions) final) :
    ∃ middle, OwnStep registry world action middle ∧ OwnRun registry middle actions final := by
  cases run with
  | cons step rest => exact ⟨_, step, rest⟩

/-- The actions of the registry run without those of the others. -/
theorem of_actionsOf
    (registry : RegistryName)
    (world : World)
    (actions : List Action) :
    OwnRun registry world actions (world.afterActions (actionsOf registry actions)) := by
  induction actions generalizing world with
  | nil => exact .nil
  | cons action rest ih =>
      by_cases same : action.registry = registry
      · have kept : actionsOf registry (action :: rest) = action :: actionsOf registry rest :=
          List.filter_cons_of_pos (by simpa using same)
        rw [kept]
        refine .cons ?_ (ih (action.after world))
        cases action with
        | call made => exact .call same
        | clear name =>
            cases same
            refine .clear fun key => ?_
            change ((world.setRegistry name []).registry name).lookup key = none
            rw [World.registry_setRegistry_self]
            rfl
      · have left : actionsOf registry (action :: rest) = actionsOf registry rest :=
          List.filter_cons_of_neg (by simpa using same)
        rw [left]
        exact .cons (.other same) (ih world)

end World.OwnRun

/-! ## Worlds that registries share -/

/--
Each registry has in a world what it has in a world of its own, and no object belongs to two of them.
-/
structure World.Shared
    (world : World)
    (own : RegistryName → World)
    (pairs : RegistryName → Pairing) : Prop where
  couples (registry : RegistryName) :
    ∃ couple : FileCouple registry, couple.left = world ∧ couple.right = own registry ∧
      couple.pairs = pairs registry
  disjoint {registry name : RegistryName} {id other twin : ObjectId} :
    registry ≠ name → pairs registry id other → ¬pairs name id twin

/-- A couple in another left world that has the same paired objects and the same answers. -/
def Couple.moved
    {registry : RegistryName}
    (couple : FileCouple registry)
    (world : World)
    (objects :
      ∀ id other, couple.pairs id other → world.objects[id]? = couple.left.objects[id]?)
    (answers : ∀ key, world.answer? registry key = couple.left.answer? registry key) :
    FileCouple registry where
  pairs := couple.pairs
  left := world
  right := couple.right
  left_unique := couple.left_unique
  right_unique := couple.right_unique
  objects paired := by
    rw [objects _ _ paired]
    exact couple.objects paired
  answers key := by
    rw [answers key]
    exact couple.answers key

/-- Two worlds in which a registry has no answers, and no objects are paired. -/
def Couple.vacant
    {registry : RegistryName}
    {world other : World}
    (left : ∀ key, world.answer? registry key = none)
    (right : ∀ key, other.answer? registry key = none) : FileCouple registry where
  pairs _ _ := False
  left := world
  right := other
  left_unique paired := paired.elim
  right_unique paired := paired.elim
  objects paired := paired.elim
  answers key := by
    rw [left, right]
    exact .none

namespace World.Shared

variable
    {world : World}
    {own : RegistryName → World}
    {pairs : RegistryName → Pairing}

/-- One registry goes on: it touches no objects of the others, and no answers. -/
theorem step
    (shared : world.Shared own pairs)
    {registry : RegistryName}
    (final : FileCouple registry)
    (fresh :
      ∀ id other, final.pairs id other → pairs registry id other ∨ world.objects.size ≤ id)
    (frame :
      ∀ id, id < world.objects.size → (∀ other, ¬pairs registry id other) →
        final.left.objects[id]? = world.objects[id]?)
    (others :
      ∀ name key, name ≠ registry → final.left.answer? name key = world.answer? name key)
    {later : RegistryName → World}
    (mine : later registry = final.right)
    (theirs : ∀ name, name ≠ registry → later name = own name) :
    final.left.Shared later (Function.update pairs registry final.pairs) where
  couples name := by
    by_cases same : name = registry
    · subst same
      exact ⟨final, rfl, mine.symm, (Function.update_self name final.pairs pairs).symm⟩
    · obtain ⟨couple, rfl, right, paired⟩ := shared.couples name
      have objects (id other : ObjectId) (inside : couple.pairs id other) :
          final.left.objects[id]? = couple.left.objects[id]? := by
        refine frame id (couple.made inside).1 fun twin => ?_
        exact shared.disjoint same (paired ▸ inside)
      refine ⟨couple.moved final.left objects fun key => others name key same, rfl, ?_, ?_⟩
      · exact right.trans (theirs name same).symm
      · rw [Function.update_of_ne same]
        exact paired
  disjoint {first second id other twin} apart inside outside := by
    -- A new pair of the registry has a new object, which is no object of another one.
    have crossed {name : RegistryName} {id other twin : ObjectId} (same : name ≠ registry)
        (inside : final.pairs id other) (outside : pairs name id twin) : False := by
      rcases fresh id other inside with early | late
      · exact shared.disjoint (Ne.symm same) early outside
      · obtain ⟨couple, rfl, -, paired⟩ := shared.couples name
        exact absurd (couple.made (paired ▸ outside)).1 (Nat.not_lt.mpr late)
    by_cases left : first = registry
    · subst left
      rw [Function.update_self] at inside
      rw [Function.update_of_ne (Ne.symm apart)] at outside
      exact crossed (Ne.symm apart) inside outside
    · rw [Function.update_of_ne left] at inside
      by_cases right : second = registry
      · subst right
        rw [Function.update_self] at outside
        exact crossed left outside inside
      · rw [Function.update_of_ne right] at outside
        exact shared.disjoint apart inside outside

/-- A call of one registry. -/
theorem call
    (shared : world.Shared own pairs)
    {made : Call}
    (files : made.site.FilesOnly)
    (refers : made.RefersToFile)
    {later : RegistryName → World}
    (mine : later made.site.registry = made.after (own made.site.registry))
    (theirs : ∀ name, name ≠ made.site.registry → later name = own name) :
    ∃ grown, (made.after world).Shared later grown := by
  obtain ⟨couple, rfl, right, paired⟩ := shared.couples made.site.registry
  obtain ⟨final, grown, ended, other⟩ := couple.call_follows files refers
  refine ⟨_, ended ▸ shared.step final (fun id other inside => ?_) (fun id made free => ?_)
    (fun name key apart => grown.others key apart) ?_ theirs⟩
  · rw [← paired]
    exact grown.fresh inside
  · exact grown.frame made fun other inside => free other (paired ▸ inside)
  · rw [mine, other, right]
    rfl

/-- A registry is cleared, and goes on in any world in which it has no answers. -/
theorem clear
    (shared : world.Shared own pairs)
    (registry : RegistryName)
    {later : RegistryName → World}
    (mine : ∀ key, (later registry).answer? registry key = none)
    (theirs : ∀ name, name ≠ registry → later name = own name) :
    ∃ grown, (world.setRegistry registry []).Shared later grown := by
  have gone (key : String) : (world.setRegistry registry []).answer? registry key = none := by
    unfold answer?
    rw [registry_setRegistry_self]
    rfl
  let final : FileCouple registry := .vacant gone mine
  refine ⟨_, shared.step final (fun _ _ paired => paired.elim) (fun _ _ _ => rfl)
    (fun name key apart => ?_) rfl theirs⟩
  change (world.setRegistry registry []).answer? name key = _
  unfold answer?
  rw [registry_setRegistry_of_ne apart]

/-- An action of one registry. -/
theorem action
    (shared : world.Shared own pairs)
    {action : Action}
    (only : action.FilesOnly)
    {later : RegistryName → World}
    (steps : ∀ name, OwnStep name (own name) action (later name)) :
    ∃ grown, (action.after world).Shared later grown := by
  have theirs (name : RegistryName) (apart : name ≠ action.registry) : later name = own name :=
    (steps name).eq_of_ne apart
  cases action with
  | call made => exact shared.call only.1 only.2 (steps made.site.registry).eq_after theirs
  | clear registry => exact shared.clear registry (steps registry).answer?_of_clear theirs

/-- A run of several registries. -/
theorem run
    (shared : world.Shared own pairs)
    {actions : List Action}
    (only : ∀ action ∈ actions, action.FilesOnly)
    {later : RegistryName → World}
    (runs : ∀ name, OwnRun name (own name) actions (later name)) :
    ∃ grown, (world.afterActions actions).Shared later grown := by
  induction actions generalizing world own pairs with
  | nil =>
      have same : later = own := funext fun name => (runs name).eq_of_nil
      exact ⟨pairs, same ▸ shared⟩
  | cons action rest ih =>
      choose middle steps further using fun name => (runs name).exists_step
      obtain ⟨grown, next⟩ := shared.action (only action List.mem_cons_self) steps
      exact ih next (fun other member => only other (List.mem_cons_of_mem _ member)) further

/-- At the start there is nothing that registries could share. -/
theorem start :
    World.empty.Shared (fun _ => .empty) (fun _ _ _ => False) where
  couples _ := ⟨.vacant (fun _ => rfl) (fun _ => rfl), rfl, rfl, rfl⟩
  disjoint _ paired := paired.elim

end World.Shared

/-- A call in a shared world does the same as in any run of its registry alone. -/
theorem Call.answersAlike_of_ownRun
    {actions : List Action}
    (only : ∀ action ∈ actions, action.FilesOnly)
    {call : Call}
    (files : call.site.FilesOnly)
    (refers : call.RefersToFile)
    {final : World}
    (own : World.OwnRun call.site.registry .empty actions final) :
    call.AnswersAlike (World.empty.afterActions actions) final := by
  let later (name : RegistryName) : World :=
    if name = call.site.registry then final
    else World.empty.afterActions (actionsOf name actions)
  have mine : later call.site.registry = final := if_pos rfl
  have runs (name : RegistryName) : World.OwnRun name .empty actions (later name) := by
    by_cases same : name = call.site.registry
    · subst same
      rw [mine]
      exact own
    · have theirs : later name = World.empty.afterActions (actionsOf name actions) := if_neg same
      rw [theirs]
      exact .of_actionsOf name .empty actions
  obtain ⟨pairs, shared⟩ := World.Shared.start.run only runs
  obtain ⟨couple, left, right, -⟩ := shared.couples call.site.registry
  have alike := Call.answersAlike_of_couple couple files refers
  rw [left, right, mine] at alike
  exact alike

/--
If no body imports anything, and all calls refer to files, then after any run of several registries a call

* does what it would do if the actions of all other registries were left out;
* does what it would do in an empty world after the actions of its registry since it was cleared, and so
  in an empty world if the registry has just been cleared.

If the sites keep their files apart as well, an interpreter that keeps code runs what the files say, whatever
actions of the run are left out.
-/
theorem answersAlike_after_run
    {actions : List Action}
    (only : ∀ action ∈ actions, action.FilesOnly)
    {call : Call}
    (files : call.site.FilesOnly)
    (refers : call.RefersToFile)
    (apart :
      ∀ made other, .call made ∈ actions ++ [.call call] → .call other ∈ actions ++ [.call call] →
        made.site.KeepsApart other.site) :
    call.AnswersAlike (World.empty.afterActions actions)
        (World.empty.afterActions (actionsOf call.site.registry actions)) ∧
      (∀ earlier since, actions = earlier ++ .clear call.site.registry :: since →
        call.AnswersAlike (World.empty.afterActions actions)
          (World.empty.afterActions (actionsOf call.site.registry since))) ∧
      ∀ (kept : Bytecodes) (keeps : Bool),
        (∀ made, .call made ∈ actions ++ [.call call] → kept.Serves made.site) →
          ∀ part, part.Sublist (actions ++ [.call call]) →
            kept.programs keeps (World.empty.readings part) =
              (World.empty.readings part).map Reading.source := by
  refine ⟨Call.answersAlike_of_ownRun only files refers (.of_actionsOf _ .empty actions), ?_, ?_⟩
  · rintro earlier since rfl
    have before := World.OwnRun.of_actionsOf call.site.registry .empty earlier
    have after := World.OwnRun.of_actionsOf call.site.registry .empty since
    have cleared :
        World.OwnStep call.site.registry
          (World.empty.afterActions (actionsOf call.site.registry earlier))
          (.clear call.site.registry) .empty :=
      .clear fun _ => rfl
    exact Call.answersAlike_of_ownRun only files refers (before.append (.cons cleared after))
  · intro kept keeps serves part left
    refine World.programs_readings .empty (fun made other inside within => ?_)
      (fun made inside => ?_) keeps
    · exact apart made other (left.subset inside) (left.subset within)
    · exact serves made (left.subset inside)

/-- The site with a single module that logs a text, for a registry. -/
def loggingSite
    (registry : RegistryName) : Site :=
  { loneSite partBody with registry }

/-- The call of a registry that loads the module. -/
def loggingCall
    (registry : RegistryName) : Call :=
  ⟨loggingSite registry, .direct (.path loneFile)⟩

theorem filesOnly_loggingSite
    (registry : RegistryName) :
    (loggingSite registry).FilesOnly := by
  intro file steps read
  refine Site.forall_step_of_entries (fun _ => trivial) (fun place body present => ?_) read
  simp only [loggingSite, loneSite, List.mem_cons, List.not_mem_nil, or_false, Prod.mk.injEq,
    reduceCtorEq, and_false, false_or, Entry.file.injEq, Content.program.injEq,
    Program.steps.injEq] at present
  obtain ⟨-, rfl⟩ := present
  simp [partBody, Step.FilesOnly, Step.ImportsNothing, Literal.ImportsNothing]

theorem filesOnly_loggingCall
    (registry : RegistryName) :
    (Action.call (loggingCall registry)).FilesOnly :=
  ⟨filesOnly_loggingSite registry, loneFile, rfl⟩

/-- The module is the only file for which code is kept. -/
theorem keepsApart_loggingSite
    (registry name : RegistryName) :
    (loggingSite registry).KeepsApart (loggingSite name) := by
  have keys (name : RegistryName) : (loggingSite name).keys = ["/site", loneFile] := by
    change (loggingSite none).keys = _
    decide
  refine Site.keepsApart_of_paths (fun _ => rfl) ?_
  rw [keys, keys]
  change
    ∀ file ∈ ["/site", loneFile], ∀ elsewhere ∈ ["/site", loneFile],
      (⟨loggingSite none, file⟩ : Reading).path = (⟨loggingSite none, elsewhere⟩ : Reading).path →
        file = elsewhere
  decide

/-- A registry that is cleared loads the module as in an empty world, although another one has loaded it. -/
theorem answersAlike_loggingCall :
    let actions := [Action.call (loggingCall (some "B")), .call (loggingCall none), .clear none]
    (∀ action ∈ actions, action.FilesOnly) ∧
      (loggingCall none).site.FilesOnly ∧ (loggingCall none).RefersToFile ∧
        (∀ made other, .call made ∈ actions ++ [.call (loggingCall none)] →
          .call other ∈ actions ++ [.call (loggingCall none)] → made.site.KeepsApart other.site) ∧
        (loggingCall none).AnswersAlike (World.empty.afterActions actions) .empty := by
  intro actions
  have only : ∀ action ∈ actions, action.FilesOnly :=
    List.forall_mem_cons.mpr ⟨filesOnly_loggingCall _,
      List.forall_mem_cons.mpr ⟨filesOnly_loggingCall _, List.forall_mem_singleton.mpr trivial⟩⟩
  have files : (loggingCall none).site.FilesOnly := filesOnly_loggingSite none
  have refers : (loggingCall none).RefersToFile := ⟨loneFile, rfl⟩
  have logs (made : Call) (member : .call made ∈ actions ++ [.call (loggingCall none)]) :
      ∃ registry, made.site = loggingSite registry := by
    simp only [actions, List.cons_append, List.nil_append, List.mem_cons, Action.call.injEq,
      reduceCtorEq, List.not_mem_nil, or_false, false_or] at member
    rcases member with rfl | rfl | rfl
    all_goals exact ⟨_, rfl⟩
  have apart (made other : Call) (member : .call made ∈ actions ++ [.call (loggingCall none)])
      (also : .call other ∈ actions ++ [.call (loggingCall none)]) :
      made.site.KeepsApart other.site := by
    obtain ⟨registry, here⟩ := logs made member
    obtain ⟨name, there⟩ := logs other also
    rw [here, there]
    exact keepsApart_loggingSite registry name
  exact ⟨only, files, refers, apart, (answersAlike_after_run only files refers apart).2.1
    [.call (loggingCall (some "B")), .call (loggingCall none)] [] rfl⟩

/-! ## A package that two registries load -/

/-- The package has been loaded. -/
def World.bundleLoaded
    (registry : RegistryName) : World :=
  (bundleGot registry).note (.bodyEnded registry bundleFile bundleName 0)

theorem load_bundleCall
    (registry : RegistryName) :
    (bundleCall registry []).load .empty = .ok (.module 0) (.bundleLoaded registry) := by
  let site := bundleSite registry []
  have stepped :
      Body.runStep (.forSite site) 0 partStep (.bundleBegun registry) =
        .ok () (.bundleGot registry) :=
    runStep_partStep registry [] (.ofDepth site 100)
  have ran :
      Body.run site (.forSite site) 0 bundleFile (.bundleBegun registry) =
        .ok () (.bundleGot registry) := by
    rw [Body.run_of_program (program_bundleFile registry [])]
    exact Body.runSteps_cons_of_ok stepped []
  exact requireToken_of_loadSource (by decide) (key?_bundleFile registry []) (by decide) rfl
    (loadSource_of_ok ran)

/-- The world in which another registry begins the package that is loaded. -/
def World.bundleAgain : World :=
  ((bundleLoaded (some "B")).note (.asked none bundleFile none)).opened none bundleFile

/-- The package of the other registry has what it imports. -/
def World.bundleGotAgain : World :=
  bundleAgain.withGlobal 2 "X" (.int 1)

theorem size_bundleLoaded :
    (World.bundleLoaded (some "B")).objects.size = 2 := by
  rfl

/-- The table answers the import of the other registry. -/
theorem importModule_partAgain
    (loader : Loader) :
    importModule (bundleSite none []) loader partName .bundleAgain = .ok 1 .bundleAgain := by
  have known : World.bundleAgain.table.lookup partName = some 1 := by
    have apart : partName ≠ synthesizedName bundleFile := partName_ne_bundleName
    unfold World.bundleAgain
    rw [World.lookup_opened, if_neg apart, World.table_note]
    unfold World.bundleLoaded
    rw [World.table_note]
    exact lookup_bundleGot (some "B")
  exact importModule_of_tabled (below_ne_empty bundleName "s") known

theorem runStep_partAgain
    (nested : Loader) :
    Body.runStep (.layer (bundleSite none []) nested) 2 partStep .bundleAgain =
      .ok () .bundleGotAgain := by
  have package : (World.bundleAgain.moduleAt 2).package = bundleName := by
    have newest :=
      World.moduleAt_opened_self ((World.bundleLoaded (some "B")).note (.asked none bundleFile none))
        none bundleFile
    rw [World.objects_note, size_bundleLoaded, freshFileModule_bundleFile] at newest
    unfold World.bundleAgain
    rw [newest]
    rfl
  have plain : (World.bundleAgain.moduleAt 1).searchPath = none := rfl
  have found : attribute? World.bundleAgain (.module 1) "X" = some (.int 1) := rfl
  have imported :
      (Loader.layer (bundleSite none []) nested).importModule (bundleName ++ "." ++ "s")
          .bundleAgain =
        .ok 1 .bundleAgain := by
    rw [Loader.importModule_layer]
    exact importModule_partAgain nested
  have got :
      Body.fromImport (.layer (bundleSite none []) nested) 2 "s" "X" .bundleAgain =
        .ok (.int 1) .bundleAgain :=
    Body.fromImport_of_ok package bundleName_ne_empty imported plain found
  unfold partStep
  rw [Body.runStep_fromImport_of_ok got, Run.setGlobal_apply]
  rfl

theorem load_bundleAgain :
    (bundleCall none []).load (.bundleLoaded (some "B")) =
      .ok (.module 2)
        (World.bundleGotAgain.note (.bodyEnded none bundleFile (synthesizedName bundleFile) 2)) := by
  let site := bundleSite none []
  have stepped :
      Body.runStep (.forSite site) 2 partStep .bundleAgain = .ok () .bundleGotAgain :=
    runStep_partAgain (.ofDepth site 100)
  have ran : Body.run site (.forSite site) 2 bundleFile .bundleAgain = .ok () .bundleGotAgain := by
    rw [Body.run_of_program (program_bundleFile none [])]
    exact Body.runSteps_cons_of_ok stepped []
  have absent : (World.bundleLoaded (some "B")).answer? none bundleFile = none := by
    decide
  exact requireToken_of_loadSource (by decide) (key?_bundleFile none []) (by decide) absent
    (loadSource_of_ok ran)

theorem texts_bundleCall :
    (bundleCall none []).texts .empty = ["s"] := by
  unfold Call.texts
  rw [Call.after_of_load_eq_ok (load_bundleCall none)]
  rfl

theorem texts_bundleAgain :
    (bundleCall none []).texts (.bundleLoaded (some "B")) = [] := by
  unfold Call.texts
  rw [Call.after_of_load_eq_ok load_bundleAgain]
  rfl

/-- A call may log another text in a registry when another one has loaded the same package before. -/
theorem bundle_sharesSubmodule :
    ¬∀ (actions : List Action) (call : Call),
      (∀ action ∈ actions, ∃ made, action = .call made ∧ made.RefersToFile ∧
        made.site = { call.site with registry := made.site.registry }) →
        call.RefersToFile →
          call.AnswersAlike (World.empty.afterActions actions)
            (World.empty.afterActions (actionsOf call.site.registry actions)) := by
  intro claim
  have refers (registry : RegistryName) : (bundleCall registry []).RefersToFile :=
    ⟨"/p", aim_bundle registry []⟩
  have first :
      World.empty.afterActions [.call (bundleCall (some "B") [])] = .bundleLoaded (some "B") := by
    change (bundleCall (some "B") []).after .empty = _
    rw [Call.after_of_load_eq_ok (load_bundleCall (some "B"))]
    rfl
  have same :=
    (claim [.call (bundleCall (some "B") [])] (bundleCall none [])
      (List.forall_mem_singleton.mpr ⟨_, rfl, refers (some "B"), rfl⟩) (refers none)).texts
  rw [first] at same
  cases texts_bundleAgain.symm.trans (same.trans texts_bundleCall)

end ConfigTokens.Module
