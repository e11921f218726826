import ConfigTokens.Proofs.Nesting.Reentry
import ConfigTokens.Proofs.Nesting.SoFar
import ConfigTokens.Proofs.Registry.Ledger
import ConfigTokens.Proofs.Registry.Requirement
/-!
# Cycles of loads

Bodies may require each other in any way, may swallow failures and try again. Still a load comes to an
end: no more bodies are under way at once than the site has files and names, as bodies have finitely many
steps. A body that has begun is the only one of its file until it is closed, and whoever requires its file
in the meantime gets its module with the globals that the body has assigned so far.

`cycles_reenter` shows why two conditions are needed. A body that has the name of another file can begin
again at every depth, and an import runs a body that is no module of its file.
-/

namespace ConfigTokens.Module

/-- In a run a body that has begun reigns over the events that follow. -/
theorem World.reigns_of_bodyStarted
    (world : World)
    (call : Call)
    {past rest : List Event}
    {registry : RegistryName}
    {file : String}
    {id : ObjectId}
    (events :
      (call.after world).eventsSince world.journal.size =
        past ++ .bodyStarted registry file id :: rest) :
    (⟨registry, file, id⟩ : RunningBody).Reigns rest := by
  have history : History world (past ++ .bodyStarted registry file id :: rest) (call.after world) :=
    events ▸ world.afterCalls_history [call]
  obtain ⟨accepted, -, -⟩ := history.accepted world.fits_ledger
  obtain ⟨before, allowed, behind⟩ := Ledger.accepts_append.mp accepted
  have sound := (world.sound_ledger.after before).next allowed
  exact Ledger.reigns sound behind allowed.1 List.mem_cons_self

/--
In a run of calls at a site:

* With room for all bodies, a further request ends without a load that is nested deeper than the limit,
  whatever such a load would do, and a higher limit changes nothing, if the site is regular or nothing is
  imported by name.
* In a regular site modules are looked for below the name that is made for a file only if a package has
  that name.
* Whatever the limit is, every load that is nested in a further request begins in a world that is
  consistent with the site.
* When the body of a file begins in a further call, it is the only one of the file until it is closed;
  a load that asks for the file gets its module until then, which is the module that is loaded if the
  body ends.
* When the body of a file has run some steps from a consistent world on, the loads that the next step
  starts, and all that are nested in them, begin where the registry answers for the file with the module
  of the body, and where the module has the globals that those steps have left.
* A request for the file that begins in such a world returns that module and changes no global.
-/
theorem cycles_end
    {site : Site}
    {calls : List Call}
    (here : ∀ call ∈ calls, call.site = site) :
    let world := World.empty.afterCalls calls
    (∀ (request : Request) (depth : Nat),
      site.Regular ∨ request.LoadsFiles site → site.bodies ≤ depth →
        (∀ other bottom : Loader,
          request.load site
              (.guarded site (fun world => world.Consistent site) other bottom depth) world =
            request.load site (.ofDepth site depth) world) ∧
        ∀ more,
          request.load site (.ofDepth site (depth + more)) world =
            request.load site (.ofDepth site depth) world) ∧
    (site.Regular → ∀ file, site.IsKey file → site.SearchesBelow (synthesizedName file) →
      ∃ package, site.IsKey package ∧ isPackageFile package = true ∧
        synthesizedName package = synthesizedName file) ∧
    (∀ (request : Request) (depth : Nat) (other : Loader),
      request.load site
          (.guarded site (fun world => world.Consistent site) other (.ofDepth site 0) depth) world =
        request.load site (.ofDepth site depth) world) ∧
    (∀ (call : Call) past registry file id rest,
      call.site = site →
        (call.after world).eventsSince world.journal.size =
            past ++ .bodyStarted registry file id :: rest →
          (⟨registry, file, id⟩ : RunningBody).Reigns rest) ∧
    (∀ file depth steps (world start : World) (other : Loader),
      site.IsKey file → world.Consistent site →
        Body.runSteps (.ofDepth site depth) world.objects.size steps
            (world.opened site.registry file) = .ok () start →
          let soFar (now : World) : Prop := now.SoFar start site file world.objects.size
          let guarded := Loader.guarded site soFar other (.ofDepth site 0) depth
          (∀ base token,
            guarded.require base token start =
              (Loader.ofDepth site depth).require base token start) ∧
          ∀ name,
            guarded.importModule name start =
              (Loader.ofDepth site depth).importModule name start) ∧
    ∀ file id (start now : World) (request : Request) (loader : Loader),
      now.SoFar start site file id → (request.aim site).key? site = some file →
        request.load site loader now =
          .ok (.module id) (now.note (.asked site.registry file (some (.module id)))) := by
  intro world
  have consistent : world.Consistent site := (World.consistent_empty site).afterCalls here
  refine ⟨fun request depth bounded roomy => ⟨?_, ?_⟩, ?_,
    fun request depth other => loads_begin_consistent consistent request depth other, ?_, ?_, ?_⟩
  · intro other bottom
    exact loads_nest bounded roomy consistent other bottom
  · intro more
    exact loads_with_room bounded roomy consistent more
  · intro regular file isKey searches
    exact regular.exists_package isKey searches
  · intro call past registry file id rest _ events
    exact world.reigns_of_bodyStarted call events
  · intro file depth steps world start other isKey consistent ran
    exact loads_find_soFar isKey consistent ran other
  · intro file id start now request loader soFar resolved
    exact Request.load_of_answer? resolved soFar.answered

theorem regular_pairSite
    (first second : List Step) :
    (pairSite first second).Regular where
  proper := by
    unfold FileTree.IsProper pairSite
    simp
  plain := FileTree.linksNoDirectory_of_no_link (by simp [pairSite])
  apart file _ := by
    -- The names that are made for files begin with an underscore, unlike those of the two modules.
    have away
        {name : String} (other : name.toList.head? ≠ some '_') (suffix : String) :
        synthesizedName file ++ suffix ≠ name := by
      rintro rfl
      refine other ?_
      rw [String.toList_append, List.head?_append, head?_synthesizedName]
      rfl
    have absent (suffix : String) :
        ¬ (synthesizedName file ++ suffix) ∈
          (pairSite first second).tree.list (pairSite first second).cwd "/" := by
      rw [list_root]
      simp only [List.mem_cons, List.not_mem_nil, or_false, not_or]
      exact ⟨away (by decide) suffix, away (by decide) suffix⟩
    have bare := absent ""
    rw [String.append_empty] at bare
    have root : (pairSite first second).importRoot = "/" := rfl
    unfold Site.findImport
    simp [root, bare, absent ".py"]

/--
The site of a cycle of two modules is regular, its limit leaves room for all bodies, and the first one is
the answer until its body is closed.
-/
theorem cycles_end_brokenCycle :
    cycleSite.Regular ∧ (∀ call ∈ ([] : List Call), call.site = cycleSite) ∧
      cycleSite.bodies ≤ cycleSite.depth ∧
      (∀ (request : Request) (more : Nat),
        request.load cycleSite (.ofDepth cycleSite (cycleSite.depth + more)) .empty =
          request.load cycleSite (.forSite cycleSite) .empty) ∧
      (⟨none, firstFile, 0⟩ : RunningBody).Reigns
        [.asked none secondFile none, .bodyStarted none secondFile 1,
          .asked none firstFile (some (.module 0)), .required 1 "/" "./a" (.module 0),
          .bodyEnded none secondFile (synthesizedName secondFile) 1,
          .required 0 "/" "./b" (.module 1), .moduleDiscarded none firstFile "late"] := by
  have regular : cycleSite.Regular := regular_pairSite _ _
  have here : ∀ call ∈ ([] : List Call), call.site = cycleSite := fun _ member => by cases member
  have roomy : cycleSite.bodies ≤ cycleSite.depth := by decide
  have parts := cycles_end here
  exact ⟨regular, here, roomy, fun request more => (parts.1 request _ (.inl regular) roomy).2 more,
    parts.2.2.2.1 (pairCall brokenBody cyclicBody) [.asked none firstFile none] none firstFile 0 _ rfl
      events_brokenCycle⟩

/--
In a tree without links to directories there need not be a limit with which a load has come to its end; and
while a body is under way that an import runs, a load of its file need not return the module that the import
returns.
-/
theorem cycles_reenter :
    (¬∀ (site : Site) (request : Request),
      site.tree.IsProper → site.tree.LinksNoDirectory →
        ∃ depth, ∀ more,
          request.load site (.ofDepth site (depth + more)) .empty =
            request.load site (.ofDepth site depth) .empty) ∧
    ¬∀ (site : Site) (request : Request) (file : String) (id : ObjectId) (final : World),
      site.tree.IsProper → site.tree.LinksNoDirectory →
        request.load site (.forSite site) .empty = .ok (.module id) final →
          (final.moduleAt id).file? = some file →
            ∀ base token answer,
              .required id base token answer ∈ final.eventsSince 0 →
                (Aim.ofToken site base token).key? site = some file → answer = .module id := by
  constructor
  · intro claim
    have proper : twinSite.tree.IsProper := by
      unfold FileTree.IsProper twinSite
      simp
    have plain : twinSite.tree.LinksNoDirectory :=
      FileTree.linksNoDirectory_of_no_link (by simp [twinSite])
    obtain ⟨depth, same⟩ := claim twinSite (.require "/" twinName) proper plain
    have start : World.empty.Untwinned := ⟨rfl, rfl, rfl⟩
    -- The stub fails as often as the limit says.
    obtain ⟨_, final, loaded, -, failures⟩ := exists_requireToken_twin depth start "/"
    obtain ⟨_, further, again, -, more⟩ := exists_requireToken_twin (depth + 1) start "/"
    have ends : EStateM.Result.ok _ further = EStateM.Result.ok _ final :=
      again.symm.trans ((same 1).trans loaded)
    cases ends
    omega
  · intro claim
    have proper : selfSite.tree.IsProper := by
      unfold FileTree.IsProper selfSite loneSite
      simp
    have plain : selfSite.tree.LinksNoDirectory :=
      FileTree.linksNoDirectory_of_no_link (by simp [selfSite, loneSite])
    have events :
        World.selfLoaded.eventsSince 0 =
          [.asked none (importKey "a") none, .asked none loneFile none, .bodyStarted none loneFile 1,
            .asked none loneFile (some (.module 1)), .required 1 "/site" "./a" (.module 1),
            .bodyEnded none loneFile (synthesizedName loneFile) 1,
            .required 0 "/site" "./a" (.module 1), .imported none "a" "a"] := rfl
    have required : .required 0 "/site" "./a" (.module 1) ∈ World.selfLoaded.eventsSince 0 := by
      rw [events]
      simp
    have same :=
      claim selfSite (.require "/" "a") loneFile 0 .selfLoaded proper plain load_selfName rfl "/site"
        "./a" (.module 1) required key?_selfToken
    cases same

end ConfigTokens.Module
