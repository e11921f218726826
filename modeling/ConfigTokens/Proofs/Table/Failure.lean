import ConfigTokens.Proofs.Import.Submodule
import ConfigTokens.Proofs.Path.Segments
import ConfigTokens.Proofs.Table.Standing
/-!
# What a failed package leaves in the table

A package that fails is taken out of the table, and nothing else is. The submodules that its body has
imported before stay under their names, so that later imports get them without running a body, whatever
the files hold then. Where nothing is imported below the package, nothing is left there.
-/

namespace ConfigTokens.Module

/-! ## Packages are no data -/

theorem isDocument_of_isPackageFile
    {file : String}
    (package : isPackageFile file = true) :
    isDocument file = false := by
  have base : Path.baseName file.toList = packageFile.toList := by
    have same : Path.baseNameText file = packageFile := eq_of_beq package
    rw [← same]
    exact String.toList_ofList.symm
  refine eq_false_of_ne_true fun document => ?_
  have ends : documentSuffix.toList <:+ file.toList := List.isSuffixOf_iff_suffix.mp document
  have inside := base ▸ Path.baseName_isSuffix file.toList
  rcases List.suffix_or_suffix_of_suffix ends inside with short | long
  · revert short
    decide
  · revert long
    decide

/-! ## Bodies that stay out of a package -/

/-- A step imports nothing below a name. -/
def Step.StaysOutOf
    (above : String) : Step → Prop
  | .require _ token | .tryRequire _ token =>
    isFileReference token = false → ∀ sub, dottedName token ≠ above ++ "." ++ sub
  | .fromImport .. => False
  | _ => True

/-- The bodies of the site import nothing below a name. -/
def Site.StaysOutOf
    (site : Site)
    (above : String) : Prop :=
  ∀ file steps, site.program file = .ok (.steps steps) → ∀ step ∈ steps, step.StaysOutOf above

variable
    {site : Site}

theorem Site.StaysOutOf.permits
    {above : String}
    (outside : site.StaysOutOf above) :
    ((TableRegime.vacant above).regime site).PermitsSite := by
  have apart {token : String}
      (free : isFileReference token = false → ∀ sub, dottedName token ≠ above ++ "." ++ sub) :
      ((TableRegime.vacant above).regime site).Requires token := by
    intro bare below more same
    refine free bare (nameOfParts below) ?_
    calc
      dottedName token = nameOfParts (below ++ nameParts above) := by
        rw [← same, nameOfParts_nameParts]
      _ = above ++ "." ++ nameOfParts below := by
        rw [nameOfParts_append more (nameParts_ne_nil above), nameOfParts_nameParts]
  intro file steps read step member
  have free := outside file steps read step member
  cases step with
  | require name token => exact apart free
  | tryRequire name token => exact apart free
  | fromImport name source part => exact free.elim
  | _ => trivial

/-- The world in which the body of a file begins that a registry has been asked for. -/
def World.begun
    (world : World)
    (site : Site)
    (file : String) : World :=
  (world.note (.asked site.registry file none)).opened site.registry file

/-- A file of source that fails when it is asked for leaves what its body left, without its own name. -/
theorem exists_stopped_of_failed_file
    {request : Request}
    {reference file : String}
    (aims : request.aim site = .path reference)
    (chosen : site.findFile reference = some file)
    (source : isDocument (site.key file) = false)
    {world after : World}
    {thrown : Thrown}
    (failed : request.load site (.forSite site) world = .error thrown after)
    (ordinary : thrown.isOrdinary = true) :
    ∃ cause stopped,
      Body.run site (.forSite site) world.objects.size (site.key file)
          (world.begun site (site.key file)) =
        .error cause stopped ∧
      after = stopped.discarded site.registry (site.key file) cause.message := by
  have resolved : (request.aim site).key? site = some (site.key file) := by
    rw [aims]
    exact Option.map_eq_some_iff.mpr ⟨file, chosen, rfl⟩
  cases known : world.answer? site.registry (site.key file) with
  | some answer =>
      rw [Request.load_of_answer? resolved known] at failed
      cases failed
  | none =>
      rcases (request.load_rewords site _).cause failed with ⟨first, ended, same⟩
      rw [Aim.load_of_key? resolved, loadKey_of_absent known, aims] at ended
      have loaded :
          loadSource site (.forSite site) (site.key file)
              (world.note (.asked site.registry (site.key file) none)) = .error first after := by
        unfold Aim.fill loadFile at ended
        rw [source] at ended
        exact ended
      rw [loadSource_apply] at loaded
      split at loaded
      case h_1 => cases loaded
      case h_2 cause stopped body =>
          split at loaded
          case isTrue =>
              cases loaded
              exact ⟨cause, stopped, body, rfl⟩
          case isFalse request =>
              cases loaded
              exact absurd (same.trans ordinary) request

theorem World.lookup_discarded
    (world : World)
    (registry : RegistryName)
    (file reason name : String) :
    (world.discarded registry file reason).table.lookup name =
      if name = synthesizedName file then none else world.table.lookup name :=
  world.lookup_untabulate (synthesizedName file) name

/-- A dotted name that is in the table when some steps of a body have run stays there. -/
theorem lookup_of_runSteps
    {depth : Nat}
    {self id : ObjectId}
    {steps : List Step}
    {start : World}
    {name : String}
    (dotted : ¬IsPart name)
    (known : start.table.lookup name = some id) :
    ((Body.runSteps (.ofDepth site depth) self steps).final start).table.lookup name = some id := by
  let regime := (TableRegime.standing dotted id).regime site
  let stage : Stage := ⟨[], [], some self⟩
  have free : regime.Free := fun _ => trivial
  have nested : regime.Agrees stage (.ofDepth site depth) (.ofDepth site depth) :=
    Regime.ofDepth_agrees free.permitsSite depth stage
  have held : regime.holds stage start := ⟨known, List.not_mem_nil⟩
  exact (Regime.runSteps_agrees nested rfl (fun step _ => free.permits step) held).kept.1

/-- A body leaves nothing below a name that the bodies of the site stay out of. -/
theorem vacant_of_run
    {depth : Nat}
    {self : ObjectId}
    {file above : String}
    {start : World}
    (outside : site.StaysOutOf above)
    (vacant : ∀ sub, start.table.lookup (above ++ "." ++ sub) = none)
    (sub : String) :
    ((Body.run site (.ofDepth site depth) self file).final start).table.lookup
      (above ++ "." ++ sub) = none := by
  let regime := (TableRegime.vacant above).regime site
  let stage : Stage := ⟨[], [], some self⟩
  have nested : regime.Agrees stage (.ofDepth site depth) (.ofDepth site depth) :=
    Regime.ofDepth_agrees outside.permits depth stage
  have held : regime.holds stage start := vacant
  exact (Regime.run_agrees nested rfl outside.permits file held).kept sub

/--
After a package has failed:

* The table has no module under the name that is made for it, and under every other name what it had when
  the body stopped.
* A submodule that was in the table after some steps of the body is still there, and every later import
  of its name gets it without a change, be the site another one by then.
* If the table had nothing below the name of the package, and the bodies of the site import nothing
  there, it has nothing there again.
-/
theorem table_of_failed_package
    {request : Request}
    {reference file : String}
    (aims : request.aim site = .path reference)
    (chosen : site.findFile reference = some file)
    (package : isPackageFile (site.key file) = true)
    {world after : World}
    {thrown : Thrown}
    (failed : request.load site (.forSite site) world = .error thrown after)
    (ordinary : thrown.isOrdinary = true) :
    let name := synthesizedName (site.key file)
    let begun := world.begun site (site.key file)
    after.table.lookup name = none ∧
    (∃ cause stopped,
      Body.run site (.forSite site) world.objects.size (site.key file) begun =
          .error cause stopped ∧
        ∀ other, other ≠ name → after.table.lookup other = stopped.table.lookup other) ∧
    (∀ steps rest start sub id,
      site.program (site.key file) = .ok (.steps (steps ++ rest)) →
        Body.runSteps (.forSite site) world.objects.size steps begun = .ok () start →
          start.table.lookup (name ++ "." ++ sub) = some id →
            after.table.lookup (name ++ "." ++ sub) = some id ∧
              ∀ other loader, importModule other loader (name ++ "." ++ sub) after = .ok id after) ∧
    ((∀ sub, world.table.lookup (name ++ "." ++ sub) = none) → site.StaysOutOf name →
      ∀ sub, after.table.lookup (name ++ "." ++ sub) = none) := by
  intro name begun
  have source := isDocument_of_isPackageFile package
  obtain ⟨cause, stopped, ran, rfl⟩ :=
    exists_stopped_of_failed_file aims chosen source failed ordinary
  have below (sub : String) :
      (stopped.discarded site.registry (site.key file) cause.message).table.lookup
          (name ++ "." ++ sub) =
        stopped.table.lookup (name ++ "." ++ sub) := by
    rw [World.lookup_discarded,
      if_neg (ne_synthesizedName_of_dotted (not_isPart_below name sub) (site.key file))]
  refine ⟨?_, ⟨cause, stopped, ran, fun other apart => ?_⟩, ?_, ?_⟩
  · rw [World.lookup_discarded, if_pos rfl]
  · rw [World.lookup_discarded, if_neg apart]
  · intro steps rest start sub id read before known
    have stays : stopped.table.lookup (name ++ "." ++ sub) = some id := by
      rw [Body.run_of_program read, Body.runSteps_append_of_ok before] at ran
      rw [← Run.final_of_error ran]
      exact lookup_of_runSteps (not_isPart_below name sub) known
    have kept := (below sub).trans stays
    exact ⟨kept, fun other loader => importModule_of_tabled (below_ne_empty name sub) kept⟩
  · intro vacant outside sub
    rw [below]
    have begunVacant (sub : String) : begun.table.lookup (name ++ "." ++ sub) = none := by
      change (world.tabulate name world.objects.size).table.lookup (name ++ "." ++ sub) = none
      rw [World.lookup_tabulate,
        if_neg (ne_synthesizedName_of_dotted (not_isPart_below name sub) (site.key file))]
      exact vacant sub
    rw [← Run.final_of_error ran]
    exact vacant_of_run outside begunVacant sub

/-!
## A site with a package

The root holds a package with one submodule. The body of the package imports the submodule by a relative
name, and what it does after that is left open; the submodule logs a text and sets the global that is
imported. The table has the submodule under a name below that of the package from then on.
-/

section Package

/-- The path of the package's body. -/
def bundleFile : String :=
  "/p/__init__.py"

/-- The path of the submodule. -/
def partFile : String :=
  "/p/s.py"

/-- The name that is made for the package. -/
def bundleName : String :=
  synthesizedName bundleFile

/-- The name of the submodule. -/
def partName : String :=
  bundleName ++ "." ++ "s"

/-- The body of the submodule. -/
def partBody : List Step :=
  [.log "s", .assign "X" (.int 1)]

/-- The step of the package that imports the submodule. -/
def partStep : Step :=
  .fromImport "X" "s" "X"

/-- The site with the package, whose body goes on after the import. -/
def bundleSite
    (registry : RegistryName)
    (rest : List Step) : Site where
  tree :=
    ⟨[(["p"], .directory), (["p", "__init__.py"], .file (.program (.steps (partStep :: rest)))),
      (["p", "s.py"], .file (.program (.steps partBody)))]⟩
  cwd := []
  importRoot := "/"
  registry := registry
  interpreter := .usual

/-- The call that requires the package. -/
def bundleCall
    (registry : RegistryName)
    (rest : List Step) : Call :=
  ⟨bundleSite registry rest, .require "/" "./p"⟩

variable
    (registry : RegistryName)
    (rest : List Step)

/-! ### Finding the modules -/

theorem entry?_bundle :
    (bundleSite registry rest).tree.entry? ["p"] = some .directory := rfl

theorem entry?_bundleFile :
    (bundleSite registry rest).tree.entry? ["p", "__init__.py"] =
      some (.file (.program (.steps (partStep :: rest)))) := rfl

theorem entry?_partFile :
    (bundleSite registry rest).tree.entry? ["p", "s.py"] =
      some (.file (.program (.steps partBody))) := rfl

/-- The places above a name in the root and above a name in the package are directories. -/
theorem entry?_above
    (name : String) :
    (∀ count < 1, (bundleSite registry rest).tree.entry? ([name].take count) = some .directory) ∧
      ∀ count < 2,
        (bundleSite registry rest).tree.entry? (["p", name].take count) = some .directory := by
  constructor
  · intro count less
    match count, less with
    | 0, _ => rfl
  · intro count less
    match count, less with
    | 0, _ => rfl
    | 1, _ => rfl

theorem find_bundle :
    (bundleSite registry rest).tree.find true (bundleSite registry rest).cwd "/p" =
      .ok (["p"], .directory) := by
  have spells : FileTree.Spells "/p" ["p"] := ⟨by decide, by decide, by decide, by decide⟩
  exact FileTree.find_of_entry spells (entry?_above registry rest "p").1
    (entry?_bundle registry rest) (by simp)

theorem find_bundleFile :
    (bundleSite registry rest).tree.find true (bundleSite registry rest).cwd bundleFile =
      .ok (["p", "__init__.py"], .file (.program (.steps (partStep :: rest)))) := by
  have spells : FileTree.Spells bundleFile ["p", "__init__.py"] :=
    ⟨by decide, by decide, by decide, by decide⟩
  exact FileTree.find_of_entry spells (entry?_above registry rest "__init__.py").2
    (entry?_bundleFile registry rest) (by simp)

theorem find_partFile :
    (bundleSite registry rest).tree.find true (bundleSite registry rest).cwd partFile =
      .ok (["p", "s.py"], .file (.program (.steps partBody))) := by
  have spells : FileTree.Spells partFile ["p", "s.py"] :=
    ⟨by decide, by decide, by decide, by decide⟩
  exact FileTree.find_of_entry spells (entry?_above registry rest "s.py").2
    (entry?_partFile registry rest) (by simp)

theorem program_bundleFile :
    (bundleSite registry rest).program bundleFile = .ok (.steps (partStep :: rest)) :=
  Site.program_of_find (find_bundleFile registry rest)

theorem program_partFile :
    (bundleSite registry rest).program partFile = .ok (.steps partBody) :=
  Site.program_of_find (find_partFile registry rest)

theorem isFile_bundleFile :
    (bundleSite registry rest).isFile bundleFile = true :=
  Site.isFile_of_find (find_bundleFile registry rest)

theorem isFile_partFile :
    (bundleSite registry rest).isFile partFile = true :=
  Site.isFile_of_find (find_partFile registry rest)

theorem isFile_bundle :
    (bundleSite registry rest).isFile "/p" = false := by
  unfold Site.isFile FileTree.isFile
  rw [find_bundle]

theorem findFile_bundle :
    (bundleSite registry rest).findFile "/p" = some bundleFile := by
  have listed : candidates "/p" = ["/p", "/p.py", "/p.json", bundleFile] := by decide
  have absent (name : String) (path : String) (spells : FileTree.Spells path [name])
      (nothing : (bundleSite registry rest).tree.entry? [name] = none) :
      (bundleSite registry rest).isFile path = false :=
    FileTree.isFile_of_absent spells (entry?_above registry rest name).1 nothing
  have plain := absent "p.py" "/p.py" ⟨by decide, by decide, by decide, by decide⟩ rfl
  have data := absent "p.json" "/p.json" ⟨by decide, by decide, by decide, by decide⟩ rfl
  simp [Site.findFile, listed, isFile_bundle, plain, data, isFile_bundleFile]

theorem key_bundleFile :
    (bundleSite registry rest).key bundleFile = bundleFile :=
  Site.key_of_find (find_bundleFile registry rest) (by decide)

theorem aim_bundle :
    Aim.ofToken (bundleSite registry rest) "/" "./p" = .path "/p" := by
  have reference : isFileReference "./p" = true := by decide
  have anchored :
      (bundleSite registry rest).anchor
        (Path.absoluteText (bundleSite registry rest).cwdText "/") "./p" = "/p" := by
    change Path.anchorText (FileTree.pathText [])
      (Path.absoluteText (FileTree.pathText []) "/") "./p" = "/p"
    decide
  unfold Aim.ofToken
  rw [if_pos reference, anchored]

theorem key?_bundleFile :
    (Aim.ofToken (bundleSite registry rest) "/" "./p").key? (bundleSite registry rest) =
      some bundleFile := by
  rw [aim_bundle, Aim.key?_path (findFile_bundle registry rest), key_bundleFile]

theorem findImport_part :
    (bundleSite registry rest).findImport "/p" "s" = some (.plain partFile) := by
  have listed :
      (bundleSite registry rest).tree.list (bundleSite registry rest).cwd "/p" =
        ["__init__.py", "s.py"] := by
    unfold FileTree.list
    rw [find_bundle]
    rfl
  have path : "/p" ++ "/" ++ "s" ++ ".py" = partFile := by decide
  unfold Site.findImport
  simp only [listed, path, isFile_partFile]
  rfl

theorem directoryText_bundleFile :
    Path.directoryText bundleFile = "/p" := by
  decide

theorem isPackageFile_bundleFile :
    isPackageFile bundleFile = true := by
  decide

/-! ### Importing the submodule -/

namespace World

/-- The body of the package begins. -/
def bundleBegun : World :=
  (empty.note (.asked registry bundleFile none)).opened registry bundleFile

/-- The body of the submodule begins. -/
def partFound : World :=
  ((bundleBegun registry).withFound partName bundleName (.plain partFile)).marked 1 true

/-- The body of the submodule has ended. -/
def partRun : World :=
  ((partFound registry).trace "s").withGlobal 1 "X" (.int 1)

/-- The submodule is a global of the package. -/
def partImported : World :=
  ((partRun registry).marked 1 false).withGlobal 0 "s" (.module 1)

/-- The package has what it imports. -/
def bundleGot : World :=
  (partImported registry).withGlobal 0 "X" (.int 1)

end World

theorem isPart_bundleName :
    IsPart bundleName :=
  isPart_synthesizedName bundleFile

theorem bundleName_ne_empty :
    bundleName ≠ "" := by
  intro empty
  have lead := head?_synthesizedName bundleFile
  rw [show synthesizedName bundleFile = "" from empty] at lead
  cases lead

theorem partName_ne_bundleName :
    partName ≠ bundleName := by
  intro same
  refine not_isPart_below bundleName "s" ?_
  change IsPart partName
  rw [same]
  exact isPart_bundleName

theorem freshFileModule_bundleFile :
    freshFileModule bundleFile =
      ModuleObject.fresh bundleName (some bundleFile) bundleName (some "/p") := by
  unfold freshFileModule
  dsimp only
  rw [if_pos isPackageFile_bundleFile, directoryText_bundleFile]
  rfl

theorem lookup_bundleBegun
    (name : String) :
    (World.bundleBegun registry).table.lookup name = if name = bundleName then some 0 else none := by
  change (World.empty.tabulate bundleName 0).table.lookup name = _
  rw [World.lookup_tabulate]
  rfl

theorem lookup_partRun
    (name : String) :
    (World.partRun registry).table.lookup name =
      if name = partName then some 1 else if name = bundleName then some 0 else none := by
  simp only [World.partRun, World.partFound, World.withGlobal, World.marked, World.table_setObject,
    World.table_trace, World.lookup_withFound, lookup_bundleBegun]
  rfl

theorem lookup_bundleGot :
    (World.bundleGot registry).table.lookup partName = some 1 := by
  simp only [World.bundleGot, World.partImported, World.withGlobal, World.marked,
    World.table_setObject]
  exact (lookup_partRun registry partName).trans (if_pos rfl)

theorem moduleAt_bundleBegun :
    (World.bundleBegun registry).moduleAt 0 =
      ModuleObject.fresh bundleName (some bundleFile) bundleName (some "/p") := by
  have newest :=
    World.moduleAt_opened_self (World.empty.note (.asked registry bundleFile none)) registry
      bundleFile
  rw [freshFileModule_bundleFile] at newest
  exact newest

theorem run_partFile
    (loader : Loader) :
    Body.run (bundleSite registry rest) loader 1 partFile (World.partFound registry) =
      .ok () (World.partRun registry) := by
  rw [Body.run_of_program (program_partFile registry rest)]
  rfl

theorem importModule_part
    (loader : Loader) :
    importModule (bundleSite registry rest) loader partName (World.bundleBegun registry) =
      .ok 1 (World.partImported registry) := by
  have absent : (World.bundleBegun registry).table.lookup partName = none := by
    rw [lookup_bundleBegun, if_neg partName_ne_bundleName]
  have tabled : (World.bundleBegun registry).table.lookup bundleName = some 0 := by
    rw [lookup_bundleBegun, if_pos rfl]
  have searches : ((World.bundleBegun registry).moduleAt 0).searchPath = some "/p" := by
    rw [moduleAt_bundleBegun]
    rfl
  have kept : (World.partRun registry).table.lookup partName = some 1 := by
    rw [lookup_partRun, if_pos rfl]
  have above : (World.partRun registry).table.lookup bundleName = some 0 := by
    rw [lookup_partRun, if_neg partName_ne_bundleName.symm, if_pos rfl]
  exact importModule_of_submodule isPart_bundleName bundleName_ne_empty
    (by decide : '.' ∉ "s".toList) absent tabled searches (findImport_part registry rest)
    (run_partFile registry rest loader) kept above

/-- The first step of the package gets what the submodule has set. -/
theorem runStep_partStep
    (nested : Loader) :
    Body.runStep (.layer (bundleSite registry rest) nested) 0 partStep (World.bundleBegun registry) =
      .ok () (World.bundleGot registry) := by
  have package : ((World.bundleBegun registry).moduleAt 0).package = bundleName := by
    rw [moduleAt_bundleBegun]
    rfl
  have plain : ((World.partImported registry).moduleAt 1).searchPath = none := rfl
  have found : attribute? (World.partImported registry) (.module 1) "X" = some (.int 1) := rfl
  have imported :
      (Loader.layer (bundleSite registry rest) nested).importModule (bundleName ++ "." ++ "s")
          (World.bundleBegun registry) =
        .ok 1 (World.partImported registry) := by
    rw [Loader.importModule_layer]
    exact importModule_part registry rest nested
  have got :
      Body.fromImport (.layer (bundleSite registry rest) nested) 0 "s" "X"
          (World.bundleBegun registry) =
        .ok (.int 1) (World.partImported registry) :=
    Body.fromImport_of_ok package bundleName_ne_empty imported plain found
  unfold partStep
  rw [Body.runStep_fromImport_of_ok got, Run.setGlobal_apply]
  rfl

end Package

/-! ### A package that fails -/

/-- What a package does that fails after its import. -/
def lateRest : List Step :=
  [.raise "RuntimeError" "late"]

/-- The package has failed after its import. -/
def World.bundleFailed : World :=
  (World.bundleGot none).discarded none bundleFile "late"

theorem runSteps_partStep :
    Body.runSteps (.forSite (bundleSite none lateRest)) 0 [partStep] (.bundleBegun none) =
      .ok () (.bundleGot none) := by
  let site := bundleSite none lateRest
  have stepped :
      Body.runStep (.forSite site) 0 partStep (.bundleBegun none) = .ok () (.bundleGot none) :=
    runStep_partStep none lateRest (.ofDepth site 100)
  exact Body.runSteps_cons_of_ok stepped []

theorem load_lateBundle :
    ∃ thrown,
      (bundleCall none lateRest).load .empty = .error thrown .bundleFailed ∧
        thrown.isOrdinary = true := by
  let site := bundleSite none lateRest
  have ran :
      Body.run site (.forSite site) 0 bundleFile (.bundleBegun none) =
        .error (.raised "RuntimeError" "late") (.bundleGot none) := by
    rw [Body.run_of_program (program_bundleFile none lateRest)]
    exact Body.runSteps_append_of_ok runSteps_partStep lateRest
  have source := isDocument_of_isPackageFile isPackageFile_bundleFile
  have raised : (Thrown.raised "RuntimeError" "late").isOrdinary = true := rfl
  have absent : World.empty.answer? none bundleFile = none := rfl
  obtain ⟨thrown, ordinary, failed⟩ :=
    exists_requireToken_of_failed_body rfl (key?_bundleFile none lateRest) source absent ran raised
  exact ⟨thrown, failed, ordinary⟩

/-- The submodule of the failed package is in the table, and later imports get it. -/
theorem table_of_lateBundle :
    ∃ thrown after,
      (bundleCall none lateRest).load .empty = .error thrown after ∧
        isPackageFile ((bundleSite none lateRest).key bundleFile) = true ∧
          ∀ other loader, importModule other loader partName after = .ok 1 after := by
  obtain ⟨thrown, failed, ordinary⟩ := load_lateBundle
  have package : isPackageFile ((bundleSite none lateRest).key bundleFile) = true := by
    rw [key_bundleFile]
    exact isPackageFile_bundleFile
  have aims : (bundleCall none lateRest).request.aim (bundleSite none lateRest) = .path "/p" :=
    aim_bundle none lateRest
  have left :=
    table_of_failed_package aims (findFile_bundle none lateRest) package failed ordinary
  rw [key_bundleFile] at left
  have stays :=
    left.2.2.1 [partStep] lateRest (.bundleGot none) "s" 1 (program_bundleFile none lateRest)
      runSteps_partStep (lookup_bundleGot none)
  exact ⟨thrown, .bundleFailed, failed, package, stays.2⟩

/-- A package that fails does not always leave the table without a name of its own. -/
theorem lateBundle_stays :
    ¬∀ (site : Site) (request : Request) (reference file : String) (world after : World)
        (thrown : Thrown),
      request.aim site = .path reference → site.findFile reference = some file →
        isPackageFile (site.key file) = true →
          world.table.lookup (synthesizedName (site.key file)) = none →
            (∀ sub, world.table.lookup (synthesizedName (site.key file) ++ "." ++ sub) = none) →
              request.load site (.forSite site) world = .error thrown after →
                thrown.isOrdinary = true →
                  after.table.lookup (synthesizedName (site.key file)) = none ∧
                    ∀ sub,
                      after.table.lookup (synthesizedName (site.key file) ++ "." ++ sub) = none := by
  intro claim
  obtain ⟨thrown, failed, ordinary⟩ := load_lateBundle
  have package : isPackageFile ((bundleSite none lateRest).key bundleFile) = true := by
    rw [key_bundleFile]
    exact isPackageFile_bundleFile
  have gone :=
    (claim (bundleSite none lateRest) (bundleCall none lateRest).request "/p" bundleFile .empty
      .bundleFailed thrown (aim_bundle none lateRest) (findFile_bundle none lateRest) package rfl
      (fun _ => rfl) failed ordinary).2 "s"
  rw [key_bundleFile] at gone
  have stays : World.bundleFailed.table.lookup partName = some 1 := by
    unfold World.bundleFailed
    have apart : partName ≠ synthesizedName bundleFile := partName_ne_bundleName
    rw [World.lookup_discarded, if_neg apart]
    exact lookup_bundleGot none
  cases stays.symm.trans gone

end ConfigTokens.Module
