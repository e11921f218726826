import ConfigTokens.Proofs.Import.Submodule
import ConfigTokens.Proofs.Nesting.Guarded
import ConfigTokens.Proofs.Registry.Identity
/-!
# A body that begins again without end

The name that is made for a file can also be that of a module which is imported by name. When such a file
fails, its name is taken out of the table, and with it the module of that name, even while its body is under
way. The next import of the name begins the body anew, inside the one that is under way. `requireToken_twin`
counts how often that happens: as often as the limit on the nesting allows, whatever the limit is.
-/

namespace ConfigTokens

/-- A file module failed and was taken out of its registry. -/
def Event.discards
    (file : String) : Event → Bool
  | .moduleDiscarded _ other _ => other == file
  | _ => false

namespace Module

/-- The path of the file that fails. -/
def stubFile : String :=
  "/site/x.py"

/-- The name that is made for the file. -/
def twinName : String :=
  "_shortstop_x_d8241940b201"

/-- The path of the module that is imported under this name. -/
def twinFile : String :=
  "/site/_shortstop_x_d8241940b201.py"

theorem synthesizedName_stubFile :
    synthesizedName stubFile = twinName := by
  decide +kernel

/-- The body of the file. -/
def stubBody : List Step :=
  [.raise "ValueError" "x"]

/-- The body of the module, which requires the file and then itself, by its name. -/
def twinBody : List Step :=
  [.tryRequire "a" "./x", .tryRequire "b" twinName]

/-- The site with the two files. -/
def twinSite : Site where
  tree :=
    ⟨[(["site"], .directory), (["site", "x.py"], .file (.program (.steps stubBody))),
      (["site", "_shortstop_x_d8241940b201.py"], .file (.program (.steps twinBody)))]⟩
  cwd := []
  importRoot := "/site"
  registry := none
  interpreter := .usual

/-! ## Finding the two files -/

/-- The places above a file in the directory are directories. -/
theorem entry?_above_twin
    (name : String) :
    ∀ count < 2, twinSite.tree.entry? (["site", name].take count) = some .directory := by
  intro count less
  match count, less with
  | 0, _ => rfl
  | 1, _ => rfl

theorem find_twinDirectory :
    twinSite.tree.find true twinSite.cwd "/site" = .ok (["site"], .directory) := by
  have spells : FileTree.Spells "/site" ["site"] := ⟨by decide, by decide, by decide, by decide⟩
  refine FileTree.find_of_entry spells ?_ rfl (by simp)
  intro count less
  match count, less with
  | 0, _ => rfl

theorem find_stubFile :
    twinSite.tree.find true twinSite.cwd stubFile =
      .ok (["site", "x.py"], .file (.program (.steps stubBody))) := by
  have spells : FileTree.Spells stubFile ["site", "x.py"] :=
    ⟨by decide, by decide, by decide, by decide⟩
  exact FileTree.find_of_entry spells (entry?_above_twin _) rfl (by simp)

theorem find_twinFile :
    twinSite.tree.find true twinSite.cwd twinFile =
      .ok (["site", "_shortstop_x_d8241940b201.py"], .file (.program (.steps twinBody))) := by
  have spells : FileTree.Spells twinFile ["site", "_shortstop_x_d8241940b201.py"] :=
    ⟨by decide, by decide, by decide, by decide⟩
  exact FileTree.find_of_entry spells (entry?_above_twin _) rfl (by simp)

theorem findImport_twin :
    twinSite.findImport twinSite.importRoot twinName = some (.plain twinFile) := by
  have listed :
      twinSite.tree.list twinSite.cwd "/site" = ["x.py", "_shortstop_x_d8241940b201.py"] := by
    unfold FileTree.list
    rw [find_twinDirectory]
    rfl
  have root : twinSite.importRoot = "/site" := rfl
  have path : "/site" ++ "/" ++ twinName ++ ".py" = twinFile := by decide
  have plain : twinName ++ ".py" = "_shortstop_x_d8241940b201.py" := by decide
  have isFile : twinSite.isFile twinFile = true := Site.isFile_of_find find_twinFile
  unfold Site.findImport
  simp only [root, listed, path, plain, isFile]
  decide

theorem key?_stubFile :
    (Aim.ofToken twinSite "/site" "./x").key? twinSite = some stubFile := by
  have aims : Aim.ofToken twinSite "/site" "./x" = .path "/site/x" := by decide
  have spells : FileTree.Spells "/site/x" ["site", "x"] :=
    ⟨by decide, by decide, by decide, by decide⟩
  have bare : twinSite.isFile "/site/x" = false :=
    FileTree.isFile_of_absent spells (entry?_above_twin "x") rfl
  have listed : candidates "/site/x" = ["/site/x", stubFile, "/site/x.json", "/site/x/__init__.py"] := by
    decide
  have chosen : twinSite.findFile "/site/x" = some stubFile := by
    simp [Site.findFile, listed, bare, Site.isFile_of_find find_stubFile]
  rw [aims, Aim.key?_path chosen, Site.key_of_find find_stubFile (by decide)]

/-! ## How often the file fails -/

namespace World

/-- How often a file has failed. -/
def failuresOf
    (world : World)
    (file : String) : Nat :=
  world.journal.toList.countP (Event.discards file)

theorem failuresOf_note
    (world : World)
    (event : Event)
    (file : String) :
    (world.note event).failuresOf file =
      world.failuresOf file + if Event.discards file event then 1 else 0 := by
  simp [failuresOf, note, List.countP_append, List.countP_singleton]

/-- Neither the file nor the name has been loaded, or both are forgotten. -/
structure Untwinned
    (world : World) : Prop where
  stub : world.answer? none stubFile = none
  twin : world.answer? none (importKey twinName) = none
  free : world.table.lookup twinName = none

/-- The world in which the body of the module begins that is imported under the name. -/
def twinBegun
    (world : World) : World :=
  let asked := world.note (.asked none (importKey twinName) none)
  (asked.withFound twinName "" (.plain twinFile)).marked asked.objects.size true

variable
    {world : World}

theorem lookup_twinBegun :
    world.twinBegun.table.lookup twinName = some world.objects.size := by
  change ((_ : World).tabulate twinName world.objects.size).table.lookup twinName = _
  rw [lookup_tabulate, if_pos rfl]

/-- The module that is being imported under the name. -/
def twinModule : ModuleObject :=
  { ModuleObject.fresh twinName (some twinFile) "" none with initialising := true }

theorem module?_twinBegun :
    world.twinBegun.module? world.objects.size = some twinModule := by
  simp [twinBegun, withFound, marked, moduleAt, module?, setObject, push, tabulate, note, twinModule]
  exact ⟨rfl, rfl, rfl⟩

theorem failuresOf_twinBegun :
    world.twinBegun.failuresOf stubFile = world.failuresOf stubFile :=
  failuresOf_note world _ _

/-- The file fails while the body is under way, and everything is forgotten. -/
theorem Untwinned.discarded
    (start : world.Untwinned) :
    let asked := world.twinBegun.note (.asked none stubFile none)
    let failed := (asked.opened none stubFile).discarded none stubFile "x"
    failed.Untwinned ∧ failed.failuresOf stubFile = world.failuresOf stubFile + 1 := by
  intro asked failed
  have rooted : FileTree.isRooted stubFile = true := by decide
  have apart : importKey twinName ≠ stubFile := importKey_ne_of_isRooted rooted
  refine ⟨⟨?_, ?_, ?_⟩, ?_⟩
  · rw [answer?_discarded, if_pos ⟨rfl, rfl⟩]
  · rw [answer?_discarded, if_neg (fun same => apart same.2), answer?_opened,
      if_neg (fun same => apart same.2)]
    exact start.twin
  · change (((asked.opened none stubFile).untabulate (synthesizedName stubFile)).table).lookup _ = _
    rw [synthesizedName_stubFile, lookup_untabulate, if_pos rfl]
  · have begun : (asked.opened none stubFile).failuresOf stubFile = asked.failuresOf stubFile :=
      failuresOf_note _ _ _
    have still : asked.failuresOf stubFile = world.twinBegun.failuresOf stubFile :=
      failuresOf_note _ _ _
    have once : failed.failuresOf stubFile = (asked.opened none stubFile).failuresOf stubFile + 1 :=
      failuresOf_note _ _ _
    rw [once, begun, still, failuresOf_twinBegun]

end World

section

variable
    {world : World}

/-- The body of the file fails at once. -/
theorem run_stubFile
    (loader : Loader)
    (id : ObjectId)
    (world : World) :
    Body.run twinSite loader id stubFile world = .error (.raised "ValueError" "x") world := by
  rw [Body.run_of_program (Site.program_of_find find_stubFile)]
  rfl

/-- When the body has ended, the name is loaded as what the table has under it by then. -/
theorem exists_requireToken_of_run_twinFile
    (start : world.Untwinned)
    {loader : Loader}
    {middle : World}
    (ran : Body.run twinSite loader world.objects.size twinFile world.twinBegun = .ok () middle)
    {current : ObjectId}
    (tabled : middle.table.lookup twinName = some current)
    (base : String) :
    ∃ final,
      requireToken twinSite loader base twinName world = .ok (.module current) final ∧
        final.table.lookup twinName = some current ∧
          final.failuresOf stubFile = middle.failuresOf stubFile := by
  let closed := middle.marked world.objects.size false
  have bare : isFileReference twinName = false := by decide
  have dotted : dottedName twinName = twinName := by decide
  have single : IsPart twinName := by
    rw [← synthesizedName_stubFile]
    exact isPart_synthesizedName stubFile
  have absent : world.answer? none (importKey (dottedName twinName)) = none := by
    rw [dotted]
    exact start.twin
  have imported :
      importAbsolute twinSite loader (dottedName twinName)
          (world.note (.asked none (importKey (dottedName twinName)) none)) =
        .ok current closed := by
    have free (event : Event) : (world.note event).table.lookup twinName = none := start.free
    rw [dotted, importAbsolute_of_found single (by decide) (free _) findImport_twin]
    exact importTarget_of_ok ran tabled
  exact ⟨_, requireToken_of_importAbsolute bare absent imported, tabled, World.failuresOf_note _ _ _⟩

/-- Two steps of the body that end. -/
theorem run_twinFile_of_steps
    {loader : Loader}
    {id : ObjectId}
    {middle final : World}
    (first : Body.runStep loader id (.tryRequire "a" "./x") world = .ok () middle)
    (second : Body.runStep loader id (.tryRequire "b" twinName) middle = .ok () final) :
    Body.run twinSite loader id twinFile world = .ok () final := by
  rw [Body.run_of_program (Site.program_of_find find_twinFile)]
  exact (Body.runSteps_cons_of_ok first _).trans (Body.runSteps_cons_of_ok second [])

/-- Where nothing can be loaded, the body gets values in place of both modules. -/
theorem exists_run_twinFile_zero
    (world : World) :
    ∃ middle,
      Body.run twinSite (.ofDepth twinSite 0) world.objects.size twinFile world.twinBegun =
          .ok () middle ∧
        middle.table.lookup twinName = some world.objects.size ∧
          middle.failuresOf stubFile = world.failuresOf stubFile := by
  let id := world.objects.size
  have deep (token : String) (world : World) :
      Body.require (.ofDepth twinSite 0) id token world = .error .tooDeep world := rfl
  let middle := world.twinBegun.withGlobal id "a" (.str (Body.failureCode .tooDeep))
  have first :
      Body.runStep (.ofDepth twinSite 0) id (.tryRequire "a" "./x") world.twinBegun = .ok () middle :=
    Body.runStep_tryRequire_of_error (deep "./x" world.twinBegun) rfl "a"
  have second := Body.runStep_tryRequire_of_error (deep twinName middle) rfl "b"
  exact ⟨_, run_twinFile_of_steps first second, World.lookup_twinBegun, World.failuresOf_twinBegun⟩

/-- The name is loaded, and each load that is nested in it makes the file fail once more. -/
theorem exists_requireToken_twin
    (depth : Nat)
    (start : world.Untwinned)
    (base : String) :
    ∃ id final,
      requireToken twinSite (.ofDepth twinSite depth) base twinName world = .ok (.module id) final ∧
        final.table.lookup twinName = some id ∧
          final.failuresOf stubFile = world.failuresOf stubFile + depth := by
  induction depth generalizing world base with
  | zero =>
      obtain ⟨middle, ran, tabled, failures⟩ := exists_run_twinFile_zero world
      obtain ⟨final, loaded, kept, still⟩ := exists_requireToken_of_run_twinFile start ran tabled base
      exact ⟨_, final, loaded, kept, still.trans failures⟩
  | succ depth ih =>
      let loader := Loader.ofDepth twinSite (depth + 1)
      let failed := ((world.twinBegun.note (.asked none stubFile none)).opened none stubFile).discarded
        none stubFile "x"
      have resolved :
          (Aim.ofToken twinSite (Path.directoryText twinFile) "./x").key? twinSite = some stubFile := by
        have directory : Path.directoryText twinFile = "/site" := by decide
        rw [directory]
        exact key?_stubFile
      have absent : world.twinBegun.answer? none stubFile = none := start.stub
      obtain ⟨thrown, ordinary, required⟩ :=
        Body.exists_require_of_failed_body World.module?_twinBegun rfl rfl resolved (by decide) absent
          (run_stubFile (.ofDepth twinSite depth) _ _) rfl
      let begun := failed.withGlobal world.objects.size "a" (.str (Body.failureCode thrown))
      have first :
          Body.runStep loader world.objects.size (.tryRequire "a" "./x") world.twinBegun =
            .ok () begun :=
        Body.runStep_tryRequire_of_error required ordinary "a"
      -- The failure has taken the name out of the table, so the name is loaded anew.
      obtain ⟨⟨stub, twin, free⟩, once⟩ := start.discarded
      have untwinned : begun.Untwinned := ⟨stub, twin, free⟩
      obtain ⟨place, same⟩ := Body.require_apply loader world.objects.size twinName begun
      obtain ⟨id, final, loaded, tabled, failures⟩ := ih untwinned place
      have nested : loader.require place twinName begun = .ok (.module id) final := loaded
      rw [nested] at same
      let noted := final.note (.required world.objects.size place twinName (.module id))
      have second :
          Body.runStep loader world.objects.size (.tryRequire "b" twinName) begun =
            .ok () (noted.withGlobal world.objects.size "b" (.module id)) :=
        Body.runStep_tryRequire_of_ok same "b"
      obtain ⟨last, ended, kept, still⟩ :=
        exists_requireToken_of_run_twinFile start (run_twinFile_of_steps first second) tabled base
      refine ⟨id, last, ended, kept, ?_⟩
      calc last.failuresOf stubFile
        _ = noted.failuresOf stubFile := still
        _ = final.failuresOf stubFile := World.failuresOf_note _ _ _
        _ = begun.failuresOf stubFile + depth := failures
        _ = world.failuresOf stubFile + 1 + depth := congrArg (· + depth) once
        _ = world.failuresOf stubFile + (depth + 1) := by omega

end

/-! ## A module that requires its own file -/

/-- A body that requires the file of the lone module. -/
def selfBody : List Step :=
  [.require "me" "./a"]

/-- The site whose only module requires its own file. -/
def selfSite : Site :=
  loneSite selfBody

namespace World

/-- The module is imported by its name, and its body begins. -/
def selfFound : World :=
  ((empty.note (.asked none (importKey "a") none)).withFound "a" "" (.plain loneFile)).marked 0 true

/-- The body begins once more, for the file. -/
def selfBegun : World :=
  (selfFound.note (.asked none loneFile none)).opened none loneFile

/-- The body for the file has got its own module. -/
def selfClosed : World :=
  ((selfBegun.note (.asked none loneFile (some (.module 1)))).note
    (.required 1 "/site" "./a" (.module 1))).withGlobal 1 "me" (.module 1)

/-- The body for the name has got the module of the file. -/
def selfReturned : World :=
  ((selfClosed.note (.bodyEnded none loneFile (synthesizedName loneFile) 1)).note
    (.required 0 "/site" "./a" (.module 1))).withGlobal 0 "me" (.module 1)

/-- Both modules have been loaded. -/
def selfLoaded : World :=
  (selfReturned.marked 0 false).withImport none "a" "a" 0

end World

theorem key?_selfToken :
    (Aim.ofToken selfSite (Path.directoryText loneFile) "./a").key? selfSite = some loneFile := by
  have aims : Aim.ofToken selfSite (Path.directoryText loneFile) "./a" = .path "/site/a" := by decide
  have spells : FileTree.Spells "/site/a" ["site", "a"] :=
    ⟨by decide, by decide, by decide, by decide⟩
  have above : ∀ count < 2, selfSite.tree.entry? (["site", "a"].take count) = some .directory := by
    intro count less
    match count, less with
    | 0, _ => rfl
    | 1, _ => rfl
  have bare : selfSite.isFile "/site/a" = false := FileTree.isFile_of_absent spells above rfl
  have chosen : selfSite.findFile "/site/a" = some loneFile := by
    have listed :
        candidates "/site/a" = ["/site/a", loneFile, "/site/a.json", "/site/a/__init__.py"] := by
      decide
    have isFile : selfSite.isFile loneFile = true := isFile_loneFile _
    simp [Site.findFile, listed, bare, isFile]
  have key : selfSite.key loneFile = loneFile := key_loneFile _
  rw [aims, Aim.key?_path chosen, key]

theorem runSteps_selfBody
    {loader : Loader}
    {self : ObjectId}
    {begun returned : World}
    (required : Body.require loader self "./a" begun = .ok (.module 1) returned) :
    Body.runSteps loader self selfBody begun = .ok () (returned.withGlobal self "me" (.module 1)) :=
  Body.runSteps_cons_of_ok (Body.runStep_require_of_ok required "me") []

/-- The body that the import runs has the body of the file begin. -/
theorem load_selfName :
    requireToken selfSite (.forSite selfSite) "/" "a" .empty = .ok (.module 0) .selfLoaded := by
  have directory : Path.directoryText loneFile = "/site" := by decide
  have inner : Body.run selfSite (.ofDepth selfSite 100) 1 loneFile .selfBegun = .ok () .selfClosed := by
    have module : World.selfBegun.module? 1 = some (freshFileModule loneFile) := rfl
    have known : World.selfBegun.answer? none loneFile = some (.module 1) := rfl
    have required :=
      Body.require_of_answer? module rfl key?_selfToken known (.ofDepth selfSite 99)
    rw [directory] at required
    rw [selfSite, run_loneFile]
    exact runSteps_selfBody required
  have outer : Body.run selfSite (.forSite selfSite) 0 loneFile .selfFound = .ok () .selfReturned := by
    have absent : World.selfFound.answer? none loneFile = none := rfl
    have module :
        World.selfFound.module? 0 =
          some { ModuleObject.fresh "a" (some loneFile) "" none with initialising := true } := rfl
    have required := Body.require_of_body module rfl rfl key?_selfToken (by decide) absent inner
    rw [directory] at required
    rw [selfSite, run_loneFile]
    exact runSteps_selfBody required
  have kept : World.selfReturned.table.lookup "a" = some 0 := by decide
  let asked := World.empty.note (.asked none (importKey "a") none)
  have imported :
      importAbsolute selfSite (.forSite selfSite) "a" asked =
        .ok 0 (World.selfReturned.marked 0 false) :=
    (importAbsolute_lone selfBody _ asked rfl).trans (importTarget_of_ok outer kept)
  exact requireToken_of_importAbsolute (by decide) rfl imported

end Module

end ConfigTokens
