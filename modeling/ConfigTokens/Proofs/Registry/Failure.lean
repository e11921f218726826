import ConfigTokens.Proofs.Registry.Identity
/-!
# What a failed load leaves behind

A file module that fails is taken out of its registry, unless the body was ended by a request: then the
module stays as far as it has come, and later loads are answered with it. An import by name that fails
leaves an entry exactly if a load of the same name, started while the import was under way, came to its
end: the table of modules answered it with the module as far as it had come.
-/

namespace ConfigTokens.Module

variable
    {site : Site}
    {depth : Nat}

/-! ## Files -/

/-- What a load of a file leaves that throws. -/
theorem answer?_of_loadFile_eq_error
    {file : String}
    {loader : Loader}
    (loads : loader.Keeps (.history False))
    {world after : World}
    {thrown : Thrown}
    (absent : world.answer? site.registry file = none)
    (failed : loadFile site loader file world = .error thrown after) :
    after.answer? site.registry file =
      if thrown.isOrdinary then none else some (.module world.objects.size) := by
  unfold loadFile at failed
  split at failed
  case isTrue =>
      cases read : site.document file with
      | ok content =>
          rw [loadDocument_of_ok read] at failed
          cases failed
      | error cause =>
          rcases loadDocument_of_error read with ⟨reported, ordinary, ended⟩
          rw [ended] at failed
          cases failed
          rw [if_pos ordinary]
          exact absent
  case isFalse =>
      rw [loadSource_apply] at failed
      split at failed
      case h_1 => cases failed
      case h_2 cause middle body =>
          split at failed
          case isTrue ordinary =>
              cases failed
              rw [World.answer?_discarded, if_pos ⟨rfl, rfl⟩]
              rfl
          case isFalse request =>
              cases failed
              have admits : (Promise.history False).Admits site :=
                Promise.history_admits False.elim
              have kept := Body.run_keeps admits loads.serves_history world.objects.size file
              rcases kept.moves_of_error body with ⟨events, history, -⟩
              -- Nothing that the body loads takes its own entry away.
              rw [if_neg request]
              exact history.answer?_of_opened

/--
A load of a file that throws, whatever it throws and however deep it is nested, leaves the file in the
registry exactly if a request to end was thrown. The file is then answered forever with the module as
far as it has come.
-/
theorem answer?_of_failed_file
    {request : Request}
    {reference file : String}
    (aims : request.aim site = .path reference)
    (chosen : site.findFile reference = some file)
    {world after : World}
    {thrown : Thrown}
    (absent : world.answer? site.registry (site.key file) = none)
    (failed : request.load site (Loader.ofDepth site depth) world = .error thrown after) :
    after.answer? site.registry (site.key file) =
        (if thrown.isOrdinary then none else some (.module world.objects.size)) ∧
      (thrown.isOrdinary = false →
        after.AnswersForever site.registry (site.key file) (.module world.objects.size)) := by
  have loads : (Loader.ofDepth site depth).Keeps (.history False) :=
    Loader.ofDepth_keeps False.elim depth
  have resolved : (request.aim site).key? site = some (site.key file) := by
    rw [aims]
    exact Option.map_eq_some_iff.mpr ⟨file, chosen, rfl⟩
  rcases (request.load_rewords site _).cause failed with ⟨cause, ended, ordinary⟩
  rw [Aim.load_of_key? resolved, loadKey_of_absent absent, aims] at ended
  have left :
      after.answer? site.registry (site.key file) =
        if thrown.isOrdinary then none else some (.module world.objects.size) := by
    rw [← ordinary]
    let noted := world.note (.asked site.registry (site.key file) none)
    have still : noted.answer? site.registry (site.key file) = none := absent_of_note absent
    have loaded := answer?_of_loadFile_eq_error loads still ended
    exact loaded
  refine ⟨left, fun asked => ?_⟩
  rw [if_neg (ne_true_of_eq_false asked)] at left
  exact World.answersForever_of_answer? left

/-- A body that sets a global and is then ended by a request. -/
def stoppedBody : List Step :=
  [.assign "PARTIAL" (.bool true), .raise "SystemExit" "stop"]

theorem load_stoppedBody :
    ∃ after,
      (loneCall stoppedBody).load .empty = .error (.raised "SystemExit" "stop") after ∧
        after.answer? none loneFile = some (.module 0) := by
  rw [load_loneCall stoppedBody .empty rfl, loadSource_apply, run_loneFile]
  exact ⟨_, rfl, rfl⟩

/-- The module of the stopped body is the answer of its registry forever. -/
theorem answer?_of_stoppedBody :
    ∃ after,
      (loneCall stoppedBody).load .empty = .error (.raised "SystemExit" "stop") after ∧
        after.answer? none ((loneSite stoppedBody).key loneFile) = some (.module 0) ∧
          after.AnswersForever none ((loneSite stoppedBody).key loneFile) (.module 0) := by
  rcases load_stoppedBody with ⟨after, failed, -⟩
  have left := answer?_of_failed_file rfl (findFile_loneFile stoppedBody) rfl failed
  exact ⟨after, failed, left.1, left.2 rfl⟩

/-- A load of a file that throws does not always take the file out of the registry. -/
theorem stoppedBody_stays :
    ¬∀ (site : Site) (request : Request) (reference file : String) (world after : World)
        (thrown : Thrown),
      request.aim site = .path reference → site.findFile reference = some file →
        world.answer? site.registry (site.key file) = none →
          request.load site (Loader.forSite site) world = .error thrown after →
            after.answer? site.registry (site.key file) = none := by
  intro claim
  rcases load_stoppedBody with ⟨after, failed, known⟩
  have absent :=
    claim (loneSite stoppedBody) (loneCall stoppedBody).request loneFile loneFile .empty after _ rfl
      (findFile_loneFile stoppedBody) rfl failed
  rw [key_loneFile] at absent
  cases known.symm.trans absent

/-! ## Imports by name -/

/--
A request that throws, however deep it is nested, leaves an entry for a name that had none exactly if a
load of that name came to its end in the meantime. What the registry then has for the name it answers
forever.
-/
theorem isSome_answer?_of_failed_request
    {request : Request}
    {name : String}
    {world after : World}
    {thrown : Thrown}
    (absent : world.answer? site.registry (importKey name) = none)
    (failed : request.load site (Loader.ofDepth site depth) world = .error thrown after) :
    ((after.answer? site.registry (importKey name)).isSome = true ↔
        ∃ specifier,
          .imported site.registry specifier name ∈ after.eventsSince world.journal.size) ∧
      ∀ answer, after.answer? site.registry (importKey name) = some answer →
        after.AnswersForever site.registry (importKey name) answer := by
  have loads : (Loader.ofDepth site depth).Keeps (.history False) :=
    Loader.ofDepth_keeps False.elim depth
  have kept : (request.load site (Loader.ofDepth site depth)).Keeps (.history False) :=
    request.load_keeps False.elim loads
  rcases kept.moves_of_error failed with ⟨events, history, -⟩
  constructor
  · rw [history.isSome_answer?_importKey, history.eventsSince_eq, absent]
    simp
  · intro answer known
    exact World.answersForever_of_answer? known

/-- A body that requires its own module by name and fails after that. -/
def lateBody : List Step :=
  [.require "me" "a", .raise "RuntimeError" "late"]

/-- The call that imports the module by its name. -/
def importCall
    (body : List Step) : Call :=
  ⟨loneSite body, .direct (.name "a")⟩

theorem import_lateBody :
    ∃ after,
      importAbsolute (loneSite lateBody) (Loader.forSite (loneSite lateBody)) "a"
          (World.empty.note (.asked none (importKey "a") none)) =
        .error (.raised "RuntimeError" "late") after ∧
      after.answer? none (importKey "a") = some (.module 0) := by
  let loader := Loader.forSite (loneSite lateBody)
  have entered :
      importTarget (loneSite lateBody) loader "a" "" (.plain loneFile) = (do
        let id ← Run.allocate (.module (ModuleObject.fresh "a" (some loneFile) "" none))
        Run.tabulate "a" id
        runImported (loneSite lateBody) loader "a" id loneFile
        Run.tabledOf "a") := rfl
  rw [importAbsolute_lone lateBody _ _ rfl, entered]
  -- The table answers the nested import, so the rest is a run without files.
  simp only [runImported, run_loneFile]
  exact ⟨_, rfl, rfl⟩

theorem load_lateBody :
    ∃ thrown after,
      (importCall lateBody).load .empty = .error thrown after ∧
        after.answer? none (importKey "a") = some (.module 0) := by
  rcases import_lateBody with ⟨middle, failed, known⟩
  let asked := World.empty.note (.asked none (importKey "a") none)
  refine ⟨loadError "a" (.raised "RuntimeError" "late"),
    middle.note (.importFailed none "a" "late"), ?_, known⟩
  change loadImport (loneSite lateBody) (Loader.forSite (loneSite lateBody)) "a" "a" asked = _
  rw [loadImport_apply, failed]
  rfl

/-- The failed import has left an entry, and a load of the name came to its end in the meantime. -/
theorem isSome_answer?_of_lateBody :
    ∃ thrown after,
      (importCall lateBody).load .empty = .error thrown after ∧
        ∃ specifier, .imported none specifier "a" ∈ after.eventsSince World.empty.journal.size := by
  rcases load_lateBody with ⟨thrown, after, failed, known⟩
  have absent : World.empty.answer? none (importKey "a") = none := rfl
  have left := isSome_answer?_of_failed_request absent failed
  exact ⟨thrown, after, failed, left.1.mp (Option.isSome_of_eq_some known)⟩

/-- An import by name that throws does not always leave the registry without an entry. -/
theorem lateBody_stays :
    ¬∀ (site : Site) (request : Request) (specifier : String) (world after : World)
        (thrown : Thrown),
      request.aim site = .name specifier →
        world.answer? site.registry (importKey (dottedName specifier)) = none →
          request.load site (Loader.forSite site) world = .error thrown after →
            after.answer? site.registry (importKey (dottedName specifier)) = none := by
  intro claim
  rcases load_lateBody with ⟨thrown, after, failed, known⟩
  have absent :=
    claim (loneSite lateBody) (importCall lateBody).request "a" .empty after thrown rfl rfl failed
  cases known.symm.trans absent

end ConfigTokens.Module
