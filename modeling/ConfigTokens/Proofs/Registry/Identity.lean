import ConfigTokens.Proofs.FileTree.Descent
import ConfigTokens.Proofs.Registry.Calls
/-!
# One identity for each reference

Once a registry has an answer for a key, it has that answer forever: whatever is called, from whatever
site, no load of the key begins again, every load that asks for the key gets the answer, and a request
for it ends with the answer at once. A file has its answer from the moment at which it was loaded to its
end, be it in a nested load; a name has it from the end of the first call that imported it.
-/

namespace ConfigTokens.Module

namespace World

/--
In every run from a world on, all loads, nested ones included, respect the answer of a registry for a
key, and every request for the key is answered with it afterwards.
-/
def AnswersForever
    (world : World)
    (registry : RegistryName)
    (key : String)
    (answer : Export) : Prop :=
  ∀ calls : List Call,
    let final := world.afterCalls calls
    (∀ event ∈ final.eventsSince world.journal.size, event.Respects registry key answer) ∧
      ∀ (site : Site) (loader : Loader) (request : Request),
        site.registry = registry → (request.aim site).key? site = some key →
          request.load site loader final =
            .ok answer (final.note (.asked registry key (some answer)))

/-- An answer is an answer forever. -/
theorem answersForever_of_answer?
    {world : World}
    {registry : RegistryName}
    {key : String}
    {answer : Export}
    (known : world.answer? registry key = some answer) :
    world.AnswersForever registry key answer := by
  intro calls final
  have history : History world (final.eventsSince world.journal.size) final :=
    world.afterCalls_history calls
  constructor
  · exact history.respects known
  · rintro site loader request rfl resolved
    exact Request.load_of_answer? resolved (history.answer?_kept known)

theorem apart_of_registry_eq_nil
    {world : World}
    {registry : RegistryName}
    (empty : world.registry registry = []) :
    world.Apart registry := by
  have absent (key : String) : world.answer? registry key = none := by
    simp [answer?, empty]
  constructor
  · intro file answer rooted known
    rw [absent] at known
    cases known
  · intro file other answer given rooted also known
    rw [absent] at known
    cases known

/-- A file that was loaded to its end is answered with its export forever, from that event on. -/
theorem History.answersForever_of_completed
    {start final : World}
    {earlier later : List Event}
    {event : Event}
    (history : History start (earlier ++ event :: later) final)
    {registry : RegistryName}
    {file : String}
    {answer : Export}
    (completed : event.completed? = some (registry, file, answer)) :
    (∀ next ∈ later, next.Respects registry file answer) ∧
      final.AnswersForever registry file answer := by
  have left := Event.left?_of_completed? completed
  constructor
  · intro next member
    have ordered := (List.pairwise_append.mp history.settled).2.1
    exact List.rel_of_pairwise_cons ordered member registry file answer left
  · have member : event ∈ earlier ++ event :: later :=
      List.mem_append_right earlier List.mem_cons_self
    exact answersForever_of_answer? (history.answer?_of_left member left).2

/-- A call whose load succeeds gets an answer that its registry gives forever. -/
theorem answersForever_of_load
    {call : Call}
    {world middle : World}
    {answer : Export}
    (ended : call.load world = .ok answer middle) :
    ∃ key, call.key? = some key ∧
      (call.after world).AnswersForever call.site.registry key answer := by
  rcases Call.answer?_of_load ended with ⟨key, resolved, known⟩
  exact ⟨key, resolved, answersForever_of_answer? known⟩

/--
In a run from an empty registry every reference has one identity. A file that was loaded to its end is
answered with its export from that event on. A call whose load succeeded, be it of a file or of a name,
fixes the answer for its key. Files with different paths have different exports.
-/
theorem one_identity
    {registry : RegistryName}
    {start : World}
    (empty : start.registry registry = [])
    (calls : List Call) :
    let final := start.afterCalls calls
    (∀ earlier event later file answer,
      final.eventsSince start.journal.size = earlier ++ event :: later →
        event.completed? = some (registry, file, answer) →
          (∀ next ∈ later, next.Respects registry file answer) ∧
            final.AnswersForever registry file answer) ∧
    (∀ (call : Call) answer middle,
      call.site.registry = registry → call.load final = .ok answer middle →
        ∃ key, call.key? = some key ∧ (call.after final).AnswersForever registry key answer) ∧
    ∀ file other answer given,
      FileTree.isRooted file = true → FileTree.isRooted other = true →
        final.answer? registry file = some answer → final.answer? registry other = some given →
          answer.id = given.id → file = other := by
  intro final
  have history : History start (final.eventsSince start.journal.size) final :=
    start.afterCalls_history calls
  refine ⟨?_, ?_, (history.apart (apart_of_registry_eq_nil empty)).distinct⟩
  · intro earlier event later file answer events completed
    rw [events] at history
    exact history.answersForever_of_completed completed
  · rintro call answer middle rfl ended
    exact answersForever_of_load ended

end World

/-!
## A site with a single module

The directory of the site holds one file, whose body is left open. The file can be loaded by its path
and imported by its name, and each of the two runs the body.
-/

section LoneModule

/-- The path of the module. -/
def loneFile : String :=
  "/site/a.py"

/-- The site with the module. -/
def loneSite
    (body : List Step) : Site where
  tree := ⟨[(["site"], .directory), (["site", "a.py"], .file (.program (.steps body)))]⟩
  cwd := []
  importRoot := "/site"
  registry := none
  interpreter := .usual

variable
    (body : List Step)

/-! ### Finding the module -/

theorem entry?_loneDirectory :
    (loneSite body).tree.entry? ["site"] = some .directory :=
  rfl

theorem entry?_loneFile :
    (loneSite body).tree.entry? ["site", "a.py"] = some (.file (.program (.steps body))) :=
  rfl

theorem find_loneDirectory :
    (loneSite body).tree.find true (loneSite body).cwd "/site" = .ok (["site"], .directory) := by
  have spells : FileTree.Spells "/site" ["site"] := ⟨by decide, by decide, by decide, by decide⟩
  refine FileTree.find_of_entry spells ?_ (entry?_loneDirectory body) (by simp)
  intro count less
  match count, less with
  | 0, _ => rfl

theorem find_loneFile :
    (loneSite body).tree.find true (loneSite body).cwd loneFile =
      .ok (["site", "a.py"], .file (.program (.steps body))) := by
  have spells : FileTree.Spells loneFile ["site", "a.py"] :=
    ⟨by decide, by decide, by decide, by decide⟩
  refine FileTree.find_of_entry spells ?_ (entry?_loneFile body) (by simp)
  intro count less
  match count, less with
  | 0, _ => rfl
  | 1, _ => rfl

theorem isFile_loneFile :
    (loneSite body).isFile loneFile = true :=
  Site.isFile_of_find (find_loneFile body)

theorem findFile_loneFile :
    (loneSite body).findFile loneFile = some loneFile :=
  List.find?_cons_of_pos (isFile_loneFile body)

theorem key_loneFile :
    (loneSite body).key loneFile = loneFile :=
  Site.key_of_find (find_loneFile body) (by decide)

theorem program_loneFile :
    (loneSite body).program loneFile = .ok (.steps body) :=
  Site.program_of_find (find_loneFile body)

theorem findImport_lone :
    (loneSite body).findImport "/site" "a" = some (.plain loneFile) := by
  have listed : (loneSite body).tree.list (loneSite body).cwd "/site" = ["a.py"] := by
    unfold FileTree.list
    rw [find_loneDirectory]
    rfl
  have path : "/site" ++ "/" ++ "a" ++ ".py" = loneFile := by decide
  unfold Site.findImport
  simp only [listed, path, isFile_loneFile]
  rfl

/-! ### Loading the module -/

/-- A load of the file runs its body. -/
theorem run_loneFile
    (loader : Loader)
    (id : ObjectId) :
    Body.run (loneSite body) loader id loneFile = Body.runSteps loader id body := by
  unfold Body.run
  rw [program_loneFile]

/-- The call that loads the file by its path. -/
def loneCall : Call :=
  ⟨loneSite body, .direct (.path loneFile)⟩

theorem key?_loneFile :
    (Aim.path loneFile).key? (loneSite body) = some loneFile := by
  rw [Aim.key?_path (findFile_loneFile body), key_loneFile]

theorem load_loneCall
    (world : World)
    (absent : world.answer? none loneFile = none) :
    (loneCall body).load world =
      loadSource (loneSite body) (Loader.forSite (loneSite body)) loneFile
        (world.note (.asked none loneFile none)) := by
  change (Aim.path loneFile).load (loneSite body) (Loader.forSite (loneSite body)) world = _
  rw [Aim.load_of_key? (key?_loneFile body)]
  exact loadKey_of_absent absent _

/-- A file without a body is loaded to its end by the first call. -/
theorem after_loneCall_nil :
    (loneCall []).after World.empty =
      ((World.empty.note (.asked none loneFile none)).opened none loneFile).note
        (.bodyEnded none loneFile (synthesizedName loneFile) 0) := by
  have ended :
      (loneCall []).load World.empty =
        .ok (.module 0)
          (((World.empty.note (.asked none loneFile none)).opened none loneFile).note
            (.bodyEnded none loneFile (synthesizedName loneFile) 0)) := by
    rw [load_loneCall [] World.empty rfl, loadSource_apply, run_loneFile]
    rfl
  rw [Call.after_of_load_eq_ok ended]
  rfl

/-- An import of the name runs the body of a fresh module. -/
theorem importAbsolute_lone
    (loader : Loader)
    (world : World)
    (absent : world.table.lookup "a" = none) :
    importAbsolute (loneSite body) loader "a" world =
      importTarget (loneSite body) loader "a" "" (.plain loneFile) world := by
  change importParts (loneSite body) loader ["a"] world = _
  have untabled : Run.tabled? "a" world = .ok none world := by
    change EStateM.Result.ok (world.table.lookup "a") world = _
    rw [absent]
  have last : nameOfParts ["a"] = "a" := by decide
  unfold importParts
  dsimp only
  rw [last, Run.bind_of_ok untabled]
  change importIn (loneSite body) loader "/site" "a" "a" "" world = _
  unfold importIn
  rw [findImport_lone]

end LoneModule

namespace World

/-- A file without a body, loaded by the first call, has its module as the answer forever. -/
theorem one_identity_loneCall :
    empty.registry none = [] ∧
      (empty.afterCalls [loneCall []]).AnswersForever none loneFile (.module 0) := by
  have events :
      (empty.afterCalls [loneCall []]).eventsSince empty.journal.size =
        [.asked none loneFile none, .bodyStarted none loneFile 0] ++
          .bodyEnded none loneFile (synthesizedName loneFile) 0 :: [] := by
    change ((loneCall []).after empty).eventsSince 0 = _
    rw [after_loneCall_nil]
    rfl
  have nothing : empty.registry none = [] := rfl
  have identity := one_identity nothing [loneCall []]
  exact ⟨nothing, (identity.1 _ _ _ _ _ events rfl).2⟩

end World

end ConfigTokens.Module
