import ConfigTokens.Proofs.Failure.DeepData
import ConfigTokens.Proofs.Invocation.Execute
import ConfigTokens.Proofs.Registry.Requirement
/-!
# What a failed load throws

A load that fails has either found no file, or something was raised in its work: by the body of its file,
in reading its data, or in the import of its name. What was raised becomes the cause of the error that is
reported, unless it is a request to end. Reading data is the exception: that it is nested too deep is not
among the failures that are caught there, and it is thrown as it is.
-/

namespace ConfigTokens

/-! ## Failures in another context -/

namespace Thrown

/-- A failure is another one, but for the context of an error of a load. -/
structure SameBeside
    (thrown first : Thrown) : Prop where
  cause : thrown.cause? = first.cause?
  error : thrown.reported?.map Prod.fst = first.reported?.map Prod.fst
  other : ¬first.IsLoadError → thrown = first

/-- What is no error of a handler is no error of a load. -/
theorem not_isLoadError_of_reported?
    {thrown : Thrown}
    (plain : thrown.reported? = none) :
    ¬thrown.IsLoadError := by
  rintro ⟨error, context, reported, -⟩
  cases plain.symm.trans reported

/-- The code of an error of a handler. -/
def code?
    (thrown : Thrown) : Option String :=
  (thrown.reported?.map Prod.fst).map HandlerError.code

namespace SameBeside

variable
    {thrown first second : Thrown}

theorem refl
    (thrown : Thrown) :
    thrown.SameBeside thrown :=
  ⟨rfl, rfl, fun _ => rfl⟩

theorem isLoadError_iff
    (same : thrown.SameBeside first) :
    thrown.IsLoadError ↔ first.IsLoadError := by
  have named (thrown : Thrown) :
      thrown.IsLoadError ↔
        ∃ error, thrown.reported?.map Prod.fst = some error ∧ error.isLoad = true := by
    constructor
    · rintro ⟨error, context, reported, load⟩
      exact ⟨error, by rw [reported]; rfl, load⟩
    · rintro ⟨error, reported, load⟩
      obtain ⟨⟨_, context⟩, both, rfl⟩ := Option.map_eq_some_iff.mp reported
      exact ⟨_, context, both, load⟩
  rw [named, named, same.error]

theorem trans
    (same : thrown.SameBeside first)
    (further : first.SameBeside second) :
    thrown.SameBeside second where
  cause := same.cause.trans further.cause
  error := same.error.trans further.error
  other apart := by
    rw [same.other (mt further.isLoadError_iff.mp apart), further.other apart]

end SameBeside

/-- An error of a load is the same in the changed context. -/
theorem reported?_relabel
    {thrown : Thrown}
    {error : HandlerError}
    {context : Context}
    (reported : thrown.reported? = some (error, context))
    (load : error.isLoad = true)
    (change : Context → Context) :
    (thrown.relabel change).reported? = some (error, change context) := by
  cases thrown with
  | reported given own =>
      cases reported
      simp [relabel, reported?, load]
  | chained given own cause =>
      cases reported
      simp [relabel, reported?, load]
  | _ => cases reported

theorem sameBeside_relabel
    (thrown : Thrown)
    (change : Context → Context) :
    (thrown.relabel change).SameBeside thrown := by
  cases thrown with
  | reported error context =>
      unfold relabel
      dsimp only
      split
      case isTrue load =>
          exact ⟨rfl, rfl, fun apart => absurd ⟨error, context, rfl, load⟩ apart⟩
      case isFalse => exact .refl _
  | chained error context cause =>
      unfold relabel
      dsimp only
      split
      case isTrue load =>
          exact ⟨rfl, rfl, fun apart => absurd ⟨error, context, rfl, load⟩ apart⟩
      case isFalse => exact .refl _
  | _ => exact .refl _

end Thrown

namespace Module

variable
    {site : Site}
    {loader : Loader}
    {world after : World}
    {thrown : Thrown}

/-- A request that fails throws what the load that it aims at throws, but for the context. -/
theorem Request.exists_load_of_error
    {request : Request}
    (failed : request.load site loader world = .error thrown after) :
    ∃ first, (request.aim site).load site loader world = .error first after ∧
      thrown.SameBeside first := by
  have required
      {base token : String} {thrown : Thrown}
      (failed : requireToken site loader base token world = .error thrown after) :
      ∃ first, (Aim.ofToken site base token).load site loader world = .error first after ∧
        thrown.SameBeside first := by
    rcases Run.tryCatch_eq_error.mp failed with ⟨first, middle, early, handled⟩
    cases handled
    refine ⟨first, ?_, first.sameBeside_relabel _⟩
    unfold Aim.ofToken
    split
    case isTrue reference =>
        rw [if_pos reference] at early
        exact early
    case isFalse reference =>
        rw [if_neg reference] at early
        exact early
  cases request with
  | require base token => exact required failed
  | execute base token =>
      rcases Run.tryCatch_eq_error.mp failed with ⟨second, middle, early, handled⟩
      cases handled
      rcases required early with ⟨first, ended, same⟩
      exact ⟨first, ended, (second.sameBeside_relabel _).trans same⟩
  | direct aim => exact ⟨thrown, failed, .refl thrown⟩

/-- A token for a file of source whose body fails gets an error of the load, with the failure as its cause. -/
theorem exists_requireToken_of_cause
    {base token file : String}
    {middle : World}
    {cause : Thrown}
    (reference : isFileReference token = true)
    (resolved : (Aim.ofToken site base token).key? site = some file)
    (source : isDocument file = false)
    (absent : world.answer? site.registry file = none)
    (failed :
      Body.run site loader world.objects.size file
          ((world.note (.asked site.registry file none)).opened site.registry file) =
        .error cause middle)
    (ordinary : cause.isOrdinary = true) :
    ∃ thrown,
      requireToken site loader base token world =
          .error thrown (middle.discarded site.registry file cause.message) ∧
        thrown.isOrdinary = true ∧ thrown.IsLoadError ∧ thrown.cause? = some cause := by
  obtain ⟨thrown, kept, reported⟩ :=
    exists_requireToken_of_failed_body reference resolved source absent failed ordinary
  have loaded :
      (Request.require base token).load site loader world =
        .error thrown (middle.discarded site.registry file cause.message) :=
    reported
  obtain ⟨first, ended, same⟩ := Request.exists_load_of_error loaded
  cases (Aim.load_of_failed_body reference resolved source absent failed ordinary).symm.trans ended
  exact ⟨thrown, reported, kept, same.isLoadError_iff.mpr ⟨_, _, rfl, rfl⟩, same.cause⟩

/-! ## What is raised in the work of a load -/

/-- That data cannot be read is an ordinary failure, and no error of a handler. -/
theorem Site.plain_of_document
    {file : String}
    {cause : Thrown}
    (unread : site.document file = .error cause) :
    cause.isOrdinary = true ∧ cause.reported? = none := by
  unfold document at unread
  split at unread
  case h_1 =>
      cases unread
      exact ⟨rfl, rfl⟩
  case h_2 =>
      cases unread
      exact ⟨rfl, rfl⟩
  case h_3 =>
      split at unread
      case h_1 =>
          cases unread
          exact ⟨rfl, rfl⟩
      case h_2 text _ =>
          cases read : Json.read (String.ofList (Text.unifyLineEnds text.toList)) with
          | ok content =>
              rw [read] at unread
              cases unread
          | error fault =>
              rw [read] at unread
              cases unread
              exact ⟨rfl, rfl⟩

/-- Data that cannot be read is reported, unless it is nested too deep. -/
theorem error_of_loadDocument
    {file : String}
    {cause : Thrown}
    (unread : site.document file = .error cause)
    (failed : loadDocument site file world = .error thrown after) :
    (∃ container, site.document file = .error (.document (.tooDeep container))) ∧ thrown = cause ∨
      (∀ container, cause ≠ .document (.tooDeep container)) ∧ thrown = documentError file cause := by
  unfold loadDocument at failed
  rw [unread] at failed
  dsimp only at failed
  split at failed
  case h_1 container =>
      cases failed
      exact .inl ⟨⟨container, unread⟩, rfl⟩
  case h_2 shallow =>
      cases failed
      exact .inr ⟨shallow, rfl⟩

namespace Aim

/-- The path of an aim stands for no file. -/
def Misses
    (site : Site) : Aim → Prop
  | .path reference => ∀ candidate ∈ candidates reference, site.isFile candidate = false
  | .name _ => False

/-- An aim is a file with data that is nested deeper than a reader accepts. -/
def IsTooDeep
    (site : Site) : Aim → Prop
  | .path reference =>
    ∃ file container, site.findFile reference = some file ∧ isDocument (site.key file) = true ∧
      site.document (site.key file) = .error (.document (.tooDeep container))
  | .name _ => False

/-- What is raised in the work of a load that has no answer yet. -/
inductive Raises
    (site : Site)
    (loader : Loader)
    (world : World) : Aim → Thrown → Prop
  | body {reference file : String} {cause : Thrown} {middle : World} :
    site.findFile reference = some file → isDocument (site.key file) = false →
      world.answer? site.registry (site.key file) = none →
        Body.run site loader world.objects.size (site.key file)
            ((world.note (.asked site.registry (site.key file) none)).opened site.registry
              (site.key file)) =
          .error cause middle →
            Raises site loader world (.path reference) cause
  | data {reference file : String} {cause : Thrown} :
    site.findFile reference = some file → isDocument (site.key file) = true →
      world.answer? site.registry (site.key file) = none →
        site.document (site.key file) = .error cause →
          Raises site loader world (.path reference) cause
  | importing {specifier : String} {cause : Thrown} {middle : World} :
    world.answer? site.registry (importKey (dottedName specifier)) = none →
      importAbsolute site loader (dottedName specifier)
          (world.note (.asked site.registry (importKey (dottedName specifier)) none)) =
        .error cause middle →
          Raises site loader world (.name specifier) cause

/-- The error of a load for its cause. -/
def errorOf
    (site : Site)
    (cause : Thrown) : Aim → Thrown
  | .path reference =>
    let file := ((path reference).key? site).getD reference
    if isDocument file then documentError file cause else loadError file cause
  | .name specifier => loadError specifier cause

/-- The error of a path that stands for no file. -/
def missingError
    (reference : String) : Thrown :=
  .reported (.notFound reference)
    (.withDetails (.object [("candidates_tried", .array ((candidates reference).map Json.str))]))

/-- What a load throws when it fails. -/
inductive FailsWith
    (site : Site)
    (loader : Loader)
    (world : World)
    (aim : Aim) : Thrown → Prop
  | missing {reference : String} :
    aim = .path reference → aim.Misses site → FailsWith site loader world aim (missingError reference)
  | reported {cause : Thrown} :
    ¬aim.Misses site → aim.Raises site loader world cause → cause.isOrdinary = true →
      ¬aim.IsTooDeep site → FailsWith site loader world aim (aim.errorOf site cause)
  | passed {cause : Thrown} :
    ¬aim.Misses site → aim.Raises site loader world cause →
      cause.isOrdinary = false ∨ aim.IsTooDeep site → FailsWith site loader world aim cause

theorem misses_path_iff
    {reference : String} :
    (path reference).Misses site ↔ site.findFile reference = none := by
  unfold Misses Site.findFile
  simp [List.find?_eq_none]

theorem isTooDeep_path_iff
    {reference file : String}
    (chosen : site.findFile reference = some file) :
    (path reference).IsTooDeep site ↔
      isDocument (site.key file) = true ∧
        ∃ container, site.document (site.key file) = .error (.document (.tooDeep container)) := by
  constructor
  · rintro ⟨other, container, found, document, deep⟩
    cases chosen.symm.trans found
    exact ⟨document, container, deep⟩
  · rintro ⟨document, container, deep⟩
    exact ⟨file, container, chosen, document, deep⟩

theorem not_misses_of_findFile
    {reference file : String}
    (chosen : site.findFile reference = some file) :
    ¬(path reference).Misses site := by
  rw [misses_path_iff, chosen]
  exact Option.some_ne_none file

theorem errorOf_path
    {reference file : String}
    (chosen : site.findFile reference = some file)
    (cause : Thrown) :
    (path reference).errorOf site cause =
      if isDocument (site.key file) then documentError (site.key file) cause
      else loadError (site.key file) cause := by
  unfold errorOf
  dsimp only
  rw [key?_path chosen]
  rfl

/-- What the load of a file of data throws. -/
theorem failsWith_of_loadDocument
    {reference file : String}
    (chosen : site.findFile reference = some file)
    (document : isDocument (site.key file) = true)
    (absent : world.answer? site.registry (site.key file) = none)
    (failed :
      loadDocument site (site.key file) (world.note (.asked site.registry (site.key file) none)) =
        .error thrown after) :
    (path reference).FailsWith site loader world thrown := by
  cases read : site.document (site.key file) with
  | ok content =>
      rw [loadDocument_of_ok read] at failed
      cases failed
  | error cause =>
      have there := not_misses_of_findFile chosen
      have raised : (path reference).Raises site loader world cause :=
        .data chosen document absent read
      have ordinary := (Site.plain_of_document read).1
      rcases error_of_loadDocument read failed with ⟨deep, rfl⟩ | ⟨shallow, rfl⟩
      · exact .passed there raised (.inr ((isTooDeep_path_iff chosen).mpr ⟨document, deep⟩))
      · have reported :=
          FailsWith.reported there raised ordinary fun given => by
            rcases (isTooDeep_path_iff chosen).mp given with ⟨-, container, same⟩
            exact shallow container (Except.error.inj (read.symm.trans same))
        rwa [errorOf_path chosen, if_pos document] at reported

/-- What the load of a file of source throws. -/
theorem failsWith_of_loadSource
    {reference file : String}
    (chosen : site.findFile reference = some file)
    (source : ¬isDocument (site.key file) = true)
    (absent : world.answer? site.registry (site.key file) = none)
    (failed :
      loadSource site loader (site.key file)
          (world.note (.asked site.registry (site.key file) none)) =
        .error thrown after) :
    (path reference).FailsWith site loader world thrown := by
  rw [loadSource_apply] at failed
  split at failed
  case h_1 => cases failed
  case h_2 cause middle body =>
      have there := not_misses_of_findFile chosen
      have raised : (path reference).Raises site loader world cause :=
        .body chosen ((Bool.not_eq_true _).mp source) absent body
      split at failed
      case isTrue ordinary =>
          cases failed
          have reported :=
            FailsWith.reported there raised ordinary fun given =>
              source ((isTooDeep_path_iff chosen).mp given).1
          rwa [errorOf_path chosen, if_neg source] at reported
      case isFalse request =>
          cases failed
          exact .passed there raised (.inl ((Bool.not_eq_true _).mp request))

/-- What the import of a name throws. -/
theorem failsWith_of_loadImport
    {specifier : String}
    (absent : world.answer? site.registry (importKey (dottedName specifier)) = none)
    (failed :
      loadImport site loader specifier (dottedName specifier)
          (world.note (.asked site.registry (importKey (dottedName specifier)) none)) =
        .error thrown after) :
    (name specifier).FailsWith site loader world thrown := by
  rw [loadImport_apply] at failed
  split at failed
  case h_1 => cases failed
  case h_2 cause middle imported =>
      have raised := Raises.importing absent imported
      split at failed
      case isTrue ordinary =>
          cases failed
          exact .reported id raised ordinary id
      case isFalse request =>
          cases failed
          exact .passed id raised (.inl ((Bool.not_eq_true _).mp request))

/-- What a load throws that fails for want of an answer. -/
theorem failsWith_of_fill
    {aim : Aim}
    {key : String}
    (resolved : aim.key? site = some key)
    (absent : world.answer? site.registry key = none)
    (failed :
      aim.fill site loader key (world.note (.asked site.registry key none)) = .error thrown after) :
    aim.FailsWith site loader world thrown := by
  cases aim with
  | name specifier =>
      cases resolved
      exact failsWith_of_loadImport absent failed
  | path reference =>
      rcases Option.map_eq_some_iff.mp resolved with ⟨file, chosen, rfl⟩
      change loadFile site loader (site.key file) _ = _ at failed
      unfold loadFile at failed
      split at failed
      case isTrue document => exact failsWith_of_loadDocument chosen document absent failed
      case isFalse source => exact failsWith_of_loadSource chosen source absent failed

theorem failsWith_of_load
    {aim : Aim}
    (failed : aim.load site loader world = .error thrown after) :
    aim.FailsWith site loader world thrown := by
  cases resolved : aim.key? site with
  | none =>
      cases aim with
      | name specifier => cases resolved
      | path reference =>
          have missing := Option.map_eq_none_iff.mp resolved
          change loadPath site loader reference world = _ at failed
          unfold loadPath at failed
          rw [missing] at failed
          cases failed
          exact .missing rfl (misses_path_iff.mpr missing)
  | some key =>
      rw [load_of_key? resolved] at failed
      cases known : world.answer? site.registry key with
      | some answer =>
          rw [loadKey_of_answer? known] at failed
          cases failed
      | none =>
          rw [loadKey_of_absent known] at failed
          exact failsWith_of_fill resolved known failed

theorem exists_loadErrorOf
    (aim : Aim)
    (site : Site)
    (cause : Thrown) :
    ∃ kind specifier, aim.errorOf site cause = loadErrorOf kind specifier cause := by
  cases aim with
  | name specifier => exact ⟨_, _, rfl⟩
  | path reference =>
      unfold errorOf
      dsimp only
      split <;> exact ⟨_, _, rfl⟩

/-- What is raised for data that is nested too deep says so. -/
theorem raised_of_isTooDeep
    {aim : Aim}
    {cause : Thrown}
    (deep : aim.IsTooDeep site)
    (raised : aim.Raises site loader world cause) :
    ∃ container, cause = .document (.tooDeep container) := by
  cases raised with
  | importing => exact deep.elim
  | body chosen source =>
      rw [isTooDeep_path_iff chosen, source] at deep
      cases deep.1
  | data chosen document _ read =>
      obtain ⟨-, container, given⟩ := (isTooDeep_path_iff chosen).mp deep
      exact ⟨container, Except.error.inj (read.symm.trans given)⟩

/-- What a load throws as it was raised is no error of a handler. -/
theorem reported?_of_passed
    {aim : Aim}
    {cause : Thrown}
    (raised : aim.Raises site loader world cause)
    (excepted : cause.isOrdinary = false ∨ aim.IsTooDeep site) :
    cause.reported? = none := by
  rcases excepted with request | deep
  · exact Thrown.reported?_of_request request
  · obtain ⟨container, rfl⟩ := raised_of_isTooDeep deep raised
    rfl

end Aim

/--
A request whose load fails ordinarily, in any world and whatever its bodies load with:

* It is answered with the code of a missing module exactly if no candidate for its path is a file. The
  error is one of a load and has no cause.
* Otherwise something was raised in the work of the load. The failure is an error of a load that has it as
  its cause, with one exception: if the aim is a file with data that is nested too deep, what was raised is
  thrown as it is, and is no error of a load.
-/
theorem failed_load_reported
    {request : Request}
    (failed : request.load site loader world = .error thrown after)
    (ordinary : thrown.isOrdinary = true) :
    let aim := request.aim site
    (thrown.code? = some "MODULE_NOT_FOUND" ↔ aim.Misses site) ∧
    (aim.Misses site → thrown.IsLoadError ∧ thrown.cause? = none) ∧
    (¬aim.Misses site → ¬aim.IsTooDeep site →
      thrown.IsLoadError ∧ ∃ cause, aim.Raises site loader world cause ∧ thrown.cause? = some cause) ∧
    (¬aim.Misses site → aim.IsTooDeep site →
      ¬thrown.IsLoadError ∧ aim.Raises site loader world thrown ∧
        ∃ container, thrown = .document (.tooDeep container)) := by
  intro aim
  obtain ⟨first, ended, same⟩ := request.exists_load_of_error failed
  have code : thrown.code? = first.code? := congrArg (Option.map HandlerError.code) same.error
  cases Aim.failsWith_of_load ended with
  | @missing reference aims misses =>
      refine ⟨?_, fun _ => ⟨same.isLoadError_iff.mpr ⟨_, _, rfl, rfl⟩, same.cause⟩,
        fun there => absurd misses there, fun there => absurd misses there⟩
      rw [code]
      exact iff_of_true rfl misses
  | @reported cause there raised _ shallow =>
      obtain ⟨kind, specifier, error⟩ := (request.aim site).exists_loadErrorOf site cause
      rw [error] at same code
      refine ⟨?_, fun misses => absurd misses there, fun _ _ => ?_, fun _ deep => absurd deep shallow⟩
      · have failedCode :
            (loadErrorOf kind specifier cause).code? = some HandlerError.loadFailedCode :=
          rfl
        rw [code, failedCode]
        exact iff_of_false (by decide) there
      · exact ⟨same.isLoadError_iff.mpr ⟨_, _, rfl, rfl⟩, cause, raised, same.cause⟩
  | passed there raised excepted =>
      have apart : ¬first.IsLoadError :=
        Thrown.not_isLoadError_of_reported? (Aim.reported?_of_passed raised excepted)
      obtain rfl := same.other apart
      have deep : aim.IsTooDeep site :=
        excepted.resolve_left fun request => by
          rw [request] at ordinary
          cases ordinary
      obtain ⟨container, rfl⟩ := Aim.raised_of_isTooDeep deep raised
      exact ⟨iff_of_false nofun there, fun misses => absurd misses there,
        fun _ shallow => absurd deep shallow, fun _ _ => ⟨apart, raised, container, rfl⟩⟩

/-- A body that fails at once. -/
def raisingBody : List Step :=
  [.raise "RuntimeError" "late"]

/-- The error of a body that fails is one of a load, and its cause is what the body raised. -/
theorem failed_load_reported_raisingBody :
    ∃ thrown after,
      (pairCall raisingBody []).load .empty = .error thrown after ∧ thrown.isOrdinary = true ∧
        thrown.IsLoadError ∧
          ∃ cause, (Aim.path "/a").Raises (pairSite raisingBody [])
              (Loader.forSite (pairSite raisingBody [])) .empty cause ∧ thrown.cause? = some cause := by
  let site := pairSite raisingBody []
  let noted := World.empty.note (.asked none firstFile none)
  have read : site.program firstFile = .ok (.steps raisingBody) := program_firstFile _ _
  have ran :
      Body.run site (Loader.forSite site) 0 firstFile (noted.opened none firstFile) =
        .error (.raised "RuntimeError" "late") (noted.opened none firstFile) := by
    rw [Body.run_of_program read]
    rfl
  have source : isDocument firstFile = false := by decide
  have raises : (Thrown.raised "RuntimeError" "late").isOrdinary = true := rfl
  have absent : World.empty.answer? none firstFile = none := rfl
  obtain ⟨thrown, ordinary, failed⟩ :=
    exists_requireToken_of_failed_body rfl (key?_firstFile raisingBody []) source absent ran raises
  have aims : (pairCall raisingBody []).request.aim site = .path "/a" := aim_firstFile _ _
  have found : site.findFile "/a" = some firstFile := findFile_firstFile _ _
  have loaded :
      (pairCall raisingBody []).request.load site (Loader.forSite site) .empty = .error thrown _ :=
    failed
  have parts := failed_load_reported loaded ordinary
  rw [aims] at parts
  have reported :=
    parts.2.2.1 (Aim.not_misses_of_findFile found)
      (by
        rw [Aim.isTooDeep_path_iff found, key_firstFile, source]
        rintro ⟨⟨⟩, -⟩)
  exact ⟨thrown, _, failed, ordinary, reported⟩

/-- The path of the data. -/
def deepFile : String :=
  "/deep.json"

/-- A body that requires the data. -/
def deepBody : List Step :=
  [.require "data" "./deep.json"]

/-- A site with a file of data that is nested too deep, and a module that requires it. -/
def deepSite : Site where
  tree :=
    ⟨[(["a.py"], .file (.program (.steps deepBody))),
      (["deep.json"], .file (.bytes (nestedArrays 5000)))]⟩
  cwd := []
  importRoot := "/site"
  registry := none
  interpreter := .usual

theorem entry?_above_deep
    (name : String) :
    ∀ count < 1, deepSite.tree.entry? ([name].take count) = some .directory := by
  intro count less
  match count, less with
  | 0, _ => rfl

theorem find_deepFile :
    deepSite.tree.find true deepSite.cwd deepFile =
      .ok (["deep.json"], .file (.bytes (nestedArrays 5000))) := by
  have spells : FileTree.Spells deepFile ["deep.json"] :=
    ⟨by decide, by decide, by decide, by decide⟩
  have entry : deepSite.tree.entry? ["deep.json"] = some (.file (.bytes (nestedArrays 5000))) := rfl
  exact FileTree.find_of_entry spells (entry?_above_deep "deep.json") entry (by simp)

theorem document_deepFile :
    deepSite.document deepFile = .error (.document (.tooDeep .array)) := by
  have content : deepSite.tree.read deepSite.cwd deepFile = .ok (.bytes (nestedArrays 5000)) := by
    unfold FileTree.read
    rw [find_deepFile]
  exact Site.document_of_nestedArrays (by decide) content

theorem findFile_deepFile :
    deepSite.findFile deepFile = some deepFile :=
  List.find?_cons_of_pos (Site.isFile_of_find find_deepFile)

theorem aim_deepFile :
    Aim.ofToken deepSite "/" "./deep.json" = .path deepFile := by
  decide

/-- To require the data throws what its reader stops for. -/
theorem requireToken_deepFile
    (absent : world.answer? none deepFile = none)
    (loader : Loader) :
    requireToken deepSite loader "/" "./deep.json" world =
      .error (.document (.tooDeep .array)) (world.note (.asked none deepFile none)) := by
  have key : deepSite.key deepFile = deepFile := Site.key_of_find find_deepFile (by decide)
  have resolved : (Aim.ofToken deepSite "/" "./deep.json").key? deepSite = some deepFile := by
    rw [aim_deepFile, Aim.key?_path findFile_deepFile, key]
  have data : isDocument deepFile = true := by decide
  have unknown : world.answer? deepSite.registry deepFile = none := absent
  have failed :
      (Aim.ofToken deepSite "/" "./deep.json").load deepSite loader world =
        .error (.document (.tooDeep .array)) (world.note (.asked none deepFile none)) := by
    rw [Aim.load_of_key? resolved, loadKey_of_absent unknown, aim_deepFile]
    change loadFile deepSite _ deepFile _ = _
    unfold loadFile loadDocument
    rw [if_pos data, document_deepFile]
    rfl
  obtain ⟨thrown, reported⟩ := (requireToken_rewords deepSite loader _ _).exists_error failed
  have loaded :
      (Request.require "/" "./deep.json").load deepSite loader world = .error thrown _ :=
    reported
  obtain ⟨first, ended, same⟩ := Request.exists_load_of_error loaded
  cases failed.symm.trans ended
  obtain rfl := same.other (Thrown.not_isLoadError_of_reported? rfl)
  exact reported

/-- A load that fails ordinarily does not always report an error of a load. -/
theorem deepSite_escapes :
    ¬∀ (site : Site) (request : Request) (world after : World) (thrown : Thrown),
      request.load site (Loader.forSite site) world = .error thrown after →
        thrown.isOrdinary = true → thrown.IsLoadError := by
  intro claim
  have absent : World.empty.answer? none deepFile = none := rfl
  have failed := requireToken_deepFile absent (Loader.forSite deepSite)
  exact Thrown.not_isLoadError_of_reported? rfl
    (claim deepSite (.require "/" "./deep.json") .empty _ _ failed rfl)

end Module

end ConfigTokens
