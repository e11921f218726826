import ConfigTokens.Proofs.Meaning.Load
import ConfigTokens.Proofs.Nesting.Guarded
import ConfigTokens.Proofs.Registry.Requirement
import ConfigTokens.Proofs.Run.Bytecode
/-!
# The order of loads

Where no load reaches a body under way or the limit on the nesting, what a load gives is what its file
means, and a registry answers in the end for the files that are meant by the calls. Neither depends on the
order of the calls, so two runs of the same calls in different orders leave worlds that are the same up to
the identity of objects, and each call ends alike in both.
-/

namespace ConfigTokens.Module

/-! ## Calls that load files -/

/-- The call loads a file at a site, and calls nothing of what it loads. -/
structure Call.Fetches
    (call : Call)
    (site : Site) : Prop where
  here : call.site = site
  refers : call.RefersToFile
  loads : ∀ base token, call.request ≠ .execute base token

/-- Nothing is done with what was loaded. -/
theorem Call.Fetches.final_load
    {call : Call}
    {site : Site}
    (fetches : call.Fetches site)
    (world : World) :
    call.load.final world = call.after world := by
  have unused (loaded : Export) : call.use loaded = pure () := by
    unfold Call.use
    split
    case h_1 base token request => exact absurd request (fetches.loads base token)
    case h_2 => rfl
    case h_3 => rfl
  unfold Call.after Call.run
  rw [Run.final_bind]
  cases ended : call.load world with
  | ok loaded middle =>
      rw [Run.final_of_ok ended]
      dsimp only
      rw [unused]
      rfl
  | error thrown middle => exact Run.final_of_error ended

theorem Call.Fetches.after_of_ok
    {call : Call}
    {site : Site}
    (fetches : call.Fetches site)
    {world final : World}
    {answer : Export}
    (ended : call.load world = .ok answer final) :
    call.after world = final :=
  (fetches.final_load world).symm.trans (Run.final_of_ok ended)

/-- What a request stands for. -/
noncomputable def Request.meaning?
    (site : Site) : Request → Option (Meaning Export)
  | .require base token => site.tokenMeaning? site.meaning? base token
  | .execute base token =>
    (site.tokenMeaning? site.meaning? base (Reference.parse token).module).map <|
      Meaning.relabel fun context =>
        { context with handler := some execHandler, token := some token }
  | .direct aim => aim.meaning? site site.meaning?

/-- The load of a request ends as its meaning says, up to a pairing with places. -/
inductive Request.EndsAsMeant
    (request : Request)
    (site : Site)
    (known : Pairing) : EStateM.Result Thrown World Export → Prop where
  | ok {answer meant : Export} {files : List String} {final : World} :
      request.meaning? site = some ⟨.ok meant, files⟩ → answer.Alike known meant →
        EndsAsMeant request site known (.ok answer final)
  | error {thrown : Thrown} {files : List String} {final : World} :
      request.meaning? site = some ⟨.error thrown, files⟩ →
        EndsAsMeant request site known (.error thrown final)

theorem Request.EndsAsMeant.mono
    {request : Request}
    {site : Site}
    {known later : Pairing}
    {result : EStateM.Result Thrown World Export}
    (ends : request.EndsAsMeant site known result)
    (grown : ∀ {id other}, known id other → later id other) :
    request.EndsAsMeant site later result := by
  cases ends with
  | ok means alike => exact .ok means (alike.mono grown)
  | error means => exact .error means

/-- The files that are loaded for a request and stay. -/
noncomputable def Request.files
    (site : Site)
    (request : Request) : List String :=
  match request.meaning? site with
  | some meaning => meaning.files
  | none => []

theorem Request.files_of_meaning?
    {site : Site}
    {request : Request}
    {meaning : Meaning Export}
    (means : request.meaning? site = some meaning) :
    request.files site = meaning.files := by
  unfold files
  rw [means]

/-! ## Runs of calls -/

/-- The load of a request ends alike when loads may nest deeper than the interpreter allows. -/
def Request.Unlimited
    (request : Request)
    (site : Site)
    (world : World) : Prop :=
  ∀ depth, site.depth ≤ depth →
    request.load site (.ofDepth site depth) world = request.load site (.forSite site) world

/-- A site with room for all its bodies limits no load of a file. -/
theorem Request.unlimited_of_room
    {request : Request}
    {site : Site}
    {world : World}
    (bounded : site.Regular ∨ request.LoadsFiles site)
    (roomy : site.bodies ≤ site.depth)
    (consistent : world.Consistent site) :
    request.Unlimited site world := by
  intro depth more
  obtain ⟨further, rfl⟩ := Nat.exists_eq_add_of_le more
  exact loads_with_room bounded roomy consistent further

/-- No load of a run reaches a body under way, and none reaches the limit on the nesting. -/
structure World.RunsFreely
    (world : World)
    (site : Site)
    (calls : List Call) : Prop where
  acyclic : ¬Reenters site.registry ((world.afterCalls calls).eventsSince world.journal.size)
  unlimited :
    ∀ earlier call rest, calls = earlier ++ call :: rest →
      call.request.Unlimited site (world.afterCalls earlier)

/-- With room for all bodies no load of a run reaches the limit. -/
theorem World.unlimited_of_room
    {site : Site}
    {world : World}
    (nothing : site.ImportsNothing)
    (roomy : site.bodies ≤ site.depth)
    (consistent : world.Consistent site)
    {calls : List Call}
    (fetches : ∀ call ∈ calls, call.Fetches site)
    {earlier rest : List Call}
    {call : Call}
    (split : calls = earlier ++ call :: rest) :
    call.request.Unlimited site (world.afterCalls earlier) := by
  subst split
  obtain ⟨here, refers, -⟩ := fetches call (by simp)
  have before : ∀ other ∈ earlier, other.site = site :=
    fun other member => (fetches other (List.mem_append_left _ member)).here
  subst here
  exact Request.unlimited_of_room (.inr ⟨nothing, refers⟩) roomy (consistent.afterCalls before)

section Runs

variable
    {site : Site}
    {origin : Nat}
    {known : Pairing}
    {world : World}
    (nothing : site.ImportsNothing)
    (raises : site.raisesFailures = true)

include nothing raises

/-- The load of a request that refers to a file, where loads may nest as deep as the tree needs. -/
theorem Request.load_gives
    (faithful : world.Faithful site origin [] known)
    {request : Request}
    {reference : String}
    (refers : request.aim site = .path reference)
    {depth : Nat}
    (deep : site.tree.entries.length ≤ depth) :
    world.Gives site origin [] known (request.meaning? site)
      (request.load site (.ofDepth site depth)) := by
  have nested (file : String) : (Loader.ofDepth site depth).Gives site origin [file] := by
    refine Loader.ofDepth_gives nothing raises origin ?_
    rw [List.length_singleton]
    omega
  have keeps {failures : Prop} (raises : failures → site.raisesFailures = true) :
      (Loader.ofDepth site depth).Keeps (.history failures) :=
    Loader.ofDepth_keeps raises depth
  cases request with
  | require base token =>
      exact requireToken_gives faithful nested keeps nothing raises base
        (isFileReference_of_aim refers)
  | execute base token =>
      have required := requireToken_gives faithful nested keeps nothing raises base
        (isFileReference_of_aim refers)
      exact required.relabel _
  | direct aim =>
      cases refers
      exact loadPath_gives faithful nested keeps nothing raises reference

/-- A load that reaches neither a body under way nor the limit ends as is meant, and leaves a faithful
world. -/
theorem Request.exists_load
    (faithful : world.Faithful site origin [] known)
    {request : Request}
    {reference : String}
    (refers : request.aim site = .path reference)
    (unlimited : request.Unlimited site world)
    {final : World}
    (ended : (request.load site (.forSite site)).final world = final)
    (acyclic : ¬Reenters site.registry (final.eventsSince origin)) :
    ∃ later,
      final.Faithful site origin [] later ∧
        world.Extends final site known later (request.files site) ∧
          request.EndsAsMeant site later (request.load site (.forSite site) world) := by
  subst ended
  have same := unlimited (site.depth + site.tree.entries.length) (Nat.le_add_right _ _)
  have deep : site.tree.entries.length ≤ site.depth + site.tree.entries.length :=
    Nat.le_add_left _ _
  have finals :
      (request.load site (.ofDepth site (site.depth + site.tree.entries.length))).final world =
        (request.load site (.forSite site)).final world := by
    unfold Run.final
    rw [same]
  rw [← finals] at acyclic ⊢
  rw [← same]
  cases request.load_gives nothing raises faithful refers deep with
  | ok final later means ended faithful extended alike =>
      rw [Run.final_of_ok ended, ended, request.files_of_meaning? means]
      exact ⟨later, faithful, extended, .ok means alike⟩
  | error final later means ended faithful extended =>
      rw [Run.final_of_error ended, ended, request.files_of_meaning? means]
      exact ⟨later, faithful, extended, .error means⟩
  | reenters reached => exact absurd reached acyclic

/-- A free run leaves a faithful world, and every load in it ends as is meant. -/
theorem World.Faithful.exists_run
    {calls : List Call}
    (faithful : world.Faithful site origin [] known)
    (fetches : ∀ call ∈ calls, call.Fetches site)
    (unlimited :
      ∀ earlier call rest, calls = earlier ++ call :: rest →
        call.request.Unlimited site (world.afterCalls earlier))
    (acyclic : ¬Reenters site.registry ((world.afterCalls calls).eventsSince origin)) :
    ∃ later,
      (world.afterCalls calls).Faithful site origin [] later ∧
        world.Extends (world.afterCalls calls) site known later
          (calls.flatMap fun call => call.request.files site) ∧
        ∀ earlier call rest, calls = earlier ++ call :: rest →
          call.request.EndsAsMeant site later (call.load (world.afterCalls earlier)) := by
  induction calls generalizing world known with
  | nil => exact ⟨known, faithful, .refl world site known, fun earlier => by simp⟩
  | cons call rest ih =>
      obtain ⟨fetched, others⟩ := List.forall_mem_cons.mp fetches
      obtain ⟨reference, refers⟩ := fetched.refers
      have ended := fetched.final_load world
      obtain rfl := fetched.here
      -- What the rest of the run adds to the journal hides no body that is reached before.
      have first : ¬Reenters call.site.registry ((call.after world).eventsSince origin) :=
        fun reached => acyclic (reached.later (World.afterCalls_moves rest False.elim _))
      obtain ⟨middle, begun, extended, ends⟩ :=
        Request.exists_load nothing raises faithful refers (unlimited [] call rest rfl) ended first
      have further (earlier : List Call) (other : Call) (after : List Call)
          (split : rest = earlier ++ other :: after) :
          other.request.Unlimited call.site ((call.after world).afterCalls earlier) :=
        unlimited (call :: earlier) other after (by rw [split]; rfl)
      obtain ⟨later, left, further, remaining⟩ := ih begun others further acyclic
      refine ⟨later, left, extended.trans further, fun earlier other after split => ?_⟩
      cases earlier with
      | nil =>
          cases split
          exact ends.mono further.keeps
      | cons _ before =>
          cases split
          exact remaining before other after rfl

end Runs

/-! ## Two runs -/

/-- A world in which a registry is empty has nothing yet that is paired with a place. -/
theorem World.faithful_of_registry_eq_nil
    {world : World}
    {site : Site}
    (empty : world.registry site.registry = []) :
    world.Faithful site world.journal.size [] fun _ _ => False where
  nodup := .nil
  begun := List.forall_mem_nil _
  since := Nat.le_refl _
  running := List.forall_mem_nil _
  left_unique := nofun
  right_unique := nofun
  objects := nofun
  settled := nofun
  shut := nofun
  answered known := by simp [answer?, empty] at known
  closed settled := absurd settled Settled.not_of_unpaired

/-- Two faithful worlds in which the same files are settled. -/
def Couple.ofFaithful
    {site : Site}
    {world other : World}
    {origin since : Nat}
    {known further : Pairing}
    (left : world.Faithful site origin [] known)
    (right : other.Faithful site since [] further)
    (same : ∀ file, world.Settled site known file ↔ other.Settled site further file) :
    Couple site.registry fun _ => True where
  pairs := joined known further
  left := world
  right := other
  left_unique := by
    rintro id other third ⟨place, first, second⟩ ⟨_, also, last⟩
    cases left.left_unique first also
    exact right.right_unique second last
  right_unique := by
    rintro id other third ⟨place, first, second⟩ ⟨_, also, last⟩
    cases right.left_unique second last
    exact left.right_unique first also
  objects := by
    rintro id twin ⟨place, first, second⟩
    obtain ⟨object, meant, found, means, alike⟩ := left.objects first
    obtain ⟨partner, _, present, also, close⟩ := right.objects second
    cases means.symm.trans also
    exact ⟨object, partner, found, present, alike.join close, trivial⟩
  answers key := by
    by_cases settled : world.Settled site known key
    · obtain ⟨_, _, partner, also, present, close⟩ := (same key).mp settled
      obtain ⟨objects, files, answer, means, found, alike⟩ := settled
      cases means.symm.trans also
      rw [found, present]
      exact .some (alike.join close)
    · have absent : world.answer? site.registry key = none := by
        rw [Option.eq_none_iff_forall_ne_some]
        intro answer found
        exact settled ((left.answered found).resolve_right List.not_mem_nil)
      have missing : other.answer? site.registry key = none := by
        rw [Option.eq_none_iff_forall_ne_some]
        intro answer found
        exact settled ((same key).mpr ((right.answered found).resolve_right List.not_mem_nil))
      rw [absent, missing]
      exact .none

/-- Two loads end with exports that are alike, or with the same failure. -/
inductive EndsAlike
    (pairs : Pairing) :
    EStateM.Result Thrown World Export → EStateM.Result Thrown World Export → Prop where
  | ok {answer other : Export} {final further : World} :
      answer.Alike pairs other → EndsAlike pairs (.ok answer final) (.ok other further)
  | error {final further : World} (thrown : Thrown) :
      EndsAlike pairs (.error thrown final) (.error thrown further)

/-- Two loads that end as the same is meant end alike. -/
theorem Request.EndsAsMeant.join
    {request : Request}
    {site : Site}
    {known further : Pairing}
    {result other : EStateM.Result Thrown World Export}
    (first : request.EndsAsMeant site known result)
    (second : request.EndsAsMeant site further other) :
    EndsAlike (joined known further) result other := by
  cases first with
  | ok means alike =>
      cases second with
      | ok also close =>
          cases means.symm.trans also
          exact .ok (alike.join close)
      | error also => cases means.symm.trans also
  | error means =>
      cases second with
      | ok also => cases means.symm.trans also
      | error also =>
          cases means.symm.trans also
          exact .error _

/-- What is run in a run of calls is what the files say, if the site keeps its files apart. -/
theorem World.programs_readings_of_fetches
    {site : Site}
    (apart : site.KeepsApart site)
    {calls : List Call}
    (fetches : ∀ call ∈ calls, call.Fetches site)
    {kept : Bytecodes}
    (serves : kept.Serves site)
    (keeps : Bool)
    (world : World) :
    kept.programs keeps (world.readings (calls.map Action.call)) =
      (world.readings (calls.map Action.call)).map Reading.source := by
  have here (made : Call) (member : Action.call made ∈ calls.map Action.call) : made.site = site := by
    obtain ⟨call, inside, same⟩ := List.mem_map.mp member
    cases same
    exact (fetches made inside).here
  refine world.programs_readings (fun made other inside within => ?_) (fun made inside => ?_) keeps
  · rw [here made inside, here other within]
    exact apart
  · rw [here made inside]
    exact serves

/--
Two runs of the same calls in different orders, each on an empty registry and without a load that reaches
a body under way or the limit on the nesting, leave worlds in which the same files are answered, with
exports and objects that are the same up to a one-to-one pairing. Each call ends in both runs with exports
that are the same up to this pairing, or with the same failure. If the site keeps its files apart, an
interpreter that keeps code runs in both what the files say.
-/
theorem loads_in_any_order
    {site : Site}
    {world other : World}
    (empty : world.registry site.registry = [])
    (blank : other.registry site.registry = [])
    (nothing : site.ImportsNothing)
    (raises : site.raisesFailures = true)
    (apart : site.KeepsApart site)
    {calls others : List Call}
    (fetches : ∀ call ∈ calls, call.Fetches site)
    (order : calls.Perm others)
    (free : world.RunsFreely site calls)
    (also : other.RunsFreely site others) :
    (∃ couple : Couple site.registry fun _ => True,
      couple.left = world.afterCalls calls ∧ couple.right = other.afterCalls others ∧
        (∀ key,
          ((world.afterCalls calls).answer? site.registry key).isSome =
            ((other.afterCalls others).answer? site.registry key).isSome) ∧
        ∀ call earlier rest before after,
          calls = earlier ++ call :: rest → others = before ++ call :: after →
            EndsAlike couple.pairs (call.load (world.afterCalls earlier))
              (call.load (other.afterCalls before))) ∧
    ∀ (kept : Bytecodes) (keeps : Bool), kept.Serves site →
      let first := world.readings (calls.map Action.call)
      let second := other.readings (others.map Action.call)
      kept.programs keeps first = first.map Reading.source ∧
        kept.programs keeps second = second.map Reading.source := by
  have fetched : ∀ call ∈ others, call.Fetches site :=
    fun call member => fetches call (order.mem_iff.mpr member)
  constructor
  · obtain ⟨known, left, extended, ends⟩ :=
      (World.faithful_of_registry_eq_nil empty).exists_run nothing raises fetches free.unlimited
        free.acyclic
    obtain ⟨further, right, grown, close⟩ :=
      (World.faithful_of_registry_eq_nil blank).exists_run nothing raises fetched also.unlimited
        also.acyclic
    have same (file : String) :
        (world.afterCalls calls).Settled site known file ↔
          (other.afterCalls others).Settled site further file := by
      rw [extended.settled, grown.settled, or_iff_right World.Settled.not_of_unpaired,
        or_iff_right World.Settled.not_of_unpaired]
      exact (order.flatMap_right _).mem_iff
    let couple := Couple.ofFaithful left right same
    refine ⟨couple, rfl, rfl, couple.isSome_answer?_eq,
      fun call earlier rest before after split divided => ?_⟩
    exact (ends earlier call rest split).join (close before call after divided)
  · intro kept keeps serves first second
    exact ⟨World.programs_readings_of_fetches apart fetches serves keeps world,
      World.programs_readings_of_fetches apart fetched serves keeps other⟩

/-! ### Two orders of two calls -/

/-- A body that requires the second module. -/
def userBody : List Step :=
  [.require "b" "./b"]

/-- A body that asks for a module that is not there, and keeps what it is told. -/
def usedBody : List Step :=
  [.tryRequire "x" "./"]

/-- The site where the first module requires the second one, with a limit on the nesting. -/
def userSite
    (nesting : Nat) : Site :=
  { pairSite userBody usedBody with interpreter := { Interpreter.usual with nesting } }

/-- The call that requires the first module. -/
def userCall
    (nesting : Nat) : Call :=
  ⟨userSite nesting, .require "/" "./a"⟩

/-- The call that requires the second module. -/
def usedCall
    (nesting : Nat) : Call :=
  ⟨userSite nesting, .require "/" "./b"⟩

namespace World

/-- The second body has run while the first one is under way. -/
def usedNested
    (told : String) : World :=
  cycleNested.withGlobal 1 "x" (.str told)

/-- The first module has been loaded, and the second one for it. -/
def userLoaded
    (told : String) : World :=
  let nested := (usedNested told).note (.bodyEnded none secondFile (synthesizedName secondFile) 1)
  let returned := nested.note (.required 0 "/" "./b" (.module 1))
  (returned.withGlobal 0 "b" (.module 1)).note
    (.bodyEnded none firstFile (synthesizedName firstFile) 0)

/-- The body of the second module begins. -/
def usedBegun : World :=
  (empty.note (.asked none secondFile none)).opened none secondFile

/-- The second module has been loaded. -/
def usedLoaded
    (told : String) : World :=
  (usedBegun.withGlobal 0 "x" (.str told)).note
    (.bodyEnded none secondFile (synthesizedName secondFile) 0)

/-- The body of the first module begins after that. -/
def userBegun
    (told : String) : World :=
  ((usedLoaded told).note (.asked none firstFile none)).opened none firstFile

/-- The first module has been loaded after the second one. -/
def bothLoaded
    (told : String) : World :=
  let asked := (userBegun told).note (.asked none secondFile (some (.module 0)))
  let returned := asked.note (.required 1 "/" "./b" (.module 0))
  (returned.withGlobal 1 "b" (.module 0)).note
    (.bodyEnded none firstFile (synthesizedName firstFile) 1)

end World

section TwoOrders

variable
    (nesting : Nat)

theorem importsNothing_userSite :
    (userSite nesting).ImportsNothing := by
  intro file steps read
  refine Site.forall_step_of_entries (fun _ => trivial) (fun place body present => ?_) read
  simp only [userSite, pairSite, List.mem_cons, List.not_mem_nil, or_false, Prod.mk.injEq,
    Entry.file.injEq, Content.program.injEq, Program.steps.injEq] at present
  rcases present with ⟨-, rfl⟩ | ⟨-, rfl⟩
  · exact List.forall_mem_singleton.mpr (by decide : isFileReference "./b" = true)
  · exact List.forall_mem_singleton.mpr (by decide : isFileReference "./" = true)

/-- The two files have different places for their code. -/
theorem keepsApart_userSite :
    (userSite nesting).KeepsApart (userSite nesting) := by
  refine Site.keepsApart_of_paths (fun _ => rfl) ?_
  change
    ∀ file ∈ [firstFile, secondFile], ∀ elsewhere ∈ [firstFile, secondFile],
      (⟨userSite 0, file⟩ : Reading).path = (⟨userSite 0, elsewhere⟩ : Reading).path →
        file = elsewhere
  decide

theorem fetches_userCall :
    (userCall nesting).Fetches (userSite nesting) :=
  ⟨rfl, ⟨"/a", aim_firstFile userBody usedBody⟩, nofun⟩

theorem fetches_usedCall :
    (usedCall nesting).Fetches (userSite nesting) :=
  ⟨rfl, ⟨"/b", aim_secondFile userBody usedBody⟩, nofun⟩

theorem fetches_calls :
    ∀ call ∈ [userCall nesting, usedCall nesting], call.Fetches (userSite nesting) :=
  List.forall_mem_cons.mpr
    ⟨fetches_userCall nesting, List.forall_mem_singleton.mpr (fetches_usedCall nesting)⟩

theorem key?_userBody :
    (Aim.ofToken (userSite nesting) (Path.directoryText firstFile) "./b").key? (userSite nesting) =
      some secondFile := by
  rw [directoryText_firstFile]
  exact key?_secondFile _ _

theorem findFile_root :
    (userSite nesting).findFile "/" = none := by
  have listed : candidates "/" = ["/", "/.py", "/.json", "/__init__.py"] := by decide
  have directory : (userSite nesting).isFile "/" = false := by
    have found : (userSite nesting).tree.find true (userSite nesting).cwd "/" = .ok ([], .directory) :=
      find_root userBody usedBody
    unfold Site.isFile FileTree.isFile
    rw [found]
  have absent {path : String} (name : String) (spells : FileTree.Spells path [name])
      (nothing : (userSite nesting).tree.entry? [name] = none) :
      (userSite nesting).isFile path = false :=
    FileTree.isFile_of_absent spells (entry?_above_pair _ _ name) nothing
  have plain : (userSite nesting).isFile "/.py" = false :=
    absent ".py" ⟨by decide, by decide, by decide, by decide⟩ rfl
  have data : (userSite nesting).isFile "/.json" = false :=
    absent ".json" ⟨by decide, by decide, by decide, by decide⟩ rfl
  have package : (userSite nesting).isFile "/__init__.py" = false :=
    absent "__init__.py" ⟨by decide, by decide, by decide, by decide⟩ rfl
  simp [Site.findFile, listed, directory, plain, data, package]

/-- There is no module in the root itself. -/
theorem exists_requireToken_root
    (loader : Loader)
    (world : World) :
    ∃ thrown, thrown.isOrdinary = true ∧ Body.failureCode thrown = "MODULE_NOT_FOUND" ∧
      requireToken (userSite nesting) loader "/" "./" world = .error thrown world := by
  have reference : isFileReference "./" = true := by decide
  have anchored :
      (userSite nesting).anchor (Path.absoluteText (userSite nesting).cwdText "/") "./" = "/" := by
    change (userSite 0).anchor (Path.absoluteText (userSite 0).cwdText "/") "./" = "/"
    decide
  unfold requireToken
  rw [if_pos reference, anchored]
  unfold loadPath
  rw [findFile_root]
  exact ⟨_, rfl, rfl, rfl⟩

/-- What the second body is told of a module that is not there. -/
theorem run_usedBody
    (loader : Loader)
    {self : ObjectId}
    {world : World}
    (module : world.module? self = some (freshFileModule secondFile)) :
    Body.run (userSite nesting) (.layer (userSite nesting) loader) self secondFile world =
      .ok () (world.withGlobal self "x" (.str "MODULE_NOT_FOUND")) := by
  obtain ⟨thrown, ordinary, code, failed⟩ := exists_requireToken_root nesting loader world
  have read : (userSite nesting).program secondFile = .ok (.steps usedBody) :=
    program_secondFile userBody usedBody
  have required :
      Body.require (.layer (userSite nesting) loader) self "./" world = .error thrown world :=
    Body.require_of_error module rfl failed
  have stepped := Body.runStep_tryRequire_of_error required ordinary "x"
  rw [code] at stepped
  rw [Body.run_of_program read]
  exact Body.runSteps_cons_of_ok stepped []

/-- What the second body is told where nothing can be loaded any more. -/
theorem run_usedBody_zero
    {self : ObjectId}
    {world : World}
    (module : world.module? self = some (freshFileModule secondFile)) :
    Body.run (userSite nesting) (.ofDepth (userSite nesting) 0) self secondFile world =
      .ok () (world.withGlobal self "x" (.str "RecursionError")) := by
  have read : (userSite nesting).program secondFile = .ok (.steps usedBody) :=
    program_secondFile userBody usedBody
  have required :
      Body.require (.ofDepth (userSite nesting) 0) self "./" world = .error .tooDeep world :=
    Body.require_of_error module rfl rfl
  rw [Body.run_of_program read]
  exact Body.runSteps_cons_of_ok (Body.runStep_tryRequire_of_error required rfl "x") []

/-- The first body sets a global to what it requires. -/
theorem run_userBody
    {loader : Loader}
    {self : ObjectId}
    {begun returned : World}
    {value : Value}
    (required : Body.require loader self "./b" begun = .ok value returned) :
    Body.run (userSite nesting) loader self firstFile begun =
      .ok () (returned.withGlobal self "b" value) := by
  have read : (userSite nesting).program firstFile = .ok (.steps userBody) :=
    program_firstFile userBody usedBody
  have stepped :
      Body.runStep loader self (.require "b" "./b") begun =
        .ok () (returned.withGlobal self "b" value) :=
    Body.runStep_require_of_ok required "b"
  rw [Body.run_of_program read]
  exact Body.runSteps_cons_of_ok stepped []

/-- The first module is loaded; the second one is told what it is told there. -/
theorem load_userCall
    {told : String}
    (ran :
      Body.run (userSite nesting) (.ofDepth (userSite nesting) nesting) 1 secondFile .cycleNested =
        .ok () (.usedNested told)) :
    (userCall nesting).load .empty = .ok (.module 0) (.userLoaded told) := by
  have module : World.cycleBegun.module? 0 = some (freshFileModule firstFile) := rfl
  have absent : World.cycleBegun.answer? none secondFile = none := by decide
  have required :=
    Body.require_of_body module rfl rfl (key?_userBody nesting) (by decide) absent ran
  rw [directoryText_firstFile] at required
  exact requireToken_of_loadSource (by decide) (key?_firstFile userBody usedBody) (by decide) rfl
    (loadSource_of_ok (run_userBody nesting required))

theorem load_usedCall :
    (usedCall nesting).load .empty = .ok (.module 0) (.usedLoaded "MODULE_NOT_FOUND") := by
  have module : World.usedBegun.module? 0 = some (freshFileModule secondFile) := rfl
  exact requireToken_of_loadSource (by decide) (key?_secondFile userBody usedBody) (by decide) rfl
    (loadSource_of_ok (run_usedBody nesting (.ofDepth (userSite nesting) nesting) module))

theorem load_usedCall_again
    (told : String) :
    (usedCall nesting).load (.userLoaded told) =
      .ok (.module 1) ((World.userLoaded told).note (.asked none secondFile (some (.module 1)))) := by
  have known : (World.userLoaded told).answer? none secondFile = some (.module 1) := rfl
  exact requireToken_of_answer? (key?_secondFile userBody usedBody) known

theorem load_userCall_later
    (told : String) :
    (userCall nesting).load (.usedLoaded told) = .ok (.module 1) (.bothLoaded told) := by
  have module : (World.userBegun told).module? 1 = some (freshFileModule firstFile) := rfl
  have known : (World.userBegun told).answer? none secondFile = some (.module 0) := rfl
  have required :=
    Body.require_of_answer? module rfl (key?_userBody nesting) known (.ofDepth (userSite nesting) nesting)
  rw [directoryText_firstFile] at required
  have absent : (World.usedLoaded told).answer? none firstFile = none := by
    change World.usedBegun.answer? none firstFile = none
    decide
  exact requireToken_of_loadSource (by decide) (key?_firstFile userBody usedBody) (by decide) absent
    (loadSource_of_ok (run_userBody nesting required))

/-- The world after the first module has been required, and then the second one. -/
theorem afterCalls_user_used
    {told : String}
    (ran :
      Body.run (userSite nesting) (.ofDepth (userSite nesting) nesting) 1 secondFile .cycleNested =
        .ok () (.usedNested told)) :
    World.empty.afterCalls [userCall nesting, usedCall nesting] =
      (World.userLoaded told).note (.asked none secondFile (some (.module 1))) := by
  unfold World.afterCalls
  rw [List.foldl_cons, List.foldl_cons, List.foldl_nil,
    (fetches_userCall nesting).after_of_ok (load_userCall nesting ran),
    (fetches_usedCall nesting).after_of_ok (load_usedCall_again nesting told)]

/-- The world after the calls in the other order. -/
theorem afterCalls_used_user :
    World.empty.afterCalls [usedCall nesting, userCall nesting] =
      .bothLoaded "MODULE_NOT_FOUND" := by
  unfold World.afterCalls
  rw [List.foldl_cons, List.foldl_cons, List.foldl_nil,
    (fetches_usedCall nesting).after_of_ok (load_usedCall nesting),
    (fetches_userCall nesting).after_of_ok (load_userCall_later nesting _)]

/-- In the first order no load reaches a body under way. -/
theorem not_reenters_user_used
    (told : String) :
    ¬Reenters none
      (((World.userLoaded told).note (.asked none secondFile (some (.module 1)))).eventsSince 0) := by
  have events :
      ((World.userLoaded told).note (.asked none secondFile (some (.module 1)))).eventsSince 0 =
        [] ++ [.asked none firstFile none] ++ [.bodyStarted none firstFile 0] ++
          [.asked none secondFile none] ++ [.bodyStarted none secondFile 1] ++
          [.bodyEnded none secondFile (synthesizedName secondFile) 1] ++
          [.required 0 "/" "./b" (.module 1)] ++
          [.bodyEnded none firstFile (synthesizedName firstFile) 0] ++
          [.asked none secondFile (some (.module 1))] := rfl
  rw [events]
  simp only [reenters_concat, underWay_concat, not_underWay_nil, not_reenters_nil]
  simp [Event.closed?, firstFile, secondFile]

/-- In the second order neither. -/
theorem not_reenters_used_user
    (told : String) :
    ¬Reenters none ((World.bothLoaded told).eventsSince 0) := by
  have events :
      (World.bothLoaded told).eventsSince 0 =
        [] ++ [.asked none secondFile none] ++ [.bodyStarted none secondFile 0] ++
          [.bodyEnded none secondFile (synthesizedName secondFile) 0] ++
          [.asked none firstFile none] ++ [.bodyStarted none firstFile 1] ++
          [.asked none secondFile (some (.module 0))] ++ [.required 1 "/" "./b" (.module 0)] ++
          [.bodyEnded none firstFile (synthesizedName firstFile) 1] := rfl
  rw [events]
  simp only [reenters_concat, underWay_concat, not_underWay_nil, not_reenters_nil]
  simp [Event.closed?, firstFile, secondFile]

end TwoOrders

/-- Neither order of the two calls reaches a body under way or the limit, and the loads end alike. -/
theorem loads_userCall_usedCall :
    let site := userSite 100
    let calls := [userCall 100, usedCall 100]
    let others := [usedCall 100, userCall 100]
    World.empty.registry site.registry = [] ∧ site.ImportsNothing ∧ site.raisesFailures = true ∧
      site.KeepsApart site ∧ (∀ call ∈ calls, call.Fetches site) ∧ calls.Perm others ∧
      World.empty.RunsFreely site calls ∧ World.empty.RunsFreely site others ∧
      ∃ couple : Couple site.registry fun _ => True,
        couple.left = World.empty.afterCalls calls ∧
          couple.right = World.empty.afterCalls others ∧
            EndsAlike couple.pairs ((userCall 100).load .empty)
              ((userCall 100).load (.usedLoaded "MODULE_NOT_FOUND")) := by
  intro site calls others
  have nothing : site.ImportsNothing := importsNothing_userSite 100
  have apart : site.KeepsApart site := keepsApart_userSite 100
  have fetches : ∀ call ∈ calls, call.Fetches site := fetches_calls 100
  have order : calls.Perm others := .swap _ _ _
  have fetched : ∀ call ∈ others, call.Fetches site :=
    fun call member => fetches call (order.mem_iff.mpr member)
  have roomy : site.bodies ≤ site.depth := by decide
  have consistent := World.consistent_empty site
  have ran := run_usedBody 100 (.ofDepth site 99) (show World.cycleNested.module? 1 = _ from rfl)
  have free : World.empty.RunsFreely site calls := by
    refine ⟨?_, fun _ _ _ split => World.unlimited_of_room nothing roomy consistent fetches split⟩
    rw [afterCalls_user_used 100 ran]
    exact not_reenters_user_used _
  have also : World.empty.RunsFreely site others := by
    refine ⟨?_, fun _ _ _ split => World.unlimited_of_room nothing roomy consistent fetched split⟩
    rw [afterCalls_used_user]
    exact not_reenters_used_user _
  obtain ⟨⟨couple, left, right, -, alike⟩, -⟩ :=
    loads_in_any_order (show World.empty.registry site.registry = [] from rfl)
      (show World.empty.registry site.registry = [] from rfl) nothing (by decide) apart fetches order
      free also
  refine ⟨rfl, nothing, by decide, apart, fetches, order, free, also, couple, left, right, ?_⟩
  have ends := alike (userCall 100) [] [usedCall 100] [usedCall 100] [] rfl rfl
  have middle : World.empty.afterCalls [usedCall 100] = .usedLoaded "MODULE_NOT_FOUND" :=
    (fetches_usedCall 100).after_of_ok (load_usedCall 100)
  rw [middle] at ends
  exact ends

/-! ### Where the order matters -/

/-- Two files that differ in their suffixes only. -/
def stemSite : Site where
  tree :=
    ⟨[(["a.py"], .file (.program (.steps [.assign "X" (.int 2)]))),
      (["a.txt"], .file (.program (.steps [.assign "X" (.int 3)])))]⟩
  cwd := []
  importRoot := "/"
  registry := none
  interpreter := .usual

theorem program_stemSite
    (name : String)
    {path : String}
    {body : List Step}
    (spells : FileTree.Spells path [name])
    (there : stemSite.tree.entry? [name] = some (.file (.program (.steps body)))) :
    stemSite.program path = .ok (.steps body) := by
  refine Site.program_of_find (FileTree.find_of_entry spells ?_ there (by simp))
  intro count less
  match count, less with
  | 0, _ => rfl

theorem source_plainStem :
    (⟨stemSite, "/a.py"⟩ : Reading).source = .ok (.steps [.assign "X" (.int 2)]) :=
  program_stemSite "a.py" ⟨by decide, by decide, by decide, by decide⟩ rfl

theorem source_textStem :
    (⟨stemSite, "/a.txt"⟩ : Reading).source = .ok (.steps [.assign "X" (.int 3)]) :=
  program_stemSite "a.txt" ⟨by decide, by decide, by decide, by decide⟩ rfl

theorem path_stem :
    (⟨stemSite, "/a.py"⟩ : Reading).path = (⟨stemSite, "/a.txt"⟩ : Reading).path := by
  have named : ['a'] ≠ [] := by decide
  have plain := codeText_of_suffix [] named (by decide : '/' ∉ ['a'] ++ '.' :: ['p', 'y']) (by decide)
  have text := codeText_of_suffix [] named (by decide : '/' ∉ ['a'] ++ '.' :: ['t', 'x', 't']) (by decide)
  exact congrArg (Path.absoluteText stemSite.cwdText) (plain.trans text.symm)

/-- The second module is told of the limit if the first one requires it, and not if it comes first. -/
theorem not_endsAlike_usedCall
    {couple : Couple none fun _ => True}
    (left : couple.left = World.empty.afterCalls [userCall 0, usedCall 0])
    (right : couple.right = World.empty.afterCalls [usedCall 0, userCall 0]) :
    ¬EndsAlike couple.pairs ((usedCall 0).load (World.empty.afterCalls [userCall 0]))
      ((usedCall 0).load .empty) := by
  have ran := run_usedBody_zero 0 (show World.cycleNested.module? 1 = _ from rfl)
  have middle : World.empty.afterCalls [userCall 0] = .userLoaded "RecursionError" :=
    (fetches_userCall 0).after_of_ok (load_userCall 0 ran)
  intro ends
  rw [middle, load_usedCall_again, load_usedCall] at ends
  cases ends with
  | ok close =>
      cases close with
      | module paired =>
          obtain ⟨object, partner, found, present, same, -⟩ := couple.objects paired
          rw [left, afterCalls_user_used 0 ran] at found
          rw [right, afterCalls_used_user 0] at present
          have limited :
              (World.userLoaded "RecursionError").objects[1]? =
                some (.module ((World.userLoaded "RecursionError").moduleAt 1)) := rfl
          have missing :
              (World.bothLoaded "MODULE_NOT_FOUND").objects[0]? =
                some (.module ((World.bothLoaded "MODULE_NOT_FOUND").moduleAt 0)) := rfl
          cases limited.symm.trans found
          cases missing.symm.trans present
          cases same with
          | module same =>
              have told :
                  Option.Rel (Value.Alike couple.pairs) (some (.str "RecursionError"))
                    (some (.str "MODULE_NOT_FOUND")) := same.globals.lookup "x"
              cases told with
              | some told => exact absurd told.eq_of_str (by decide)

/--
The order of two calls may matter, though no load reaches a body under way, if one of them reaches the limit
on the nesting. And what an interpreter that keeps code runs for two files may depend on which one is read
first.
-/
theorem loads_depend_on_order :
    (¬∀ (site : Site) (calls others : List Call),
      site.ImportsNothing → site.raisesFailures = true → (∀ call ∈ calls, call.Fetches site) →
        calls.Perm others →
          ¬Reenters site.registry ((World.empty.afterCalls calls).eventsSince 0) →
            ¬Reenters site.registry ((World.empty.afterCalls others).eventsSince 0) →
              ∃ couple : Couple site.registry fun _ => True,
                couple.left = World.empty.afterCalls calls ∧
                  couple.right = World.empty.afterCalls others ∧
                  ∀ call earlier rest before after,
                    calls = earlier ++ call :: rest → others = before ++ call :: after →
                      EndsAlike couple.pairs (call.load (World.empty.afterCalls earlier))
                        (call.load (World.empty.afterCalls before))) ∧
    ¬∀ (site : Site) (file elsewhere : String) (first second : Except Thrown Program),
      file ∈ site.keys → elsewhere ∈ site.keys →
        Bytecodes.programs true [] [⟨site, file⟩, ⟨site, elsewhere⟩] = [first, second] →
          Bytecodes.programs true [] [⟨site, elsewhere⟩, ⟨site, file⟩] = [second, first] := by
  constructor
  · intro claim
    let site := userSite 0
    have ran := run_usedBody_zero 0 (show World.cycleNested.module? 1 = _ from rfl)
    have acyclic :
        ¬Reenters none ((World.empty.afterCalls [userCall 0, usedCall 0]).eventsSince 0) := by
      rw [afterCalls_user_used 0 ran]
      exact not_reenters_user_used _
    have straight :
        ¬Reenters none ((World.empty.afterCalls [usedCall 0, userCall 0]).eventsSince 0) := by
      rw [afterCalls_used_user 0]
      exact not_reenters_used_user _
    obtain ⟨couple, left, right, alike⟩ :=
      claim site [userCall 0, usedCall 0] [usedCall 0, userCall 0] (importsNothing_userSite 0)
        (by decide) (fetches_calls 0) (.swap _ _ _) acyclic straight
    exact not_endsAlike_usedCall left right (alike (usedCall 0) [userCall 0] [] [] [userCall 0] rfl rfl)
  · intro claim
    have keys : stemSite.keys = ["/a.py", "/a.txt"] := by decide
    have first := Reading.programs_of_shared source_plainStem source_textStem path_stem rfl
    have second := Reading.programs_of_shared source_textStem source_plainStem path_stem.symm rfl
    have same :=
      claim stemSite "/a.py" "/a.txt" _ _ (by simp [keys]) (by simp [keys]) first
    rw [second] at same
    cases same

end ConfigTokens.Module
