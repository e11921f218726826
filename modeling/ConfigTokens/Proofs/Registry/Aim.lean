import ConfigTokens.Proofs.Registry.Loads
/-!
# What requests aim at

A request reaches the registry of its site through a handler that loads, through a handler that calls
what it loads, or directly. Either way it aims at a path or at a name, and the aim has one key in the
registry if there is anything to load. A request with a key asks the registry for it and loads only for
want of an answer; a request without one changes nothing. Since bodies load with the loader of the depth
below, all loads of a site make histories by induction on the depth.
-/

namespace ConfigTokens.Module

variable
    {failures : Prop}
    {site : Site}
    {loader : Loader}

/-- What is to be loaded: the file that a path stands for, or a module by name. -/
inductive Aim where
  | path (reference : String)
  | name (specifier : String)
  deriving DecidableEq, Repr

namespace Aim

/-- The aim of a token for a base directory. -/
def ofToken
    (site : Site)
    (base token : String) : Aim :=
  if isFileReference token then
    .path (site.anchor (Path.absoluteText site.cwdText base) token)
  else .name token

/-- The key under which a registry keeps what is to be loaded. -/
def key?
    (site : Site) : Aim → Option String
  | .path reference => (site.findFile reference).map site.key
  | .name specifier => some (importKey (dottedName specifier))

theorem key?_path
    {site : Site}
    {reference file : String}
    (chosen : site.findFile reference = some file) :
    (path reference).key? site = some (site.key file) :=
  congrArg (Option.map site.key) chosen

/-- Loads what an aim stands for. -/
def load
    (site : Site)
    (loader : Loader) : Aim → Run Export
  | .path reference => loadPath site loader reference
  | .name specifier => loadName site loader specifier

/-- What is done for want of an answer. -/
def fill
    (site : Site)
    (loader : Loader)
    (key : String) : Aim → Run Export
  | .path _ => loadFile site loader key
  | .name specifier => loadImport site loader specifier (dottedName specifier)

theorem load_of_key?
    {aim : Aim}
    {key : String}
    (resolved : aim.key? site = some key) :
    aim.load site loader = loadKey site.registry key (aim.fill site loader key) := by
  cases aim with
  | path reference =>
      rcases Option.map_eq_some_iff.mp resolved with ⟨file, chosen, rfl⟩
      simp only [load, loadPath, chosen, fill]
  | name specifier =>
      cases resolved
      rfl

theorem load_of_key?_eq_none
    (loader : Loader)
    {aim : Aim}
    (unresolved : aim.key? site = none) :
    ∃ thrown, thrown.isOrdinary = true ∧ aim.load site loader = throw thrown := by
  cases aim with
  | path reference =>
      have missing := Option.map_eq_none_iff.mp unresolved
      unfold load loadPath
      simp only [missing]
      refine ⟨_, ?_, rfl⟩
      rfl
  | name specifier => cases unresolved

/-- What is done for want of an answer fills the key of the aim. -/
theorem fill_fills
    (raises : failures → site.raisesFailures = true)
    (loads : loader.Keeps (.history failures))
    {aim : Aim}
    {key : String}
    (resolved : aim.key? site = some key) :
    (aim.fill site loader key).Fills failures site.registry key := by
  have admits := Promise.history_admits raises
  cases aim with
  | path reference =>
      rcases Option.map_eq_some_iff.mp resolved with ⟨file, chosen, rfl⟩
      exact loadFile_fills (Site.isRooted_key chosen) fun id => Body.run_keeps admits loads.serves_history id _
  | name specifier =>
      cases resolved
      exact loadImport_fills (importAbsolute_keeps admits loads.serves_history _)

theorem load_keeps
    (raises : failures → site.raisesFailures = true)
    (loads : loader.Keeps (.history failures))
    (aim : Aim) :
    (aim.load site loader).Keeps (.history failures) := by
  cases resolved : aim.key? site with
  | some key =>
      rw [load_of_key? resolved]
      exact loadKey_keeps (fill_fills raises loads resolved)
  | none =>
      rcases load_of_key?_eq_none loader resolved with ⟨thrown, ordinary, failed⟩
      rw [failed]
      exact .throw fun _ => ordinary

end Aim

/-! ## Failures with another wording -/

/-- A computation ends like another one, though what it throws may be worded in its own way. -/
structure Run.Rewords
    (run other : Run Export) : Prop where
  ok_iff :
    ∀ {world answer final}, run world = .ok answer final ↔ other world = .ok answer final
  cause :
    ∀ {world thrown final}, run world = .error thrown final →
      ∃ cause, other world = .error cause final ∧ cause.isOrdinary = thrown.isOrdinary

namespace Run.Rewords

variable
    {run other : Run Export}

theorem refl
    (run : Run Export) :
    run.Rewords run where
  ok_iff := Iff.rfl
  cause failed := ⟨_, failed, rfl⟩

theorem relabel
    (rewords : run.Rewords other)
    (change : Context → Context) :
    (tryCatch run fun thrown => throw (thrown.relabel change)).Rewords other where
  ok_iff := by
    intro world answer final
    rw [tryCatch_eq_ok, ← rewords.ok_iff]
    constructor
    · rintro (ended | ⟨thrown, middle, -, handled⟩)
      · exact ended
      · cases handled
    · exact .inl
  cause := by
    intro world thrown final failed
    rcases tryCatch_eq_error.mp failed with ⟨first, middle, early, handled⟩
    cases handled
    rcases rewords.cause early with ⟨cause, ended, ordinary⟩
    exact ⟨cause, ended, ordinary.trans (Thrown.isOrdinary_relabel first change).symm⟩

theorem keeps
    (rewords : run.Rewords other)
    (kept : other.Keeps (.history failures)) :
    run.Keeps (.history failures) where
  moves_of_ok ended := kept.moves_of_ok (rewords.ok_iff.mp ended)
  moves_of_error failed := by
    rcases rewords.cause failed with ⟨cause, ended, -⟩
    exact kept.moves_of_error ended
  throws_of_error failed holds := by
    rcases rewords.cause failed with ⟨cause, ended, ordinary⟩
    exact ordinary.symm.trans (kept.throws_of_error ended holds)

theorem exists_error
    (rewords : run.Rewords other)
    {world final : World}
    {cause : Thrown}
    (failed : other world = .error cause final) :
    ∃ thrown, run world = .error thrown final := by
  cases ended : run world with
  | ok answer middle => cases failed.symm.trans (rewords.ok_iff.mp ended)
  | error thrown middle =>
      rcases rewords.cause ended with ⟨given, same, -⟩
      cases failed.symm.trans same
      exact ⟨thrown, rfl⟩

end Run.Rewords

theorem requireToken_rewords
    (site : Site)
    (loader : Loader)
    (base token : String) :
    (requireToken site loader base token).Rewords
      ((Aim.ofToken site base token).load site loader) := by
  unfold requireToken Aim.ofToken
  dsimp only
  split
  · exact (Run.Rewords.refl _).relabel _
  · exact (Run.Rewords.refl _).relabel _

/-- A token with an answer gets it. -/
theorem requireToken_of_answer?
    {base token key : String}
    {world : World}
    {answer : Export}
    (resolved : (Aim.ofToken site base token).key? site = some key)
    (known : world.answer? site.registry key = some answer) :
    requireToken site loader base token world =
      .ok answer (world.note (.asked site.registry key (some answer))) := by
  rw [(requireToken_rewords site loader base token).ok_iff, Aim.load_of_key? resolved]
  exact loadKey_of_answer? known _

/-- A token for a file of source without an answer gets what the load of the file returns. -/
theorem requireToken_of_loadSource
    {base token file : String}
    {world final : World}
    {answer : Export}
    (reference : isFileReference token = true)
    (resolved : (Aim.ofToken site base token).key? site = some file)
    (source : isDocument file = false)
    (absent : world.answer? site.registry file = none)
    (ended :
      loadSource site loader file (world.note (.asked site.registry file none)) = .ok answer final) :
    requireToken site loader base token world = .ok answer final := by
  rw [(requireToken_rewords site loader base token).ok_iff, Aim.load_of_key? resolved,
    loadKey_of_absent absent]
  unfold Aim.ofToken Aim.fill loadFile
  simp only [reference, source]
  exact ended

/-- A token for a name without an answer gets the module that is imported. -/
theorem requireToken_of_importAbsolute
    {base token : String}
    {world middle : World}
    {id : ObjectId}
    (bare : isFileReference token = false)
    (absent : world.answer? site.registry (importKey (dottedName token)) = none)
    (imported :
      importAbsolute site loader (dottedName token)
          (world.note (.asked site.registry (importKey (dottedName token)) none)) =
        .ok id middle) :
    requireToken site loader base token world =
      .ok (.module id) (middle.withImport site.registry token (dottedName token) id) := by
  have aims : Aim.ofToken site base token = .name token := by
    unfold Aim.ofToken
    rw [if_neg (by simp [bare])]
  rw [(requireToken_rewords site loader base token).ok_iff, aims]
  change loadKey site.registry (importKey (dottedName token)) _ world = _
  rw [loadKey_of_absent absent]
  rw [loadImport_apply, imported]

/-- The load of a file of source without an answer fails if its body does, and the file is discarded. -/
theorem Aim.load_of_failed_body
    {base token file : String}
    {world middle : World}
    {cause : Thrown}
    (reference : isFileReference token = true)
    (resolved : (Aim.ofToken site base token).key? site = some file)
    (source : isDocument file = false)
    (absent : world.answer? site.registry file = none)
    (failed :
      Body.run site loader world.objects.size file
          ((world.note (.asked site.registry file none)).opened site.registry file) =
        .error cause middle)
    (ordinary : cause.isOrdinary = true) :
    (Aim.ofToken site base token).load site loader world =
      .error (loadError file cause) (middle.discarded site.registry file cause.message) := by
  rw [Aim.load_of_key? resolved, loadKey_of_absent absent]
  unfold Aim.ofToken Aim.fill loadFile
  simp only [reference, source]
  exact loadSource_of_failure failed ordinary

/-- A token for a file of source without an answer fails if its body does. -/
theorem exists_requireToken_of_failed_body
    {base token file : String}
    {world middle : World}
    {cause : Thrown}
    (reference : isFileReference token = true)
    (resolved : (Aim.ofToken site base token).key? site = some file)
    (source : isDocument file = false)
    (absent : world.answer? site.registry file = none)
    (failed :
      Body.run site loader world.objects.size file
          ((world.note (.asked site.registry file none)).opened site.registry file) =
        .error cause middle)
    (ordinary : cause.isOrdinary = true) :
    ∃ thrown, thrown.isOrdinary = true ∧
      requireToken site loader base token world =
        .error thrown (middle.discarded site.registry file cause.message) := by
  have ended := Aim.load_of_failed_body reference resolved source absent failed ordinary
  have rewords := requireToken_rewords site loader base token
  obtain ⟨thrown, reported⟩ := rewords.exists_error ended
  obtain ⟨first, same, label⟩ := rewords.cause reported
  cases ended.symm.trans same
  exact ⟨thrown, label.symm, reported⟩

/-- A body that requires a token with an answer gets it. -/
theorem Body.require_of_answer?
    {self : ObjectId}
    {file token key : String}
    {content : ModuleObject}
    {world : World}
    {answer : Export}
    (module : world.module? self = some content)
    (place : content.file? = some file)
    (resolved : (Aim.ofToken site (Path.directoryText file) token).key? site = some key)
    (known : world.answer? site.registry key = some answer)
    (loader : Loader) :
    Body.require (.layer site loader) self token world =
      .ok answer.value
        ((world.note (.asked site.registry key (some answer))).note
          (.required self (Path.directoryText file) token answer)) := by
  have loaded :
      (Loader.layer site loader).require (Path.directoryText file) token world =
        .ok answer (world.note (.asked site.registry key (some answer))) :=
    requireToken_of_answer? resolved known
  exact Body.require_of_ok module place loaded

/-- A body that requires a file of source without an answer runs it. -/
theorem Body.require_of_body
    {self : ObjectId}
    {file token key : String}
    {content : ModuleObject}
    {world middle : World}
    (module : world.module? self = some content)
    (place : content.file? = some file)
    (reference : isFileReference token = true)
    (resolved : (Aim.ofToken site (Path.directoryText file) token).key? site = some key)
    (source : isDocument key = false)
    (absent : world.answer? site.registry key = none)
    (ran :
      Body.run site loader world.objects.size key
          ((world.note (.asked site.registry key none)).opened site.registry key) =
        .ok () middle) :
    Body.require (.layer site loader) self token world =
      .ok (.module world.objects.size)
        ((middle.note
            (.bodyEnded site.registry key (synthesizedName key) world.objects.size)).note
          (.required self (Path.directoryText file) token (.module world.objects.size))) := by
  have loaded :
      (Loader.layer site loader).require (Path.directoryText file) token world =
        .ok (.module world.objects.size)
          (middle.note
            (.bodyEnded site.registry key (synthesizedName key) world.objects.size)) :=
    requireToken_of_loadSource reference resolved source absent (loadSource_of_ok ran)
  exact Body.require_of_ok module place loaded

/-- A body that requires a file of source whose body fails gets an error. -/
theorem Body.exists_require_of_failed_body
    {self : ObjectId}
    {file token key : String}
    {content : ModuleObject}
    {world middle : World}
    {cause : Thrown}
    (module : world.module? self = some content)
    (place : content.file? = some file)
    (reference : isFileReference token = true)
    (resolved : (Aim.ofToken site (Path.directoryText file) token).key? site = some key)
    (source : isDocument key = false)
    (absent : world.answer? site.registry key = none)
    (failed :
      Body.run site loader world.objects.size key
          ((world.note (.asked site.registry key none)).opened site.registry key) =
        .error cause middle)
    (ordinary : cause.isOrdinary = true) :
    ∃ thrown, thrown.isOrdinary = true ∧
      Body.require (.layer site loader) self token world =
        .error thrown (middle.discarded site.registry key cause.message) := by
  obtain ⟨thrown, kept, loaded⟩ :=
    exists_requireToken_of_failed_body reference resolved source absent failed ordinary
  exact ⟨thrown, kept, Body.require_of_error module place loaded⟩

/-! ## Requests -/

/-- A request to load. -/
inductive Request where
  /-- The handler that loads, with its base directory. -/
  | require (base token : String)
  /-- The handler that calls what it loads, with its base directory. -/
  | execute (base token : String)
  /-- The registry itself. -/
  | direct (aim : Aim)
  deriving DecidableEq, Repr

namespace Request

/-- What a request aims at. -/
def aim
    (site : Site) : Request → Aim
  | .require base token => .ofToken site base token
  | .execute base token => .ofToken site base (Reference.parse token).module
  | .direct aim => aim

/-- The load that a request makes. -/
def load
    (site : Site)
    (loader : Loader) : Request → Run Export
  | .require base token => requireToken site loader base token
  | .execute base token => loadReference site loader base token
  | .direct aim => aim.load site loader

/-- A request ends like the load that it aims at. -/
theorem load_rewords
    (site : Site)
    (loader : Loader)
    (request : Request) :
    (request.load site loader).Rewords ((request.aim site).load site loader) := by
  cases request with
  | require base token => exact requireToken_rewords site loader base token
  | execute base token => exact (requireToken_rewords site loader base _).relabel _
  | direct aim => exact .refl _

theorem load_keeps
    (raises : failures → site.raisesFailures = true)
    (loads : loader.Keeps (.history failures))
    (request : Request) :
    (request.load site loader).Keeps (.history failures) :=
  (request.load_rewords site loader).keeps ((request.aim site).load_keeps raises loads)

/-- A request whose key has an answer gets that answer, and nothing else happens. -/
theorem load_of_answer?
    {request : Request}
    {key : String}
    {world : World}
    {answer : Export}
    (resolved : (request.aim site).key? site = some key)
    (known : world.answer? site.registry key = some answer) :
    request.load site loader world =
      .ok answer (world.note (.asked site.registry key (some answer))) := by
  rw [(request.load_rewords site loader).ok_iff, Aim.load_of_key? resolved]
  exact loadKey_of_answer? known _

/-- A request that succeeds has a key, and its export is the answer from then on. -/
theorem answer?_of_load
    (loads : loader.Keeps (.history False))
    {request : Request}
    {world final : World}
    {answer : Export}
    (ended : request.load site loader world = .ok answer final) :
    ∃ key, (request.aim site).key? site = some key ∧
      final.answer? site.registry key = some answer := by
  rw [(request.load_rewords site loader).ok_iff] at ended
  cases resolved : (request.aim site).key? site with
  | some key =>
      rw [Aim.load_of_key? resolved] at ended
      have fills :
          ((request.aim site).fill site loader key).Fills False site.registry key :=
        Aim.fill_fills False.elim loads resolved
      exact ⟨key, rfl, answer?_of_loadKey fills ended⟩
  | none =>
      rcases Aim.load_of_key?_eq_none loader resolved with ⟨thrown, -, failed⟩
      rw [failed] at ended
      cases ended

end Request

/-! ## Loaders -/

/-- The loads of every loader of a site make histories, however deep its bodies may nest. -/
theorem Loader.ofDepth_keeps
    (raises : failures → site.raisesFailures = true)
    (depth : Nat) :
    (ofDepth site depth).Keeps (.history failures) := by
  -- The bodies that a loader runs load with the loader of the depth below.
  induction depth with
  | zero =>
      constructor
      · exact fun _ _ => .throw fun _ => rfl
      · exact fun _ => .throw fun _ => rfl
  | succ depth ih =>
      constructor
      · intro base token
        have aimed := (Aim.ofToken site base token).load_keeps raises ih
        exact (requireToken_rewords site _ base token).keeps aimed
      · exact importModule_keeps (Promise.history_admits raises) ih.serves_history

end ConfigTokens.Module
