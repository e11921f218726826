import ConfigTokens.Proofs.Failure.Cause
import ConfigTokens.Proofs.Failure.Nested
/-!
# Where an error of a load comes from

A handler that requires labels the errors of its load on their way out. A load that fails for an error of
a require in a body has this error as its cause, and as it is: labels are put on the outermost error only.
So the causes of an error lead from each require to the one in whose body it was made, down to what was
raised there and is no error of a load, or to a path that stands for no file.
-/

namespace ConfigTokens

namespace Thrown

/-- An error of a load with the label of a handler at work on a token beside a directory. -/
def IsLabelled
    (thrown : Thrown)
    (handler token base : String) : Prop :=
  ∃ error context, thrown.reported? = some (error, context) ∧ error.isLoad = true ∧
    context.handler = some handler ∧ context.token = some token ∧ context.baseDir = some base

theorem causes_of_cause?
    {thrown cause : Thrown}
    (caused : thrown.cause? = some cause) :
    thrown.causes = cause :: cause.causes := by
  cases thrown with
  | chained error context inner =>
      cases caused
      rfl
  | _ => cases caused

theorem causes_of_not_caused
    {thrown : Thrown}
    (first : thrown.cause? = none) :
    thrown.causes = [] := by
  cases thrown with
  | chained => cases first
  | _ => rfl

/-- In another context an error has the same causes. -/
theorem SameBeside.causes
    {thrown first : Thrown}
    (same : thrown.SameBeside first) :
    thrown.causes = first.causes := by
  cases caused : first.cause? with
  | none => rw [causes_of_not_caused caused, causes_of_not_caused (same.cause.trans caused)]
  | some cause => rw [causes_of_cause? caused, causes_of_cause? (same.cause.trans caused)]

theorem cause?_of_reported?
    {thrown : Thrown}
    (plain : thrown.reported? = none) :
    thrown.cause? = none := by
  cases thrown with
  | chained => cases plain
  | _ => rfl

end Thrown

namespace Module

/-! ## Attempts -/

/-- A require that is made in a world, with the depth that is left for bodies. -/
structure Attempt where
  depth : Nat
  base : String
  token : String
  world : World

namespace Attempt

/-- The loader of the bodies that an attempt begins. -/
def loader
    (attempt : Attempt)
    (site : Site) : Loader :=
  .ofDepth site attempt.depth

/-- Makes the attempt. -/
def run
    (attempt : Attempt)
    (site : Site) : Run Export :=
  requireToken site (attempt.loader site) attempt.base attempt.token

/-- What the attempt aims at. -/
def aim
    (attempt : Attempt)
    (site : Site) : Aim :=
  .ofToken site attempt.base attempt.token

/-- The attempt ends by throwing. -/
def Throws
    (attempt : Attempt)
    (site : Site)
    (thrown : Thrown) : Prop :=
  ∃ after, attempt.run site attempt.world = .error thrown after

/-- A body begins for an attempt: that of its file, or one that the import of its name begins. -/
inductive Begins
    (site : Site)
    (attempt : Attempt) : BodyStart → Prop
  | file {reference file : String} :
    attempt.aim site = .path reference → site.findFile reference = some file →
      isDocument (site.key file) = false →
        attempt.world.answer? site.registry (site.key file) = none →
          Begins site attempt (.ofFile attempt.world site.registry (site.key file))
  | importing {specifier : String} {start : BodyStart} :
    attempt.aim site = .name specifier →
      attempt.world.answer? site.registry (importKey (dottedName specifier)) = none →
        (dottedName specifier).toList.head? ≠ some '.' →
          NameBegins site (attempt.loader site) (dottedName specifier)
              (attempt.world.note (.asked site.registry (importKey (dottedName specifier)) none)) start →
            Begins site attempt start

end Attempt

/--
A body makes an attempt: it reaches a step that requires, or one that imports a module by its full name,
and a body that begins for the import makes it.
-/
inductive Makes
    (site : Site) : Nat → BodyStart → Attempt → Prop
  | require {depth : Nat} {start : BodyStart} {name token : String} {world : World} :
    start.Reaches site (.ofDepth site (depth + 1)) (.require name token) world →
      Makes site (depth + 1) start ⟨depth, world.baseOf start.self, token, world⟩
  | importing {depth : Nat} {start inner : BodyStart} {step : Step} {full : String}
      {world reached : World} {attempt : Attempt} :
    start.Reaches site (.ofDepth site (depth + 1)) step world →
      step.Imports (.ofDepth site (depth + 1)) start.self world full reached →
        NameBegins site (.ofDepth site depth) full reached inner →
          Makes site depth inner attempt →
            Makes site (depth + 1) start attempt

/-- An attempt is made in a body that begins for another one. -/
def Attempt.Nests
    (site : Site)
    (outer inner : Attempt) : Prop :=
  ∃ start, outer.Begins site start ∧ Makes site outer.depth start inner

/-- A failure is no error of a handler, and no attempt that is nested in this one has thrown it. -/
structure Attempt.Originates
    (attempt : Attempt)
    (site : Site)
    (cause : Thrown) : Prop where
  plain : cause.reported? = none
  own : ∀ inner, attempt.Nests site inner → ¬inner.Throws site cause

variable
    {site : Site}
    {thrown : Thrown}

theorem Makes.depth_lt
    {depth : Nat}
    {start : BodyStart}
    {attempt : Attempt}
    (makes : Makes site depth start attempt) :
    attempt.depth < depth := by
  induction makes with
  | require => exact Nat.lt_succ_self _
  | importing _ _ _ _ less => exact Nat.lt_succ_of_lt less

/-- What ends a body is its own, or what an attempt has thrown that is made in the body. -/
def BodyStart.EndsBy
    (start : BodyStart)
    (site : Site)
    (depth : Nat)
    (thrown : Thrown) : Prop :=
  thrown.isOwn = true ∨ ∃ attempt, Makes site depth start attempt ∧ attempt.Throws site thrown

theorem BodyStart.run_throwsOnly_endsBy
    (start : BodyStart)
    (site : Site)
    (depth : Nat) :
    (start.run site (.ofDepth site depth)).ThrowsOnly start.world (start.EndsBy site depth) := by
  induction depth generalizing start with
  | zero =>
      exact start.run_throwsOnly .inl (fun _ _ _ _ => .throw (.inl rfl)) fun _ _ _ _ _ _ =>
        .throw (.inl rfl)
  | succ depth inner =>
      refine start.run_throwsOnly .inl ?_ ?_
      · intro name token world reaches
        exact ⟨fun failed => .inr ⟨_, .require reaches, _, failed⟩⟩
      · intro step full world reached reaches imports
        refine importModule_throwsOnly .inl fun nested begins => ⟨fun failed => ?_⟩
        rcases (inner nested).of_error failed with own | ⟨attempt, makes, throws⟩
        · exact .inl own
        · exact .inr ⟨attempt, .importing reaches imports begins makes, throws⟩

/-! ## What an attempt throws -/

namespace Attempt

variable
    {attempt inner : Attempt}
    {cause : Thrown}

/-- What an attempt throws is what its load throws, but for the context. -/
theorem Throws.exists_failsWith
    (throws : attempt.Throws site thrown) :
    ∃ first, (attempt.aim site).FailsWith site (attempt.loader site) attempt.world first ∧
      thrown.SameBeside first := by
  obtain ⟨after, failed⟩ := throws
  have loaded :
      (Request.require attempt.base attempt.token).load site (attempt.loader site) attempt.world =
        .error thrown after :=
    failed
  obtain ⟨first, ended, same⟩ := Request.exists_load_of_error loaded
  exact ⟨first, Aim.failsWith_of_load ended, same⟩

/-- An attempt throws an error of a load, unless it is ended by a request or its data is nested too deep. -/
theorem Throws.isLoadError
    (throws : attempt.Throws site thrown)
    (ordinary : thrown.isOrdinary = true)
    (shallow : ∀ container, (attempt.aim site).IsTooDeep site → thrown ≠ .document (.tooDeep container)) :
    thrown.IsLoadError := by
  obtain ⟨first, fails, same⟩ := throws.exists_failsWith
  rw [same.isLoadError_iff]
  cases fails with
  | missing => exact ⟨_, _, rfl, rfl⟩
  | @reported cause =>
      obtain ⟨kind, specifier, error⟩ := (attempt.aim site).exists_loadErrorOf site cause
      rw [error]
      exact ⟨_, _, rfl, rfl⟩
  | passed _ raised excepted =>
      have plain := Aim.reported?_of_passed raised excepted
      obtain rfl := same.other (Thrown.not_isLoadError_of_reported? plain)
      rcases excepted with request | deep
      · cases request.symm.trans ordinary
      · obtain ⟨container, named⟩ := Aim.raised_of_isTooDeep deep raised
        exact absurd named (shallow container deep)

/-- An attempt does not throw what is a body's own failure, unless it is a request to end. -/
theorem not_throws_of_isOwn
    (own : cause.isOwn = true)
    (ordinary : cause.isOrdinary = true) :
    ¬attempt.Throws site cause := by
  intro throws
  have shallow (container) (_ : (attempt.aim site).IsTooDeep site) :
      cause ≠ .document (.tooDeep container) := by
    rintro rfl
    cases own
  exact Thrown.not_isLoadError_of_reported? (Thrown.reported?_of_isOwn own)
    (throws.isLoadError ordinary shallow)

/-- Data is read without any body. -/
theorem not_nests_of_isDocument
    {reference file : String}
    (aims : attempt.aim site = .path reference)
    (chosen : site.findFile reference = some file)
    (document : isDocument (site.key file) = true) :
    ¬attempt.Nests site inner := by
  rintro ⟨start, begins, -⟩
  cases begins with
  | file other found source =>
      cases aims.symm.trans other
      cases chosen.symm.trans found
      cases document.symm.trans source
  | importing other => cases aims.symm.trans other

/-- What is raised in the work of an attempt is its own, or what an attempt nested in it has thrown. -/
theorem originates_or_nests_of_raises
    (raised : (attempt.aim site).Raises site (attempt.loader site) attempt.world cause)
    (ordinary : cause.isOrdinary = true) :
    attempt.Originates site cause ∨ ∃ inner, attempt.Nests site inner ∧ inner.Throws site cause := by
  have ownFailure (own : cause.isOwn = true) : attempt.Originates site cause :=
    ⟨Thrown.reported?_of_isOwn own, fun _ _ => not_throws_of_isOwn own ordinary⟩
  generalize aims : attempt.aim site = aim at raised
  cases raised with
  | @body reference file _ _ chosen source absent failed =>
      let start := BodyStart.ofFile attempt.world site.registry (site.key file)
      have begins : attempt.Begins site start := .file aims chosen source absent
      rcases (start.run_throwsOnly_endsBy site attempt.depth).of_error failed with
        own | ⟨inner, makes, throws⟩
      · exact .inl (ownFailure own)
      · exact .inr ⟨inner, ⟨start, begins, makes⟩, throws⟩
  | data chosen document _ read =>
      exact .inl ⟨(Site.plain_of_document read).2,
        fun _ nests _ => not_nests_of_isDocument aims chosen document nests⟩
  | @importing specifier _ _ absent failed =>
      have throwsOnly :
          (importAbsolute site (attempt.loader site) (dottedName specifier)).ThrowsOnly
            (attempt.world.note (.asked site.registry (importKey (dottedName specifier)) none))
            (fun thrown => thrown.isOwn = true ∨
              ∃ start, attempt.Begins site start ∧ start.EndsBy site attempt.depth thrown) :=
        importAbsolute_throwsOnly .inl fun start absolute begins =>
          ⟨fun failed => .inr ⟨start, .importing aims absent absolute begins,
            (start.run_throwsOnly_endsBy site attempt.depth).of_error failed⟩⟩
      rcases throwsOnly.of_error failed with own | ⟨start, begins, own | ⟨inner, makes, throws⟩⟩
      · exact .inl (ownFailure own)
      · exact .inl (ownFailure own)
      · exact .inr ⟨inner, ⟨start, begins, makes⟩, throws⟩

/-! ## Errors and their causes -/

/-- An attempt throws an error of a load with its own label. -/
structure Reports
    (attempt : Attempt)
    (site : Site)
    (thrown : Thrown) : Prop where
  throws : attempt.Throws site thrown
  labelled :
    thrown.IsLabelled requireHandler attempt.token (Path.absoluteText site.cwdText attempt.base)

theorem Throws.reports
    (throws : attempt.Throws site thrown)
    (load : thrown.IsLoadError) :
    attempt.Reports site thrown := by
  refine ⟨throws, ?_⟩
  obtain ⟨after, failed⟩ := throws
  obtain ⟨first, middle, -, handled⟩ := Run.tryCatch_eq_error.mp failed
  cases handled
  obtain ⟨error, context, reported, isLoad⟩ := (first.sameBeside_relabel _).isLoadError_iff.mp load
  exact ⟨error, _, Thrown.reported?_relabel reported isLoad _, isLoad, rfl, rfl, rfl⟩

end Attempt

/-- How the causes of an error of a load end. -/
inductive Ending where
  /-- A path stands for no file. -/
  | missing
  /-- Something was raised that is no error of a load. -/
  | raised (cause : Thrown)
  /-- The data of an attempt is nested too deep. -/
  | tooDeep (attempt : Attempt) (cause : Thrown)

/-- The last cause. -/
def Ending.thrown? : Ending → Option Thrown
  | .missing => none
  | .raised cause | .tooDeep _ cause => some cause

/--
An error that an attempt reports leads through its causes from one attempt to the next, each made in a body
of the one before. In the end no file was found, or something was raised that no attempt has thrown. Only
where data is nested too deep an attempt has thrown the last cause, and has not reported it.
-/
inductive Attempt.Traced
    (site : Site) : Attempt → Thrown → List (Attempt × Thrown) → Ending → Prop
  | missing {attempt : Attempt} {thrown : Thrown} :
    attempt.Reports site thrown → (attempt.aim site).Misses site →
      thrown.code? = some "MODULE_NOT_FOUND" → thrown.cause? = none →
        Traced site attempt thrown [] .missing
  | raised {attempt : Attempt} {thrown cause : Thrown} :
    attempt.Reports site thrown →
      (attempt.aim site).Raises site (attempt.loader site) attempt.world cause →
        attempt.Originates site cause → thrown.cause? = some cause →
          Traced site attempt thrown [] (.raised cause)
  | tooDeep {attempt inner : Attempt} {thrown cause : Thrown} {container : Json.Container} :
    attempt.Reports site thrown → attempt.Nests site inner → inner.Throws site cause →
      (inner.aim site).IsTooDeep site → cause = .document (.tooDeep container) →
        thrown.cause? = some cause → Traced site attempt thrown [] (.tooDeep inner cause)
  | nested {outer inner : Attempt} {thrown cause : Thrown} {links : List (Attempt × Thrown)}
      {ending : Ending} :
    outer.Reports site thrown → outer.Nests site inner → thrown.cause? = some cause →
      Traced site inner cause links ending →
        Traced site outer thrown ((inner, cause) :: links) ending

namespace Attempt

variable
    {attempt : Attempt}
    {links : List (Attempt × Thrown)}
    {ending : Ending}

theorem Traced.reports
    (traced : attempt.Traced site thrown links ending) :
    ∀ link ∈ (attempt, thrown) :: links, link.1.Reports site link.2 := by
  induction traced with
  | missing reports => simpa using reports
  | raised reports => simpa using reports
  | tooDeep reports => simpa using reports
  | nested reports _ _ _ later => exact List.forall_mem_cons.mpr ⟨reports, later⟩

/-- The errors of the attempts and what ends them are all the causes. -/
theorem Traced.causes_eq
    (traced : attempt.Traced site thrown links ending) :
    thrown.causes = links.map Prod.snd ++ ending.thrown?.toList := by
  induction traced with
  | missing _ _ _ first => exact Thrown.causes_of_not_caused first
  | raised _ _ originates caused =>
      rw [Thrown.causes_of_cause? caused,
        Thrown.causes_of_not_caused (Thrown.cause?_of_reported? originates.plain)]
      rfl
  | tooDeep _ _ _ _ named caused =>
      subst named
      rw [Thrown.causes_of_cause? caused]
      rfl
  | nested _ _ caused _ later =>
      rw [Thrown.causes_of_cause? caused, later]
      rfl

/-- Every error of a load that an attempt throws can be traced. -/
theorem Throws.exists_traced
    (throws : attempt.Throws site thrown)
    (load : thrown.IsLoadError) :
    ∃ links ending, attempt.Traced site thrown links ending := by
  induction depth : attempt.depth using Nat.strongRecOn generalizing attempt thrown with
  | ind left inside =>
      have reports := throws.reports load
      obtain ⟨first, fails, same⟩ := throws.exists_failsWith
      cases fails with
      | missing aims misses =>
          exact ⟨[], .missing, .missing reports misses (congrArg (Option.map _) same.error) same.cause⟩
      | @reported cause there raised ordinary shallow =>
          obtain ⟨kind, specifier, error⟩ := (attempt.aim site).exists_loadErrorOf site cause
          rw [error] at same
          have caused : thrown.cause? = some cause := same.cause
          rcases originates_or_nests_of_raises raised ordinary with originates | ⟨inner, nests, nested⟩
          · exact ⟨[], _, .raised reports raised originates caused⟩
          · by_cases deep : (inner.aim site).IsTooDeep site ∧
                ∃ container, cause = .document (.tooDeep container)
            · obtain ⟨deep, container, named⟩ := deep
              exact ⟨[], _, .tooDeep reports nests nested deep named caused⟩
            · have innerLoad : cause.IsLoadError :=
                nested.isLoadError ordinary fun container given named => deep ⟨given, container, named⟩
              obtain ⟨start, begins, makes⟩ := nests
              have less : inner.depth < left := depth ▸ makes.depth_lt
              obtain ⟨links, ending, traced⟩ := inside inner.depth less nested innerLoad rfl
              exact ⟨_, ending, .nested reports ⟨start, begins, makes⟩ caused traced⟩
      | passed _ raised excepted =>
          have plain := Aim.reported?_of_passed raised excepted
          exact absurd (same.isLoadError_iff.mp load) (Thrown.not_isLoadError_of_reported? plain)

end Attempt

/-- A load for a token to be executed that fails throws what an attempt throws, with another label. -/
theorem exists_attempt_of_loadReference
    {base token : String}
    {world after : World}
    (failed : loadReference site (.forSite site) base token world = .error thrown after) :
    ∃ first,
      Attempt.Throws ⟨site.depth, base, (Reference.parse token).module, world⟩ site first ∧
        thrown = first.relabel fun context =>
          { context with handler := some execHandler, token := some token } := by
  rw [loadReference_apply] at failed
  cases ended :
      requireToken site (.forSite site) base (Reference.parse token).module world with
  | error first middle =>
      rw [ended] at failed
      cases failed
      exact ⟨first, ⟨_, ended⟩, rfl⟩
  | ok loaded middle =>
      rw [ended] at failed
      cases failed

/--
The errors of the loads of a site, for a handler that requires and one that executes, in any world; the
handler that executes ends with the error if its load fails:

* An error of a load has the label of the handler: its name, the whole token and its base directory.
* Its causes are the errors of attempts that are nested in each other and that end in what was raised
  first, or in an error of a path that stands for no file. Each of these errors is what its own attempt has
  thrown, and has the label of that attempt.
-/
theorem error_of_load_traced
    (site : Site)
    (base token : String)
    (world : World) :
    let directory := Path.absoluteText site.cwdText base
    (∀ thrown after,
      requireToken site (.forSite site) base token world = .error thrown after → thrown.IsLoadError →
        thrown.IsLabelled requireHandler token directory ∧
        ∃ links ending,
          Attempt.Traced site ⟨site.depth, base, token, world⟩ thrown links ending ∧
            thrown.causes = links.map Prod.snd ++ ending.thrown?.toList ∧
            ∀ link ∈ links, link.1.Reports site link.2) ∧
    ∀ thrown after,
      loadReference site (.forSite site) base token world = .error thrown after → thrown.IsLoadError →
        executeToken site (.forSite site) base token world = .error thrown after ∧
        thrown.IsLabelled execHandler token directory ∧
        ∃ first links ending,
          thrown.SameBeside first ∧
            Attempt.Traced site ⟨site.depth, base, (Reference.parse token).module, world⟩ first links
              ending ∧
            thrown.causes = links.map Prod.snd ++ ending.thrown?.toList ∧
            ∀ link ∈ links, link.1.Reports site link.2 := by
  intro directory
  constructor
  · intro thrown after failed load
    have throws : Attempt.Throws ⟨site.depth, base, token, world⟩ site thrown := ⟨after, failed⟩
    obtain ⟨links, ending, traced⟩ := throws.exists_traced load
    have reports := List.forall_mem_cons.mp traced.reports
    exact ⟨reports.1.labelled, links, ending, traced, traced.causes_eq, reports.2⟩
  · intro thrown after failed load
    have executed : executeToken site (.forSite site) base token world = .error thrown after :=
      Run.bind_eq_error.mpr (.inl failed)
    obtain ⟨first, throws, rfl⟩ := exists_attempt_of_loadReference failed
    have same := first.sameBeside_relabel fun context =>
      { context with handler := some execHandler, token := some token }
    obtain ⟨links, ending, traced⟩ := throws.exists_traced (same.isLoadError_iff.mp load)
    have reports := List.forall_mem_cons.mp traced.reports
    obtain ⟨error, context, reported, isLoad, -, -, located⟩ := reports.1.labelled
    refine ⟨executed,
      ⟨error, _, Thrown.reported?_relabel reported isLoad _, isLoad, rfl, rfl, located⟩, first, links, ending,
      same, traced, same.causes.trans traced.causes_eq, reports.2⟩

/-- A body that requires a module. -/
def requiringBody : List Step :=
  [.require "b" "./b"]

/-- A module that requires one whose body fails reports an error that has the other one's as its cause. -/
theorem requireToken_failingPair :
    ∃ thrown after,
      requireToken (pairSite requiringBody raisingBody) (.forSite (pairSite requiringBody raisingBody))
          "/" "./a" .empty =
        .error thrown after ∧ thrown.IsLoadError ∧ thrown.causes.length = 2 := by
  let site := pairSite requiringBody raisingBody
  have inner :
      Body.run site (.ofDepth site 100) 1 secondFile .cycleNested =
        .error (.raised "RuntimeError" "late") .cycleNested := by
    have read : site.program secondFile = .ok (.steps raisingBody) := program_secondFile _ _
    rw [Body.run_of_program read]
    rfl
  have innerKey : (Aim.ofToken site "/" "./b").key? site = some secondFile := key?_secondFile _ _
  have innerSource : isDocument secondFile = false := by decide
  have innerAbsent : World.cycleBegun.answer? site.registry secondFile = none := by decide
  obtain ⟨cause, required, ordinary, -, caused⟩ :=
    exists_requireToken_of_cause rfl innerKey innerSource innerAbsent inner rfl
  have outer :
      Body.run site (.forSite site) 0 firstFile .cycleBegun =
        .error cause (World.discarded .cycleNested none secondFile "late") := by
    have read : site.program firstFile = .ok (.steps requiringBody) := program_firstFile _ _
    have module : World.cycleBegun.module? 0 = some (freshFileModule firstFile) := rfl
    exact Body.run_of_failed_require read module rfl (directoryText_firstFile.symm ▸ required)
  have source : isDocument firstFile = false := by decide
  have absent : World.empty.answer? site.registry firstFile = none := rfl
  obtain ⟨thrown, failed, -, load, causedBy⟩ :=
    exists_requireToken_of_cause rfl (key?_firstFile _ _) source absent outer ordinary
  refine ⟨thrown, _, failed, load, ?_⟩
  rw [Thrown.causes_of_cause? causedBy, Thrown.causes_of_cause? caused]
  rfl

/-- The error of the module and that of the one it requires have the labels of their attempts. -/
theorem error_of_load_traced_failingPair :
    let site := pairSite requiringBody raisingBody
    ∃ thrown after,
      requireToken site (.forSite site) "/" "./a" .empty = .error thrown after ∧
        thrown.IsLoadError ∧ thrown.IsLabelled requireHandler "./a" "/" ∧
        ∃ links ending,
          Attempt.Traced site ⟨site.depth, "/", "./a", .empty⟩ thrown links ending ∧
            (links.map Prod.snd ++ ending.thrown?.toList).length = 2 ∧
            ∀ link ∈ links, link.1.Reports site link.2 := by
  intro site
  obtain ⟨thrown, after, failed, load, count⟩ := requireToken_failingPair
  obtain ⟨labelled, links, ending, traced, causes, reports⟩ :=
    (error_of_load_traced site "/" "./a" .empty).1 thrown after failed load
  have root : Path.absoluteText site.cwdText "/" = "/" := by decide
  rw [root] at labelled
  exact ⟨thrown, after, failed, load, labelled, links, ending, traced, causes ▸ count, reports⟩

/-! ## A body that requires data nested too deep -/

/-- The call that requires the module. -/
def deepOuter : Attempt :=
  ⟨deepSite.depth, "/", "./a", .empty⟩

/-- The body of the module begins. -/
def deepStart : BodyStart :=
  .ofFile .empty none firstFile

/-- The require of the data in the body of the module. -/
def deepInner : Attempt :=
  ⟨deepSite.depth - 1, "/", "./deep.json", deepStart.world⟩

theorem find_deepModule :
    deepSite.tree.find true deepSite.cwd firstFile =
      .ok (["a.py"], .file (.program (.steps deepBody))) := by
  have spells : FileTree.Spells firstFile ["a.py"] :=
    ⟨by decide, by decide, by decide, by decide⟩
  have entry : deepSite.tree.entry? ["a.py"] = some (.file (.program (.steps deepBody))) := rfl
  exact FileTree.find_of_entry spells (entry?_above_deep "a.py") entry (by simp)

theorem findFile_deepModule :
    deepSite.findFile "/a" = some firstFile := by
  have spells : FileTree.Spells "/a" ["a"] := ⟨by decide, by decide, by decide, by decide⟩
  have bare : deepSite.isFile "/a" = false :=
    FileTree.isFile_of_absent spells (entry?_above_deep "a") rfl
  have listed : candidates "/a" = ["/a", firstFile, "/a.json", "/a/__init__.py"] := rfl
  simp [Site.findFile, listed, bare, Site.isFile_of_find find_deepModule]

theorem key_deepModule :
    deepSite.key firstFile = firstFile :=
  Site.key_of_find find_deepModule (by decide)

theorem aim_deepModule :
    Aim.ofToken deepSite "/" "./a" = .path "/a" := by
  decide

theorem deepInner_throws :
    deepInner.Throws deepSite (.document (.tooDeep .array)) :=
  ⟨_, requireToken_deepFile rfl _⟩

theorem deepOuter_nests :
    deepOuter.Nests deepSite deepInner := by
  have source : isDocument (deepSite.key firstFile) = false := by
    rw [key_deepModule]
    decide
  have absent : World.empty.answer? deepSite.registry (deepSite.key firstFile) = none := rfl
  have begins :
      deepOuter.Begins deepSite (.ofFile .empty deepSite.registry (deepSite.key firstFile)) :=
    .file aim_deepModule findFile_deepModule source absent
  rw [key_deepModule] at begins
  have read :
      deepSite.program firstFile = .ok (.steps ([] ++ .require "data" "./deep.json" :: [])) :=
    Site.program_of_find find_deepModule
  have reaches :
      deepStart.Reaches deepSite (.ofDepth deepSite 101) (.require "data" "./deep.json")
        deepStart.world :=
    .intro read rfl
  have beside : deepStart.world.baseOf deepStart.self = "/" := directoryText_firstFile
  have makes := Makes.require reaches
  rw [beside] at makes
  exact ⟨deepStart, begins, makes⟩

/-- The error of the module has the failure of its data as its cause. -/
theorem requireToken_deepModule :
    ∃ thrown after,
      requireToken deepSite (.forSite deepSite) "/" "./a" .empty = .error thrown after ∧
        thrown.IsLoadError ∧ thrown.cause? = some (.document (.tooDeep .array)) := by
  have resolved : (Aim.ofToken deepSite "/" "./a").key? deepSite = some firstFile := by
    rw [aim_deepModule, Aim.key?_path findFile_deepModule, key_deepModule]
  have source : isDocument firstFile = false := by decide
  have absent : World.empty.answer? deepSite.registry firstFile = none := rfl
  have ran :
      Body.run deepSite (.forSite deepSite) 0 firstFile deepStart.world =
        .error (.document (.tooDeep .array)) (deepStart.world.note (.asked none deepFile none)) := by
    have read : deepSite.program firstFile = .ok (.steps deepBody) :=
      Site.program_of_find find_deepModule
    have module : deepStart.world.module? 0 = some (freshFileModule firstFile) := rfl
    refine Body.run_of_failed_require read module rfl ?_
    rw [directoryText_firstFile]
    exact requireToken_deepFile rfl _
  obtain ⟨thrown, failed, -, load, caused⟩ :=
    exists_requireToken_of_cause rfl resolved source absent ran rfl
  exact ⟨thrown, _, failed, load, caused⟩

/-- A failed load in a body does not always report an error of its own to the load around it. -/
theorem deepSite_unreported :
    ¬∀ (site : Site) (base token : String) (world after : World) (thrown : Thrown),
      requireToken site (.forSite site) base token world = .error thrown after →
        thrown.IsLoadError → ∀ inner cause, Attempt.Nests site ⟨site.depth, base, token, world⟩ inner →
          inner.Throws site cause → thrown.cause? = some cause → cause.IsLoadError := by
  intro claim
  obtain ⟨thrown, after, failed, load, caused⟩ := requireToken_deepModule
  exact Thrown.not_isLoadError_of_reported? rfl
    (claim deepSite "/" "./a" .empty after thrown failed load deepInner _ deepOuter_nests
      deepInner_throws caused)

end Module

end ConfigTokens
