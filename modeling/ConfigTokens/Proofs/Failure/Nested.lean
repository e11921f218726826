import ConfigTokens.Proofs.Run.Layer
/-!
# Loads that a body makes

The body of a module requires and imports, an import begins the bodies of other modules, and these require
in turn. `Makes` is the relation of a body that begins to the requires that are made for it, each with the
world in which it is made. Whatever ends the body is its own, or what one of these requires has thrown.
-/

namespace ConfigTokens

namespace Thrown

/-- A failure that a body or an import raises by itself, and not for what it loads. -/
def isOwn : Thrown → Bool
  | .raised .. | .invalidSource _ | .unknownName _ | .unknownAttribute .. | .importing _
  | .unreadable .. | .tooDeep => true
  | _ => false

theorem isOwn_of_request
    {thrown : Thrown}
    (request : thrown.isOrdinary = false) :
    thrown.isOwn = true := by
  cases thrown with
  | raised className text => rfl
  | _ => cases request

/-- A body's own failure is no error of a handler. -/
theorem reported?_of_isOwn
    {thrown : Thrown}
    (own : thrown.isOwn = true) :
    thrown.reported? = none := by
  cases thrown with
  | reported => cases own
  | chained => cases own
  | _ => rfl

end Thrown

namespace Module

variable
    {site : Site}
    {loader : Loader}
    {world : World}

/-! ## What is thrown from a world -/

namespace Run

variable
    {α β : Type}
    {allowed : Thrown → Prop}

theorem exists_of_discard_eq_ok
    {run : Run α}
    {world middle : World}
    {nothing : PUnit}
    (ended : discard run world = .ok nothing middle) :
    ∃ value, run world = .ok value middle := by
  change EStateM.map _ run world = _ at ended
  unfold EStateM.map at ended
  split at ended
  case h_1 value after early =>
      cases ended
      exact ⟨value, early⟩
  case h_2 => cases ended

/-- Whatever a computation throws that starts in a world is allowed. -/
structure ThrowsOnly
    (run : Run α)
    (world : World)
    (allowed : Thrown → Prop) : Prop where
  of_error : ∀ {thrown final}, run world = .error thrown final → allowed thrown

namespace ThrowsOnly

theorem pure
    (value : α) :
    (Pure.pure value : Run α).ThrowsOnly world allowed :=
  ⟨nofun⟩

theorem throw
    {thrown : Thrown}
    (fine : allowed thrown) :
    (MonadExcept.throw thrown : Run α).ThrowsOnly world allowed where
  of_error ended := by
    cases ended
    exact fine

theorem bind
    {run : Run α}
    {next : α → Run β}
    (first : run.ThrowsOnly world allowed)
    (second :
      ∀ value middle, run world = .ok value middle → (next value).ThrowsOnly middle allowed) :
    (run >>= next).ThrowsOnly world allowed where
  of_error ended := by
    rcases bind_eq_error.mp ended with early | ⟨value, middle, early, late⟩
    · exact first.of_error early
    · exact (second value middle early).of_error late

/-- After a computation that returns, only the rest can throw. -/
theorem bind_of_ok
    {run : Run α}
    {next : α → Run β}
    {middle : World}
    {value : α}
    (ended : run world = .ok value middle)
    (rest : (next value).ThrowsOnly middle allowed) :
    (run >>= next).ThrowsOnly world allowed where
  of_error failed := by
    rw [Run.bind_of_ok ended] at failed
    exact rest.of_error failed

theorem map
    {run : Run α}
    (first : run.ThrowsOnly world allowed)
    (change : α → β) :
    (change <$> run).ThrowsOnly world allowed := by
  rw [map_eq_pure_bind]
  exact first.bind fun value _ _ => pure _

theorem foldlM
    {step : β → α → Run β}
    (first : ∀ state item world, (step state item).ThrowsOnly world allowed)
    (items : List α)
    (start : β) :
    (items.foldlM step start).ThrowsOnly world allowed := by
  induction items generalizing start world with
  | nil => exact pure start
  | cons item rest later =>
      rw [List.foldlM_cons]
      exact (first start item world).bind fun value _ _ => later value

theorem of_keeps
    {run : Run α}
    {promise : Promise}
    (kept : run.Keeps promise)
    (fine : ∀ thrown, promise.throws thrown → allowed thrown) :
    run.ThrowsOnly world allowed where
  of_error ended := fine _ (kept.throws_of_error ended)

end ThrowsOnly

end Run

/-! ## Bodies that imports begin -/

/-- A body that begins: the module that it runs for, its file, and the world. -/
structure BodyStart where
  self : ObjectId
  file : String
  world : World

namespace BodyStart

/-- Runs the body. -/
def run
    (start : BodyStart)
    (site : Site)
    (loader : Loader) : Run Unit :=
  Body.run site loader start.self start.file

/-- The start of the body of a file that a registry has no answer for. -/
def ofFile
    (world : World)
    (registry : RegistryName)
    (file : String) : BodyStart :=
  ⟨world.objects.size, file, (world.note (.asked registry file none)).opened registry file⟩

/-- The start of a body for what an import has found. -/
def ofImport
    (world : World)
    (name parent file : String)
    (target : ImportTarget) : BodyStart :=
  ⟨world.objects.size, file,
    (world.withFound name parent target).marked world.objects.size true⟩

end BodyStart

/-- An import of a module, by the parts of its name, gets as far as the modules above it. -/
inductive ImportsAbove
    (site : Site)
    (loader : Loader)
    (above : List String)
    (world : World) : World → Prop
  | tabled {holder : ObjectId} :
    world.table.lookup (nameOfParts above) = some holder → ImportsAbove site loader above world world
  | imported {id : ObjectId} {middle : World} :
    world.table.lookup (nameOfParts above) = none →
      importParts site loader above world = .ok id middle →
        ImportsAbove site loader above world middle

/-- An import of a module, by the parts of its name, begins a body: its own, or that of a module above it. -/
inductive ImportBegins
    (site : Site)
    (loader : Loader) : List String → World → BodyStart → Prop
  | top {last file : String} {above : List String} {world : World} {target : ImportTarget} :
    world.table.lookup (nameOfParts (last :: above)) = none → nameOfParts above = "" →
      site.findImport site.importRoot last = some target → target.file? = some file →
        ImportBegins site loader (last :: above) world
          (.ofImport world (nameOfParts (last :: above)) (nameOfParts above) file target)
  | above {last : String} {above : List String} {world : World} {start : BodyStart} :
    world.table.lookup (nameOfParts (last :: above)) = none → nameOfParts above ≠ "" →
      world.table.lookup (nameOfParts above) = none → ImportBegins site loader above world start →
        ImportBegins site loader (last :: above) world start
  | beneath {last directory file : String} {above : List String} {world middle : World}
      {holder : ObjectId} {target : ImportTarget} :
    world.table.lookup (nameOfParts (last :: above)) = none → nameOfParts above ≠ "" →
      ImportsAbove site loader above world middle →
        middle.table.lookup (nameOfParts (last :: above)) = none →
          middle.table.lookup (nameOfParts above) = some holder →
            (middle.moduleAt holder).searchPath = some directory →
              site.findImport directory last = some target → target.file? = some file →
                ImportBegins site loader (last :: above) world
                  (.ofImport middle (nameOfParts (last :: above)) (nameOfParts above) file target)

/-- An import of a full name begins a body. -/
def NameBegins
    (site : Site)
    (loader : Loader)
    (name : String)
    (world : World)
    (start : BodyStart) : Prop :=
  name ≠ "" ∧ ImportBegins site loader (nameParts name) world start

/-! ## What imports throw -/

section Imports

variable
    {allowed : Thrown → Prop}
    (own : ∀ {thrown : Thrown}, thrown.isOwn = true → allowed thrown)

include own in
theorem tabledOf_throwsOnly
    (name : String) :
    (Run.tabledOf name).ThrowsOnly world allowed := by
  refine .bind_of_ok (Run.tabled?_apply name world) ?_
  split
  · exact .pure _
  · exact .throw (own rfl)

include own in
theorem importTarget_throwsOnly
    {name parent : String}
    {target : ImportTarget}
    (bodies :
      ∀ file, target.file? = some file →
        let start := BodyStart.ofImport world name parent file target
        (start.run site loader).ThrowsOnly start.world allowed) :
    (importTarget site loader name parent target).ThrowsOnly world allowed where
  of_error ended := by
    rw [importTarget_apply] at ended
    split at ended
    case h_1 => cases ended
    case h_2 file bodied =>
        split at ended
        case h_1 _ middle _ =>
            split at ended
            case h_1 => cases ended
            case h_2 =>
                cases ended
                exact own rfl
        case h_2 cause middle failed =>
            cases ended
            exact (bodies file bodied).of_error failed

include own in
theorem importIn_throwsOnly
    {directory last name parent : String}
    (bodies :
      ∀ target file, site.findImport directory last = some target → target.file? = some file →
        let start := BodyStart.ofImport world name parent file target
        (start.run site loader).ThrowsOnly start.world allowed) :
    (importIn site loader directory last name parent).ThrowsOnly world allowed := by
  unfold importIn
  split
  case h_1 target found =>
      exact importTarget_throwsOnly own fun file bodied => bodies target file found bodied
  case h_2 => exact .throw (own rfl)

include own in
theorem checkSearch_throwsOnly
    (content : ModuleObject)
    (parts : List String) :
    (checkSearch content parts).ThrowsOnly world allowed := by
  fun_induction checkSearch content parts with
  | case1 content last next rest bare parent ih =>
      refine .bind_of_ok (Run.tabled?_apply _ world) ?_
      split
      · exact .throw (own rfl)
      · refine .bind_of_ok (Run.moduleOf_apply _ world) ?_
        dsimp only
        split
        · refine .bind_of_ok (Run.get_apply world) (.bind (.throw (own rfl)) ?_)
          intro _ _ ended
          cases ended
        · exact ih _
  | case2 => exact .pure _
  | case3 => exact .pure _

include own in
theorem searchBelow_throwsOnly
    {last name : String}
    {above : List String}
    {content : ModuleObject}
    (bodies :
      ∀ directory target file, content.searchPath = some directory →
        site.findImport directory last = some target → target.file? = some file →
          let start := BodyStart.ofImport world name (nameOfParts above) file target
          (start.run site loader).ThrowsOnly start.world allowed) :
    (searchBelow site loader last name above content).ThrowsOnly world allowed := by
  unfold searchBelow
  cases searches : content.searchPath with
  | none => exact .throw (own rfl)
  | some directory =>
      refine .bind (checkSearch_throwsOnly own _ _) fun _ middle ended => ?_
      -- The check has changed nothing, so the body begins in the world of before.
      obtain rfl : world = middle :=
        (Regime.checkSearch_reads _ above world).symm.trans (Run.final_of_ok ended)
      exact importIn_throwsOnly own fun target file found bodied =>
        bodies directory target file searches found bodied

include own in
theorem importBelow_throwsOnly
    {last : String}
    {above : List String}
    (bodies :
      ∀ holder directory target file,
        world.table.lookup (nameOfParts (last :: above)) = none →
          world.table.lookup (nameOfParts above) = some holder →
            (world.moduleAt holder).searchPath = some directory →
              site.findImport directory last = some target → target.file? = some file →
                let start :=
                  BodyStart.ofImport world (nameOfParts (last :: above)) (nameOfParts above) file target
                (start.run site loader).ThrowsOnly start.world allowed) :
    (importBelow site loader last (nameOfParts (last :: above)) above).ThrowsOnly world allowed := by
  refine .bind_of_ok (Run.tabled?_apply _ world) ?_
  cases absent : world.table.lookup (nameOfParts (last :: above)) with
  | some id => exact .pure _
  | none =>
      dsimp only
      cases tabled : world.table.lookup (nameOfParts above) with
      | none =>
          refine .bind (tabledOf_throwsOnly own _) fun _ _ ended => ?_
          cases (Run.tabledOf_of_none tabled).symm.trans ended
      | some holder =>
          refine .bind_of_ok (Run.tabledOf_of_some tabled) ?_
          refine .bind_of_ok (Run.moduleOf_apply holder world) (.bind ?_ fun id after _ => ?_)
          · exact searchBelow_throwsOnly own fun directory target file searches found bodied =>
              bodies holder directory target file absent tabled searches found bodied
          · refine .bind (.bind (tabledOf_throwsOnly own _) fun above later _ => ?_) fun _ _ _ => .pure _
            exact ⟨nofun⟩

include own in
/-- An import throws what is its own, or what ends one of the bodies that it begins. -/
theorem importParts_throwsOnly
    {parts : List String}
    (bodies :
      ∀ start, ImportBegins site loader parts world start →
        (start.run site loader).ThrowsOnly start.world allowed) :
    (importParts site loader parts).ThrowsOnly world allowed := by
  induction parts generalizing world with
  | nil => exact .throw (own rfl)
  | cons last above upper =>
      refine .bind_of_ok (Run.tabled?_apply _ world) ?_
      cases absent : world.table.lookup (nameOfParts (last :: above)) with
      | some id => exact .pure _
      | none =>
          dsimp only
          split
          case isTrue top =>
              exact importIn_throwsOnly own fun target file found bodied =>
                bodies _ (.top absent top found bodied)
          case isFalse inner =>
              have beneath
                  {middle : World} (reached : ImportsAbove site loader above world middle) :
                  (importBelow site loader last (nameOfParts (last :: above)) above).ThrowsOnly middle
                    allowed :=
                importBelow_throwsOnly own
                  fun holder directory target file still tabled searches found bodied =>
                    bodies _ (.beneath absent inner reached still tabled searches found bodied)
              refine .bind_of_ok (Run.tabled?_apply _ world) ?_
              cases tabled : world.table.lookup (nameOfParts above) with
              | some holder => exact beneath (.tabled tabled)
              | none =>
                  have first := upper fun start begins => bodies start (.above absent inner tabled begins)
                  refine .bind (first.map _) fun _ middle ended => ?_
                  obtain ⟨id, imported⟩ := Run.exists_of_discard_eq_ok ended
                  exact beneath (.imported tabled imported)

include own in
theorem importModule_throwsOnly
    {name : String}
    (bodies :
      ∀ start, NameBegins site loader name world start →
        (start.run site loader).ThrowsOnly start.world allowed) :
    (importModule site loader name).ThrowsOnly world allowed := by
  unfold importModule
  split
  case isTrue => exact .throw (own rfl)
  case isFalse named =>
      exact importParts_throwsOnly own fun start begins => bodies start ⟨named, begins⟩

include own in
theorem importAbsolute_throwsOnly
    {name : String}
    (bodies :
      ∀ start, name.toList.head? ≠ some '.' → NameBegins site loader name world start →
        (start.run site loader).ThrowsOnly start.world allowed) :
    (importAbsolute site loader name).ThrowsOnly world allowed := by
  unfold importAbsolute
  split
  case isTrue => exact .throw (own rfl)
  case isFalse absolute =>
      exact importModule_throwsOnly own fun start begins => bodies start absolute begins

end Imports

/-! ## What bodies throw -/

/-- The directory beside which a module requires. -/
def World.baseOf
    (world : World)
    (self : ObjectId) : String :=
  Path.directoryText ((world.moduleAt self).file?.getD "")

/-- A step imports a module by its full name in the world to which it has come. -/
inductive Step.Imports
    (loader : Loader)
    (self : ObjectId)
    (world : World) : Step → String → World → Prop
  | source {name source member : String} :
    (world.moduleAt self).package ≠ "" →
      Imports loader self world (.fromImport name source member)
        ((world.moduleAt self).package ++ "." ++ source) world
  | member {name source member : String} {id : ObjectId} {middle : World} :
    (world.moduleAt self).package ≠ "" →
      loader.importModule ((world.moduleAt self).package ++ "." ++ source) world = .ok id middle →
        (middle.moduleAt id).searchPath.isSome = true → attribute? middle (.module id) member = none →
          Imports loader self world (.fromImport name source member)
            ((middle.moduleAt id).name ++ "." ++ member) middle

/-- A body that begins gets as far as a step, which it then runs in a world. -/
inductive BodyStart.Reaches
    (site : Site)
    (loader : Loader)
    (start : BodyStart) : Step → World → Prop
  | intro {before rest : List Step} {step : Step} {reached : World} :
    site.program start.file = .ok (.steps (before ++ step :: rest)) →
      Body.runSteps loader start.self before start.world = .ok () reached →
        Reaches site loader start step reached

/-- That a program cannot be read is the body's own failure. -/
theorem Site.isOwn_of_program
    {file : String}
    {thrown : Thrown}
    (unread : site.program file = .error thrown) :
    thrown.isOwn = true := by
  unfold Site.program at unread
  split at unread
  case h_1 =>
      cases unread
      rfl
  case h_2 => cases unread
  case h_3 => split at unread <;> cases unread

section Bodies

variable
    {self : ObjectId}
    {allowed : Thrown → Prop}
    (own : ∀ {thrown : Thrown}, thrown.isOwn = true → allowed thrown)

/-- What makes objects and throws nothing. -/
def Promise.silent : Promise where
  moves _ _ := True
  throws _ := False
  refl _ := trivial
  trans _ _ := trivial

theorem Promise.silent_admitsObjects :
    Promise.silent.AdmitsObjects :=
  ⟨fun _ _ => trivial, fun _ _ _ => trivial, fun _ _ => trivial⟩

theorem setGlobal_throwsOnly
    (name : String)
    (value : Value) :
    (Run.setGlobal self name value).ThrowsOnly world allowed where
  of_error ended := by cases ended

include own in
theorem global_throwsOnly
    (name : String) :
    (Body.global self name).ThrowsOnly world allowed := by
  refine .bind_of_ok (Run.moduleOf_apply self world) ?_
  split
  · exact .pure _
  · exact .throw (own rfl)

include own in
theorem member_throwsOnly
    (value : Value)
    (name : String) :
    (Body.member value name).ThrowsOnly world allowed := by
  refine .bind_of_ok (Run.get_apply world) ?_
  split
  · exact .pure _
  · exact .throw (own rfl)

theorem require_throwsOnly
    {token : String}
    (required : (loader.require (world.baseOf self) token).ThrowsOnly world allowed) :
    (Body.require loader self token).ThrowsOnly world allowed := by
  refine .bind_of_ok (Run.moduleOf_apply self world) ?_
  refine .bind required fun answer middle _ => ?_
  exact .bind_of_ok rfl (.pure _)

include own in
/-- Only a request to end gets past a require whose failure becomes a code. -/
theorem tryRequire_throwsOnly
    (token : String) :
    (Body.tryRequire loader self token).ThrowsOnly world allowed where
  of_error ended := by
    rcases Run.tryCatch_eq_error.mp ended with ⟨first, middle, -, handled⟩
    split at handled
    case isTrue => cases handled
    case isFalse request =>
        cases handled
        exact own (Thrown.isOwn_of_request ((Bool.not_eq_true _).mp request))

theorem importMember_throwsOnly
    {name : String}
    (imported : (loader.importModule name).ThrowsOnly world allowed) :
    (Body.importMember loader name).ThrowsOnly world allowed where
  of_error ended := by
    rcases Run.tryCatch_eq_error.mp ended with ⟨first, middle, early, handled⟩
    have allows := (imported.map _).of_error early
    split at handled
    case h_1 =>
        split at handled
        case isTrue => cases handled
        case isFalse =>
            cases handled
            exact allows
    case h_2 =>
        cases handled
        exact allows

include own in
theorem importedMember_throwsOnly
    {id : ObjectId}
    {name : String}
    (imported :
      (world.moduleAt id).searchPath.isSome = true → attribute? world (.module id) name = none →
        (loader.importModule ((world.moduleAt id).name ++ "." ++ name)).ThrowsOnly world allowed) :
    (Body.importedMember loader id name).ThrowsOnly world allowed := by
  have found (content : ModuleObject) (world : World) :
      (Body.attributeOrSubmodule id content name).ThrowsOnly world allowed := by
    refine .bind_of_ok (Run.get_apply world) ?_
    split
    · exact .pure _
    · refine .bind_of_ok (Run.tabled?_apply _ world) ?_
      split
      · exact .pure _
      · exact .throw (own rfl)
  refine .bind_of_ok (Run.moduleOf_apply id world) ?_
  refine .bind_of_ok (Run.get_apply world) ?_
  dsimp only
  split
  case isTrue asked =>
      rw [Bool.and_eq_true, Option.isNone_iff_eq_none] at asked
      refine .bind ?_ fun _ middle _ => found _ middle
      exact importMember_throwsOnly (imported asked.1 asked.2)
  case isFalse => exact found _ world

include own in
theorem fromImport_throwsOnly
    {name source member : String}
    (imports :
      ∀ full reached, (Step.fromImport name source member).Imports loader self world full reached →
        (loader.importModule full).ThrowsOnly reached allowed) :
    (Body.fromImport loader self source member).ThrowsOnly world allowed := by
  refine .bind_of_ok (Run.moduleOf_apply self world) ?_
  dsimp only
  split
  case isTrue =>
      refine .bind (.throw (own rfl)) fun _ _ ended => ?_
      cases ended
  case isFalse package =>
      refine .bind (imports _ _ (.source package)) fun id middle ended => ?_
      exact importedMember_throwsOnly own fun searched missing =>
        imports _ _ (.member package ended searched missing)

include own in
/-- A step throws what is its own, or what is thrown where it requires or imports. -/
theorem runStep_throwsOnly
    {step : Step}
    (requires :
      ∀ name token, step = .require name token →
        (loader.require (world.baseOf self) token).ThrowsOnly world allowed)
    (imports :
      ∀ full reached, step.Imports loader self world full reached →
        (loader.importModule full).ThrowsOnly reached allowed) :
    (Body.runStep loader self step).ThrowsOnly world allowed := by
  have sets (name : String) (value : Value) (world : World) :
      (Run.setGlobal self name value).ThrowsOnly world allowed :=
    setGlobal_throwsOnly name value
  cases step with
  | assign name literal =>
      have built : (literal.build).ThrowsOnly world allowed :=
        .of_keeps (literal.build_keeps Promise.silent_admitsObjects) fun _ => False.elim
      exact built.bind fun value middle _ => sets name value middle
  | log text => exact ⟨nofun⟩
  | raise className text => exact .throw (own rfl)
  | require name token =>
      exact (require_throwsOnly (requires name token rfl)).bind fun value middle _ =>
        sets name value middle
  | tryRequire name token =>
      exact (tryRequire_throwsOnly own token).bind fun value middle _ => sets name value middle
  | peek name owner member =>
      refine (global_throwsOnly own owner).bind fun value middle _ => ?_
      exact .bind_of_ok (Run.get_apply middle) (sets name _ middle)
  | copy name source members =>
      refine (global_throwsOnly own source).bind fun start middle _ => ?_
      have walked : (members.foldlM Body.member start).ThrowsOnly middle allowed :=
        .foldlM (fun value member _ => member_throwsOnly own value member) members start
      exact walked.bind fun value after _ => sets name value after
  | fromImport name source member =>
      exact (fromImport_throwsOnly own imports).bind fun value middle _ => sets name value middle
  | mention name => exact (global_throwsOnly own name).map _

include own in
theorem runSteps_throwsOnly
    {start : BodyStart}
    (requires :
      ∀ name token reached, start.Reaches site loader (.require name token) reached →
        (loader.require (reached.baseOf start.self) token).ThrowsOnly reached allowed)
    (imports :
      ∀ step full world reached, start.Reaches site loader step world →
        step.Imports loader start.self world full reached →
          (loader.importModule full).ThrowsOnly reached allowed)
    {before after : List Step}
    (read : site.program start.file = .ok (.steps (before ++ after)))
    (ran : Body.runSteps loader start.self before start.world = .ok () world) :
    (Body.runSteps loader start.self after).ThrowsOnly world allowed := by
  induction after generalizing before world with
  | nil => exact .pure _
  | cons step rest later =>
      have reaches : start.Reaches site loader step world := .intro read ran
      have stepped : (Body.runStep loader start.self step).ThrowsOnly world allowed := by
        refine runStep_throwsOnly own ?_ fun full reached imported =>
          imports step full world reached reaches imported
        rintro name token rfl
        exact requires name token world reaches
      refine stepped.bind fun _ middle ended => ?_
      have further : Body.runSteps loader start.self (before ++ [step]) start.world = .ok () middle := by
        rw [Body.runSteps_append_of_ok ran, Body.runSteps_cons_of_ok ended]
        rfl
      exact later (List.append_cons before step rest ▸ read) further

include own in
/-- A body throws what is its own, or what is thrown where a step that it reaches requires or imports. -/
theorem BodyStart.run_throwsOnly
    {start : BodyStart}
    (requires :
      ∀ name token reached, start.Reaches site loader (.require name token) reached →
        (loader.require (reached.baseOf start.self) token).ThrowsOnly reached allowed)
    (imports :
      ∀ step full world reached, start.Reaches site loader step world →
        step.Imports loader start.self world full reached →
          (loader.importModule full).ThrowsOnly reached allowed) :
    (start.run site loader).ThrowsOnly start.world allowed := by
  unfold run Body.run
  split
  case h_1 thrown unread => exact .throw (own (Site.isOwn_of_program unread))
  case h_2 => exact .throw (own rfl)
  case h_3 steps read =>
      exact runSteps_throwsOnly own requires imports (List.nil_append steps ▸ read) rfl

end Bodies

end Module

end ConfigTokens
