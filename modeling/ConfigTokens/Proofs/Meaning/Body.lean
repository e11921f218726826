import ConfigTokens.Proofs.Meaning.View
import ConfigTokens.Proofs.Run.Regime
/-!
# Bodies do what their makings say

A body that imports nothing realises its making, step by step, if the loads that it starts give what the
files mean. What it reads are globals of modules that it has made or that are loaded to their end, and
what it changes is its own module only.
-/

namespace ConfigTokens.Module

/--
A load in a faithful world gives what is meant, or fails with the failure that is meant, and leaves a
faithful world that it has extended; or else it reaches a body under way.
-/
inductive World.Gives
    (world : World)
    (site : Site)
    (origin : Nat)
    (under : List String)
    (known : Pairing)
    (meaning? : Option (Meaning Export))
    (load : Run Export) : Prop where
  | ok {answer meant : Export} {files : List String} (final : World) (later : Pairing) :
      meaning? = some ⟨.ok meant, files⟩ → load world = .ok answer final →
        final.Faithful site origin under later → world.Extends final site known later files →
          answer.Alike later meant → Gives world site origin under known meaning? load
  | error {thrown : Thrown} {files : List String} (final : World) (later : Pairing) :
      meaning? = some ⟨.error thrown, files⟩ → load world = .error thrown final →
        final.Faithful site origin under later → world.Extends final site known later files →
          Gives world site origin under known meaning? load
  | reenters :
      Reenters site.registry ((load.final world).eventsSince origin) →
        Gives world site origin under known meaning? load

/-- The loads of files by a loader give in faithful worlds what the files mean. -/
def Loader.Gives
    (loader : Loader)
    (site : Site)
    (origin : Nat)
    (under : List String) : Prop :=
  ∀ {world : World} {known : Pairing} (base : String) {token : String},
    isFileReference token = true → world.Faithful site origin under known →
      world.Gives site origin under known (site.tokenMeaning? site.meaning? base token)
        (loader.require base token)

variable
    {site : Site}
    {origin : Nat}
    {under : List String}
    {file : String}
    {start : World}
    {before : Pairing}

namespace View

/-! ## Values -/

theorem allocate_realises
    (view : View site origin under file start before)
    {object partner : Object}
    (alike : object.Alike view.pairs partner) :
    Run.Realises view (fun pairs id other => pairs id other) (Run.allocate object)
      (Making.allocate file partner) :=
  .ok (view.push alike) (view.grows_push alike) rfl rfl (.inr ⟨_, .inr ⟨rfl, rfl⟩, rfl⟩)

theorem newModule_realises
    (view : View site origin under file start before)
    {content other : ModuleObject}
    (alike : content.Alike view.pairs other) :
    Run.Realises view Value.Alike
      (do
        let id ← Run.allocate (.module content)
        return .module id)
      (do
        let id ← Making.allocate file (.module other)
        return .module id) :=
  (view.allocate_realises (.module alike)).bind (fun _ => .pure _) fun _ _ paired =>
    .pure (.module paired)

mutual

theorem build_realises :
    (literal : Literal) → (view : View site origin under file start before) →
      Run.Realises view Value.Alike literal.build (Making.build file literal)
  | .null, _ => .pure .null
  | .bool value, _ => .pure (.bool value)
  | .int value, _ => .pure (.int value)
  | .float value, _ => .pure (.float value)
  | .str value, _ => .pure (.str value)
  | .bytes value, _ => .pure (.bytes value)
  | .list items, view =>
      (buildItems_realises items view).bind (fun _ => .pure _) fun _ _ alike =>
        .pure (.list alike)
  | .mapping members, view =>
      (buildMembers_realises members view).bind (fun _ => .pure _) fun _ _ alike =>
        .pure (.mapping alike)
  | .function log outcome, view =>
      (view.allocate_realises (.function ⟨log, outcome⟩)).bind (fun _ => .pure _) fun _ _ paired =>
        .pure (.function paired)
  | .answering answer, view =>
      (build_realises answer view).bind (fun _ => .pure _) fun _ _ alike => .pure (.answering alike)
  | .classType name, _ => .pure (.classType name)
  | .record attributes, view =>
      (buildMembers_realises attributes view).bind (fun _ => .pure _) fun _ _ alike =>
        .pure (.record alike)
  | .module globals, view =>
      have admits := (@Promise.history_admits False site False.elim).toAdmitsObjects
      (buildMembers_realises globals view).bind
        (fun _ => (Run.allocate_keeps admits _).bind fun _ => .pure _)
        fun middle _ alike =>
          have begun :=
            ModuleObject.alike_fresh middle.pairs Literal.looseModuleName none "" none
          middle.newModule_realises ⟨begun.globals.foldl_put alike, rfl, rfl, rfl⟩

theorem buildItems_realises :
    (items : List Literal) → (view : View site origin under file start before) →
      Run.Realises view Value.AlikeItems (Literal.buildItems items) (Making.buildItems file items)
  | [], _ => .pure .nil
  | item :: rest, view =>
      have admits := (@Promise.history_admits False site False.elim).toAdmitsObjects
      (build_realises item view).bind
        (fun _ => (Literal.buildItems_keeps admits rest).bind fun _ => .pure _)
        fun middle _ first =>
          (buildItems_realises rest middle).bind (fun _ => .pure _) fun _ grown alike =>
            .pure (.cons (first.mono grown) alike)

theorem buildMembers_realises :
    (members : List (String × Literal)) → (view : View site origin under file start before) →
      Run.Realises view Value.AlikeMembers (Literal.buildMembers members)
        (Making.buildMembers file members)
  | [], _ => .pure .nil
  | (name, member) :: rest, view =>
      have admits := (@Promise.history_admits False site False.elim).toAdmitsObjects
      (build_realises member view).bind
        (fun _ => (Literal.buildMembers_keeps admits rest).bind fun _ => .pure _)
        fun middle _ first =>
          (buildMembers_realises rest middle).bind (fun _ => .pure _) fun _ grown alike =>
            .pure (.cons name (first.mono grown) alike)

end

variable
    (view : View site origin under file start before)

/-! ## Reading -/

theorem global_realises
    (name : String) :
    Run.Realises view Value.Alike (Body.global start.objects.size name)
      (Making.own (Body.global 0 name)) := by
  have found := view.moduleAt_alike.globals.lookup name
  have left := Body.global_apply start.objects.size name view.world
  have right := Body.global_apply 0 name view.draft.own
  generalize (view.world.moduleAt start.objects.size).globals.lookup name = value at found left
  generalize (view.draft.own.moduleAt 0).globals.lookup name = other at found right
  cases found with
  | none =>
      refine .error view id left ?_
      unfold Making.own
      rw [right]
  | some alike =>
      refine .ok view id left ?_ alike
      unfold Making.own
      rw [right]

/-- What is read of a value in a world is read in its scene. -/
theorem exists_scene
    {value other : Value}
    (alike : value.Alike view.pairs other) :
    ∃ scene,
      Making.scene site.meaning? file other view.draft = some (.ok scene, view.draft) ∧
        (∀ name,
          Option.Rel (Value.Alike view.pairs) (attribute? view.world value name)
            (attribute? scene other name)) ∧
        attributeOwner view.world value = attributeOwner scene other := by
  have given := alike.typeAttribute?_rel
  have named := alike.typeName_eq
  cases alike with
  | module paired =>
      rename_i _ place
      obtain ⟨object, partner, found, meant, same⟩ := view.exists_object paired
      have modules := same.module?_rel found (World.getElem?_holding place partner)
      refine ⟨_, ?_, attribute?_rel_of_module? modules paired, attributeOwner_eq_of_module? modules⟩
      unfold Making.scene
      dsimp only
      rw [meant]
      rfl
  | record attributes => exact ⟨_, rfl, recordAttribute?_rel attributes, rfl⟩
  | bound name owner => exact ⟨_, rfl, given, congrArg AttributeOwner.instanceOf named⟩
  | _ => exact ⟨_, rfl, given, rfl⟩

theorem member_realises
    {value other : Value}
    (alike : value.Alike view.pairs other)
    (name : String) :
    Run.Realises view Value.Alike (Body.member value name)
      (Making.member site.meaning? file other name) := by
  obtain ⟨scene, shown, found, owner⟩ := view.exists_scene alike
  refine .bind_of_ok (Run.get_apply view.world) shown ?_
  have found := found name
  generalize attribute? view.world value name = left at found
  generalize attribute? scene other name = right at found
  cases found with
  | none =>
      dsimp only
      rw [owner]
      exact .throw _
  | some same => exact .pure same

theorem members_realise
    (view : View site origin under file start before)
    {value other : Value}
    (alike : value.Alike view.pairs other)
    (members : List String) :
    Run.Realises view Value.Alike (members.foldlM Body.member value)
      (members.foldlM (Making.member site.meaning? file) other) := by
  have admits := @Promise.history_admits False site False.elim
  induction members generalizing view value other with
  | nil => exact .pure alike
  | cons member rest ih =>
      rw [List.foldlM_cons, List.foldlM_cons]
      refine (view.member_realises alike member).bind (fun value => ?_)
        fun middle _ found => ih middle found
      exact .foldlM (Body.member_keeps admits) rest value

/-! ## Steps -/

/-- The results carry nothing. -/
abbrev Done
    (_ : Pairing)
    (_ _ : Unit) : Prop :=
  True

theorem setGlobal_realises
    (name : String)
    {value other : Value}
    (alike : value.Alike view.pairs other) :
    Run.Realises view Done (Run.setGlobal start.objects.size name value)
      (Making.setGlobal name other) :=
  .ok (view.setGlobal name alike) id rfl rfl trivial

theorem keeps_setGlobal
    (site : Site)
    (id : ObjectId)
    (name : String)
    (value : Value) :
    (Run.setGlobal id name value).Keeps (.history False) :=
  Run.changeModule_keeps (@Promise.history_admits False site False.elim).toAdmitsObjects id _

section Loads

variable
    {loader : Loader}
    (gives : loader.Gives site origin (file :: under))

include gives

/-- What the body requires. -/
theorem require_realises
    {token : String}
    (reference : isFileReference token = true) :
    Run.Realises view Value.Alike (Body.require loader start.objects.size token)
      (Making.require site site.meaning? token) := by
  have place :
      (view.world.moduleAt start.objects.size).file? = (view.draft.own.moduleAt 0).file? :=
    view.moduleAt_alike.text?_eq fileGlobal
  have read :
      Making.own (Run.moduleOf 0) view.draft =
        some (.ok (view.draft.own.moduleAt 0), view.draft) := rfl
  refine .bind_of_ok (Run.moduleOf_apply _ view.world) read ?_
  dsimp only
  rw [place]
  generalize Path.directoryText ((view.draft.own.moduleAt 0).file?.getD "") = base
  have noted (answer : Export) :
      (do
        Run.notify (.required start.objects.size base token answer)
        return answer.value : Run Value).Keeps (.history False) :=
    (Run.Keeps.modify fun _ => Promise.history_single (.aside rfl) rfl).bind fun _ => .pure _
  have taken :
      Run.Realises view Export.Alike (loader.require base token)
        (Making.take (site.tokenMeaning? site.meaning? base token)) := by
    cases gives base reference view.faithful with
    | ok final later means ended faithful extended alike =>
        refine .ok (view.load faithful extended) (view.grows_load faithful extended) ended ?_
          (alike.mono .inl)
        rw [means]
        rfl
    | error final later means ended faithful extended =>
        refine .error (view.load faithful extended) (view.grows_load faithful extended) ended ?_
        rw [means]
        rfl
    | reenters reached => exact .reenters reached
  refine taken.bind noted fun middle _ alike => ?_
  exact .ok (middle.note _ rfl) id rfl rfl alike.value

theorem tryRequire_realises
    {token : String}
    (reference : isFileReference token = true) :
    Run.Realises view Value.Alike (Body.tryRequire loader start.objects.size token)
      (Making.tryRequire site site.meaning? token) := by
  refine (view.require_realises gives reference).tryCatch (fun thrown => ?_)
    fun thrown middle _ => ?_
  · split
    · exact .pure _
    · exact .throw nofun
  · split
    · exact .pure (.str _)
    · exact .throw thrown

theorem runStep_realises
    {step : Step}
    (nothing : step.ImportsNothing) :
    Run.Realises view Done (Body.runStep loader start.objects.size step)
      (Making.runStep site site.meaning? file step) := by
  have sets (name : String) (value : Value) := keeps_setGlobal site start.objects.size name value
  cases step with
  | assign name literal =>
      exact (build_realises literal view).bind (sets name) fun middle _ alike =>
        middle.setGlobal_realises name alike
  | log text => exact .ok (view.trace text) id rfl rfl trivial
  | raise className text => exact .throw _
  | require name token =>
      exact (view.require_realises gives nothing).bind (sets name) fun middle _ alike =>
        middle.setGlobal_realises name alike
  | tryRequire name token =>
      exact (view.tryRequire_realises gives nothing).bind (sets name) fun middle _ alike =>
        middle.setGlobal_realises name alike
  | peek name owner member =>
      refine (view.global_realises owner).bind (fun value => Run.Keeps.get.bind fun _ => sets name _)
        fun {value other} middle _ alike => ?_
      obtain ⟨scene, shown, found, -⟩ := middle.exists_scene alike
      have found := found member
      have read :
          Making.attributeOf site.meaning? file other member middle.draft =
            some (.ok (attribute? scene other member), middle.draft) := by
        unfold Making.attributeOf
        rw [Making.bind_apply, shown]
        rfl
      refine .bind_of_ok (Run.get_apply middle.world) read ?_
      dsimp only
      generalize attribute? middle.world value member = left at found
      generalize attribute? scene other member = right at found
      cases found with
      | none => exact middle.setGlobal_realises name .null
      | some same => exact middle.setGlobal_realises name same
  | copy name source members =>
      have admits := @Promise.history_admits False site False.elim
      refine (view.global_realises source).bind (fun value => ?_) fun middle _ begun => ?_
      · exact (Run.Keeps.foldlM (Body.member_keeps admits) members value).bind (sets name)
      · exact (middle.members_realise begun members).bind (sets name) fun final _ alike =>
          final.setGlobal_realises name alike
  | fromImport name source member => exact nothing.elim
  | mention name =>
      exact (view.global_realises name).bind (fun _ => .pure _) fun middle _ _ => .pure trivial

theorem runSteps_realise
    {steps : List Step}
    (keeps : loader.Keeps (.history False))
    (nothing : ∀ step ∈ steps, step.ImportsNothing) :
    Run.Realises view Done (Body.runSteps loader start.objects.size steps)
      (Making.runSteps site site.meaning? file steps) := by
  have admits := @Promise.history_admits False site False.elim
  induction steps generalizing view with
  | nil => exact .pure trivial
  | cons step rest ih =>
      have rested : (Body.runSteps loader start.objects.size rest).Keeps (.history False) :=
        Body.runSteps_keeps admits keeps.serves_history _ rest fun _ _ _ => nofun
      refine (view.runStep_realises gives (nothing step List.mem_cons_self)).bind (fun _ => rested)
        fun middle _ _ => ?_
      exact ih middle fun next member => nothing next (List.mem_cons_of_mem _ member)

/-- The body of a file. -/
theorem run_realises
    (keeps : loader.Keeps (.history False))
    (nothing : site.ImportsNothing) :
    Run.Realises view Done (Body.run site loader start.objects.size file)
      (Making.run site site.meaning? file) := by
  unfold Body.run Making.run
  cases read : site.program file with
  | error thrown => exact .throw thrown
  | ok program =>
      cases program with
      | broken => exact .throw _
      | steps steps => exact view.runSteps_realise gives keeps (nothing file steps read)

end Loads

end View

end ConfigTokens.Module
