import ConfigTokens.Module.Execute
import ConfigTokens.Proofs.Registry.Event
import ConfigTokens.Proofs.Run.Body
/-!
# Promises of loads and calls

A load puts exports into its registry, takes them out and notes events. A promise that admits this, and
what bodies do, is kept by every load whose bodies keep it, and so by every request for a token. What is
noted when a body requires a token is left to `Loader.Serves`. A call of what was loaded keeps the promise
too, apart from what the call throws.
-/

namespace ConfigTokens.Module

/-- A promise that allows what loads do apart from the bodies that they run. -/
structure Promise.AdmitsLoads
    (promise : Promise)
    (site : Site) : Prop extends promise.Admits site where
  enter : ∀ world registry key answer, promise.moves world (world.enter registry key answer)
  leave : ∀ world registry key, promise.moves world (world.leave registry key)
  note : ∀ world event, event.isRequirement = false → promise.moves world (world.note event)

namespace Promise.AdmitsLoads

variable
    {promise : Promise}
    {site : Site}
    {loader : Loader}

theorem notify_keeps
    (admits : promise.AdmitsLoads site)
    {event : Event}
    (other : event.isRequirement = false) :
    (Run.notify event).Keeps promise :=
  .modify fun world => admits.note world event other

theorem closeFailedBody_keeps
    (admits : promise.AdmitsLoads site)
    (key : String)
    (id : ObjectId)
    {thrown : Thrown}
    (allowed : promise.throws thrown) :
    (closeFailedBody site key id thrown).Keeps promise := by
  have untabled : (Run.untabulate (synthesizedName key)).Keeps promise :=
    .modify fun world => admits.untabulate world _
  have left : (Run.leave site.registry key).Keeps promise :=
    .modify fun world => admits.leave world _ _
  unfold closeFailedBody
  split
  · refine untabled.bind fun _ => left.bind fun _ => ?_
    exact (admits.notify_keeps rfl).bind fun _ => .throw (admits.ordinary rfl)
  · exact (admits.notify_keeps rfl).bind fun _ => .throw allowed

theorem loadSource_keeps
    (admits : promise.AdmitsLoads site)
    (serves : loader.Serves promise)
    (key : String) :
    (loadSource site loader key).Keeps promise := by
  have entered (id : ObjectId) : (Run.enter site.registry key (.module id)).Keeps promise :=
    .modify fun world => admits.enter world _ _ _
  have tabulated (id : ObjectId) : (Run.tabulate (synthesizedName key) id).Keeps promise :=
    .modify fun world => admits.tabulate world _ _
  have body (id : ObjectId) :
      (tryCatch (Body.run site loader id key) (closeFailedBody site key id)).Keeps promise :=
    (Body.run_keeps admits.toAdmits serves id key).tryCatch fun _ allowed =>
      admits.closeFailedBody_keeps key id allowed
  refine (Run.allocate_keeps admits.toAdmitsObjects _).bind fun id => ?_
  refine (entered id).bind fun _ => (tabulated id).bind fun _ => ?_
  refine (admits.notify_keeps rfl).bind fun _ => (body id).bind fun _ => ?_
  exact (admits.notify_keeps rfl).bind fun _ => .pure _

theorem loadDocument_keeps
    (admits : promise.AdmitsLoads site)
    (key : String) :
    (loadDocument site key).Keeps promise := by
  have entered (answer : Export) : (Run.enter site.registry key answer).Keeps promise :=
    .modify fun world => admits.enter world _ _ _
  unfold loadDocument
  split
  · refine (Run.allocate_keeps admits.toAdmitsObjects _).bind fun id => ?_
    exact (admits.notify_keeps rfl).bind fun _ => (entered _).bind fun _ => .pure _
  · split
    · exact .throw (admits.ordinary rfl)
    · exact .throw (admits.ordinary rfl)

theorem loadFile_keeps
    (admits : promise.AdmitsLoads site)
    (serves : loader.Serves promise)
    (key : String) :
    (loadFile site loader key).Keeps promise := by
  unfold loadFile
  split
  · exact admits.loadDocument_keeps key
  · exact admits.loadSource_keeps serves key

theorem loadImport_keeps
    (admits : promise.AdmitsLoads site)
    (serves : loader.Serves promise)
    (specifier name : String) :
    (loadImport site loader specifier name).Keeps promise := by
  have imported :
      (tryCatch (importAbsolute site loader name) (reportImport site specifier)).Keeps promise := by
    refine (importAbsolute_keeps admits.toAdmits serves name).tryCatch fun thrown allowed => ?_
    unfold reportImport
    split
    · exact (admits.notify_keeps rfl).bind fun _ => .throw (admits.ordinary rfl)
    · exact .throw allowed
  have entered (id : ObjectId) :
      (Run.enter site.registry (importKey name) (.module id)).Keeps promise :=
    .modify fun world => admits.enter world _ _ _
  refine imported.bind fun id => (entered id).bind fun _ => ?_
  exact (admits.notify_keeps rfl).bind fun _ => .pure _

theorem loadKey_keeps
    (admits : promise.AdmitsLoads site)
    (registry : RegistryName)
    (key : String)
    {load : Run Export}
    (kept : load.Keeps promise) :
    (loadKey registry key load).Keeps promise := by
  have asked : (Run.answered? registry key).Keeps promise :=
    Run.Keeps.get.bind fun _ => .pure _
  refine asked.bind fun found => (admits.notify_keeps rfl).bind fun _ => ?_
  cases found with
  | none => exact kept
  | some answer => exact .pure answer

theorem loadPath_keeps
    (admits : promise.AdmitsLoads site)
    (serves : loader.Serves promise)
    (path : String) :
    (loadPath site loader path).Keeps promise := by
  unfold loadPath
  split
  · exact .throw (admits.ordinary rfl)
  · exact admits.loadKey_keeps _ _ (admits.loadFile_keeps serves _)

theorem loadName_keeps
    (admits : promise.AdmitsLoads site)
    (serves : loader.Serves promise)
    (specifier : String) :
    (loadName site loader specifier).Keeps promise :=
  admits.loadKey_keeps _ _ (admits.loadImport_keeps serves specifier _)

/-- A failure may be given another label. -/
theorem relabel_keeps
    (admits : promise.AdmitsLoads site)
    {run : Run Export}
    (kept : run.Keeps promise)
    (change : Context → Context) :
    (tryCatch run fun thrown => throw (thrown.relabel change)).Keeps promise := by
  refine kept.tryCatch fun thrown allowed => .throw ?_
  cases ordinary : thrown.isOrdinary with
  | true => exact admits.ordinary ((thrown.isOrdinary_relabel change).trans ordinary)
  | false =>
      rw [Thrown.relabel_of_request ordinary]
      exact allowed

theorem requireToken_keeps
    (admits : promise.AdmitsLoads site)
    (serves : loader.Serves promise)
    (base token : String) :
    (requireToken site loader base token).Keeps promise := by
  unfold requireToken
  dsimp only
  split
  · exact admits.relabel_keeps (admits.loadPath_keeps serves _) _
  · exact admits.relabel_keeps (admits.loadName_keeps serves _) _

/-- The loads of a site keep a promise if the bodies that they run keep it. -/
theorem layer_keeps
    (admits : promise.AdmitsLoads site)
    (serves : loader.Serves promise) :
    (Loader.layer site loader).Keeps promise where
  require := admits.requireToken_keeps serves
  importModule := importModule_keeps admits.toAdmits serves

end Promise.AdmitsLoads

/-! ## Calls of what was loaded -/

variable
    {promise : Promise}
    {loader : Loader}

theorem finish_keeps
    (admits : promise.AdmitsObjects)
    (requires : ∀ base token, (loader.require base token).Keeps promise)
    (id : ObjectId)
    (content : FunctionObject) :
    (finish loader id content).Keeps promise.unbound := by
  unfold finish
  split
  · exact .throw trivial
  · have counted (next : Int) :
        (modify fun world : World =>
          world.setObject id (.function { content with outcome := .counts (next + 1) }) :
            Run PUnit).Keeps promise.unbound :=
      .modify fun world => admits.setObject world _ _
    exact (counted _).bind fun _ => .pure _
  · exact (Literal.build_keeps admits _).unbound
  · exact (requires _ _).unbound.bind fun _ => .pure _

/-- A call keeps a promise for the world that the loads keep which a function makes. -/
theorem invoke_keeps
    (admits : promise.AdmitsObjects)
    (requires : ∀ base token, (loader.require base token).Keeps promise)
    (interpreter : Interpreter)
    (value : Value) :
    (invoke interpreter loader value).Keeps promise.unbound := by
  unfold invoke
  split
  · refine Run.Keeps.get.bind fun world => ?_
    split
    · have logged (text : String) : (Run.trace text).Keeps promise.unbound :=
        .modify fun world => admits.trace world text
      exact (Run.Keeps.forM_option logged _).bind fun _ => finish_keeps admits requires _ _
    · exact .throw trivial
  · exact .pure _
  · exact .pure _
  · exact .throw trivial
  · refine Run.Keeps.get.bind fun world => ?_
    split
    · exact .pure _
    · exact .throw trivial
  · exact .throw trivial

end ConfigTokens.Module
