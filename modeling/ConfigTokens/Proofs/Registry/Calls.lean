import ConfigTokens.Proofs.Registry.Aim
import ConfigTokens.Proofs.Run.Load
/-!
# Calls of the registries

A call is a request made from outside at some site; between two calls the tree of files may change.
A run is a list of calls, one after the other, each with the world that the one before has left. Since
each call makes a history, so does every run.
-/

namespace ConfigTokens.Module

/-- A request, and the site where it is made. -/
structure Call where
  site : Site
  request : Request

namespace Call

/-- The key of a call in the registry of its site. -/
def key?
    (call : Call) : Option String :=
  (call.request.aim call.site).key? call.site

/-- The load that a call makes. -/
def load
    (call : Call) : Run Export :=
  call.request.load call.site (Loader.forSite call.site)

/-- What a call does with what it loaded. -/
def use
    (call : Call)
    (loaded : Export) : Run Unit :=
  match call.request with
  | .execute base token =>
    discard (invokeLoaded call.site (Loader.forSite call.site) base token loaded)
  | .require .. | .direct _ => pure ()

/-- A call as a whole. -/
def run
    (call : Call) : Run Unit := do
  let loaded ← call.load
  call.use loaded

/-- The world after a call, be its end a value or not. -/
def after
    (call : Call)
    (world : World) : World :=
  call.run.final world

/-- What a call does with what it loaded keeps a promise for the world that the loads of functions keep. -/
theorem use_keeps_of
    {promise : Promise}
    {call : Call}
    (admits : promise.AdmitsObjects)
    (requires : ∀ base token, ((Loader.forSite call.site).require base token).Keeps promise)
    (missed : ∀ token, (Run.notify (.targetMissing token)).Keeps promise)
    (loaded : Export) :
    (call.use loaded).Keeps promise.unbound := by
  unfold use
  split
  · refine Run.Keeps.map (Run.Keeps.get.bind fun world => ?_) _
    dsimp only
    split
    · exact invoke_keeps admits requires _ _
    · exact (missed _).unbound.bind fun _ => .throw trivial
  · exact .pure _
  · exact .pure _

/-- What a call does with what it loaded makes a history, whatever the invoked function throws. -/
theorem use_keeps
    {failures : Prop}
    (call : Call)
    (raises : failures → call.site.raisesFailures = true)
    (loaded : Export) :
    (call.use loaded).Keeps (Promise.history failures).unbound :=
  use_keeps_of (Promise.history_admits raises).toAdmitsObjects
    (Loader.ofDepth_keeps raises call.site.depth).require
    (fun _ => .modify fun _ => Promise.history_single (.aside rfl) rfl) loaded

theorem load_keeps
    {failures : Prop}
    (call : Call)
    (raises : failures → call.site.raisesFailures = true) :
    call.load.Keeps (.history failures) :=
  call.request.load_keeps raises (Loader.ofDepth_keeps raises call.site.depth)

theorem run_keeps
    {failures : Prop}
    (call : Call)
    (raises : failures → call.site.raisesFailures = true) :
    call.run.Keeps (Promise.history failures).unbound :=
  (call.load_keeps raises).unbound.bind fun loaded => call.use_keeps raises loaded

theorem after_of_load_eq_ok
    {call : Call}
    {world middle : World}
    {answer : Export}
    (ended : call.load world = .ok answer middle) :
    call.after world = (call.use answer).final middle := by
  unfold after run
  rw [Run.final_bind, ended]

/-- A call that executes a token leaves the world that the execution leaves. -/
theorem after_execute
    (site : Site)
    (base token : String)
    (world : World) :
    (⟨site, .execute base token⟩ : Call).after world =
      (executeToken site (.forSite site) base token).final world := by
  have used (answer : Export) (middle : World) :
      (discard (invokeLoaded site (.forSite site) base token answer) : Run Unit).final middle =
        (invokeLoaded site (.forSite site) base token answer).final middle :=
    Run.final_map _ _ middle
  change
    (loadReference site (.forSite site) base token >>= fun loaded =>
        discard (invokeLoaded site (.forSite site) base token loaded)).final world = _
  unfold executeToken
  rw [Run.final_bind, Run.final_bind]
  simp only [used]

/-- The changes that a call makes are those of a history. -/
theorem after_moves
    {failures : Prop}
    (call : Call)
    (raises : failures → call.site.raisesFailures = true)
    (world : World) :
    (Promise.history failures).moves world (call.after world) :=
  (call.run_keeps raises).moves_final world

/-- A call whose load succeeds has a key, and the export is its answer from then on. -/
theorem answer?_of_load
    {call : Call}
    {world final : World}
    {answer : Export}
    (ended : call.load world = .ok answer final) :
    ∃ key, call.key? = some key ∧
      (call.after world).answer? call.site.registry key = some answer := by
  have nested : (Loader.forSite call.site).Keeps (.history False) :=
    Loader.ofDepth_keeps False.elim call.site.depth
  rcases call.request.answer?_of_load nested ended with ⟨key, resolved, known⟩
  refine ⟨key, resolved, ?_⟩
  have used : (call.use answer).Keeps (Promise.history False).unbound :=
    call.use_keeps False.elim answer
  have rest : (Promise.history False).moves final (call.after world) := by
    rw [after_of_load_eq_ok ended]
    exact used.moves_final final
  rcases rest with ⟨events, history, -⟩
  exact history.answer?_kept known

end Call

/-! ## Promises of calls -/

namespace Promise.AdmitsLoads

variable
    {promise : Promise}
    {site : Site}
    {loader : Loader}

theorem request_keeps
    (admits : promise.AdmitsLoads site)
    (serves : loader.Serves promise)
    (request : Request) :
    (request.load site loader).Keeps promise := by
  cases request with
  | require base token => exact admits.requireToken_keeps serves base token
  | execute base token => exact admits.relabel_keeps (admits.requireToken_keeps serves base _) _
  | direct aim =>
      cases aim with
      | path reference => exact admits.loadPath_keeps serves reference
      | name specifier => exact admits.loadName_keeps serves specifier

/-- A call keeps the promise for the world, and may throw what the invoked function raises. -/
theorem call_keeps
    {call : Call}
    (admits : promise.AdmitsLoads call.site)
    (serves : (Loader.forSite call.site).Serves promise)
    (requires : ∀ base token, ((Loader.forSite call.site).require base token).Keeps promise) :
    call.run.Keeps promise.unbound :=
  (admits.request_keeps serves call.request).unbound.bind fun loaded =>
    Call.use_keeps_of admits.toAdmitsObjects requires (fun _ => admits.notify_keeps rfl) loaded

end Promise.AdmitsLoads

namespace World

/-- The world after a run of calls. -/
def afterCalls
    (world : World)
    (calls : List Call) : World :=
  calls.foldl (fun world call => call.after world) world

theorem afterCalls_append
    (world : World)
    (earlier later : List Call) :
    world.afterCalls (earlier ++ later) = (world.afterCalls earlier).afterCalls later :=
  List.foldl_append

theorem afterCalls_moves
    {failures : Prop}
    (calls : List Call)
    (raises : failures → ∀ call ∈ calls, call.site.raisesFailures = true)
    (world : World) :
    (Promise.history failures).moves world (world.afterCalls calls) := by
  induction calls generalizing world with
  | nil => exact (Promise.history failures).refl world
  | cons call rest ih =>
      have first : (Promise.history failures).moves world (call.after world) :=
        call.after_moves (fun holds => raises holds call List.mem_cons_self) world
      have later := ih (fun holds other member => raises holds other (List.mem_cons_of_mem _ member))
      exact (Promise.history failures).trans first (later (call.after world))

/-- The changes that a run makes are those of a history, whose events the journal keeps. -/
theorem afterCalls_history
    (world : World)
    (calls : List Call) :
    History world ((world.afterCalls calls).eventsSince world.journal.size)
      (world.afterCalls calls) := by
  have moved : (Promise.history False).moves world (world.afterCalls calls) :=
    afterCalls_moves calls False.elim world
  rcases moved with ⟨events, history, -⟩
  rw [history.eventsSince_eq]
  exact history

/-- Where no body raises a request to end, no body is abandoned. -/
theorem not_isAbandonment_of_raisesFailures
    {calls : List Call}
    (raises : ∀ call ∈ calls, call.site.raisesFailures = true)
    (world : World) :
    ∀ event ∈ (world.afterCalls calls).eventsSince world.journal.size,
      event.isAbandonment = false := by
  have moved : (Promise.history True).moves world (world.afterCalls calls) :=
    afterCalls_moves calls (fun _ => raises) world
  rcases moved with ⟨events, history, kept⟩
  rw [history.eventsSince_eq]
  exact kept trivial

end World

end ConfigTokens.Module
