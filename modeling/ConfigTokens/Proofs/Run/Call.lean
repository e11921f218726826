import ConfigTokens.Proofs.Registry.Calls
import ConfigTokens.Proofs.Run.Layer
/-!
# Calls from outside

A call from outside loads, and may then call a function. If a regime holds before a call, and nothing is
lost when the functions that are called change, it holds after the call.
-/

namespace ConfigTokens.Module.Regime

variable
    {site : Site}
    {regime : Regime site}
    {stage : Stage}
    {world : World}

/-- A call of a function keeps what a regime holds if a change of the function keeps it. -/
theorem finish_holds
    {loader : Loader}
    {id : ObjectId}
    {content : FunctionObject}
    (free : regime.Free)
    (agrees : regime.Agrees stage loader loader)
    (changes : ∀ changed, regime.holds stage (world.setObject id (.function changed)))
    (held : regime.holds stage world) :
    regime.holds stage ((finish loader id content).final world) := by
  unfold finish
  split
  · exact held
  · exact changes _
  · rename_i answer _
    have built : regime.AgreesAt stage answer.build answer.build world :=
      build_agrees regime answer held
    exact built.kept
  · rename_i base token _
    have loads :
        regime.AgreesAt stage (loader.require base token) (loader.require base token) world :=
      agrees.require (fun _ => free _) held
    exact (loads.bind fun answer _ _ later => .pure answer.value later).kept

/-- A call keeps what a regime holds if a change of the function that is called keeps it. -/
theorem invoke_holds
    {interpreter : Interpreter}
    {loader : Loader}
    {value : Value}
    (free : regime.Free)
    (agrees : regime.Agrees stage loader loader)
    (changes :
      ∀ {world : World} {id : ObjectId} {content : FunctionObject},
        value = .function id → world.function? id = some content → regime.holds stage world →
          ∀ changed, regime.holds stage (world.setObject id (.function changed)))
    (held : regime.holds stage world) :
    regime.holds stage ((invoke interpreter loader value).final world) := by
  unfold invoke
  split
  · rename_i id
    rw [Run.final_bind, Run.get_apply]
    dsimp only
    split
    · rename_i content found
      cases content.log with
      | none => exact finish_holds free agrees (changes rfl found held) held
      | some text =>
          have traced := regime.trace text held
          have found : (world.trace text).function? id = some content := found
          exact finish_holds free agrees (changes rfl found traced) traced
    · exact held
  · exact held
  · exact held
  · exact held
  · rename_i owner name
    rw [Run.final_bind, Run.get_apply]
    dsimp only
    split
    · exact held
    · exact held
  · exact held

/-- The use of what a call has loaded keeps what a regime holds if what is called does. -/
theorem use_holds
    {call : Call}
    {loaded : Export}
    (invoked :
      ∀ base token operation, call.request = .execute base token →
        findTarget world loaded.value (Reference.parse token).member = some (.invokable operation) →
          regime.holds stage
            ((invoke call.site.interpreter (.forSite call.site) operation).final world))
    (held : regime.holds stage world) :
    regime.holds stage ((call.use loaded).final world) := by
  unfold Call.use
  split
  case h_1 base token request =>
      have same :
          (discard (invokeLoaded call.site (.forSite call.site) base token loaded) :
              Run Unit).final world =
            (invokeLoaded call.site (.forSite call.site) base token loaded).final world :=
        Run.final_map _ _ world
      rw [same]
      unfold invokeLoaded
      rw [Run.final_bind, Run.get_apply]
      dsimp only
      split
      case h_1 operation found => exact invoked base token operation request found
      case h_2 => exact regime.note _ rfl held
  case h_2 => exact held
  case h_3 => exact held

/-- The load of a request keeps what a regime holds. -/
theorem load_agrees
    (permits : regime.PermitsSite)
    (request : Request)
    (imports :
      ∀ specifier, request.aim site = .name specifier →
        regime.imports (nameParts (dottedName specifier)))
    (held : regime.holds stage world) :
    regime.AgreesAt stage (request.load site (.forSite site)) (request.load site (.forSite site))
      world :=
  request_agrees permits (fun inner _ => ofDepth_agrees permits _ inner) imports held

/-- A call keeps what a regime holds if changes of functions keep it. -/
theorem after_holds
    {call : Call}
    {regime : Regime call.site}
    (free : regime.Free)
    (changes :
      ∀ {world : World} {id : ObjectId} {content : FunctionObject},
        world.function? id = some content → regime.holds stage world →
          ∀ changed, regime.holds stage (world.setObject id (.function changed)))
    (held : regime.holds stage world) :
    regime.holds stage (call.after world) := by
  have loads := load_agrees free.permitsSite call.request (fun _ _ => free _) held
  have agrees := ofDepth_agrees free.permitsSite call.site.depth stage
  unfold Call.after Call.run
  rw [Run.final_bind]
  cases ended : call.load world with
  | ok loaded middle =>
      have later := loads.kept_of_ok ended
      exact use_holds (fun _ _ _ _ _ => invoke_holds free agrees (fun _ => changes) later) later
  | error thrown middle => exact loads.kept_of_error ended

end ConfigTokens.Module.Regime
