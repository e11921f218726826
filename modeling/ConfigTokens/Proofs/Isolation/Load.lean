import ConfigTokens.Proofs.Isolation.Body
import ConfigTokens.Proofs.Registry.Calls
/-!
# Loads of files that import nothing

The loads of a site whose bodies import nothing match in both worlds of a couple of its registry, and so
do its calls that refer to files: they give alike exports or the same failure, log the same texts, and
leave the other registries and their objects as they were.
-/

namespace ConfigTokens.Module

theorem alike_freshFileModule
    (pairs : Pairing)
    (key : String) :
    (freshFileModule key).Alike pairs (freshFileModule key) := by
  unfold freshFileModule
  dsimp only
  split
  · exact ModuleObject.alike_fresh pairs _ _ _ _
  · exact ModuleObject.alike_fresh pairs _ _ _ _

namespace Couple

section Loads

variable
    {site : Site}
    (couple : FileCouple site.registry)

theorem closeFailedBody_matches
    (key : String)
    (id twin : ObjectId)
    (thrown : Thrown) :
    Run.Matches couple Done (closeFailedBody site key id thrown)
      (closeFailedBody site key twin thrown) := by
  unfold closeFailedBody
  split
  · refine (couple.untabulate_matches _).bind fun second _ _ => ?_
    refine (second.leave_matches key).bind fun third _ _ => ?_
    exact (third.notify_matches _ _).bind fun _ _ _ => .throw _
  · exact (couple.notify_matches _ _).bind fun _ _ _ => .throw _

theorem loadDocument_matches
    (key : String) :
    Run.Matches couple Export.Alike (loadDocument site key) (loadDocument site key) := by
  unfold loadDocument
  split
  · rename_i content _
    refine (couple.allocate_matches (.document content) trivial).bind fun second _ paired => ?_
    refine (second.notify_matches _ _).bind fun third grown _ => ?_
    have alike := Export.Alike.data content (grown.keeps paired)
    refine (third.enter_matches key alike).bind fun _ later _ => ?_
    exact .pure (alike.mono later.keeps)
  · split
    · exact .throw _
    · exact .throw _

theorem loadKey_matches
    (key : String)
    {load other : Run Export}
    (loads : ∀ couple : FileCouple site.registry, Run.Matches couple Export.Alike load other) :
    Run.Matches couple Export.Alike (loadKey site.registry key load)
      (loadKey site.registry key other) := by
  have left :
      Run.answered? site.registry key couple.left =
        .ok (couple.left.answer? site.registry key) couple.left := rfl
  have right :
      Run.answered? site.registry key couple.right =
        .ok (couple.right.answer? site.registry key) couple.right := rfl
  have known := couple.answers key
  refine .bind_of_ok left right ?_
  generalize couple.left.answer? site.registry key = found at known
  generalize couple.right.answer? site.registry key = twin at known
  refine (couple.notify_matches _ _).bind fun middle grown _ => ?_
  cases known with
  | none => exact loads middle
  | some alike => exact .pure (alike.mono grown.keeps)

variable
    {loader other : Loader}
    (loads : loader.Matches site.registry other)
    (only : site.FilesOnly)

include loads only

theorem closedBody_matches
    {id twin : ObjectId}
    (own : couple.pairs id twin)
    (key : String) :
    Run.Matches couple Done
      (tryCatch (Body.run site loader id key) (closeFailedBody site key id))
      (tryCatch (Body.run site other twin key) (closeFailedBody site key twin)) :=
  (couple.run_matches loads own only key).tryCatch fun thrown middle _ =>
    middle.closeFailedBody_matches key id twin thrown

theorem loadSource_matches
    (key : String) :
    Run.Matches couple Export.Alike (loadSource site loader key) (loadSource site other key) := by
  have fresh := Object.Alike.module (alike_freshFileModule couple.pairs key)
  refine (couple.allocate_matches fresh trivial).bind fun first _ paired => ?_
  refine (first.enter_matches key (.module paired)).bind fun second entered _ => ?_
  refine (second.tabulate_matches _ _ _).bind fun third tabled _ => ?_
  refine (third.notify_matches _ _).bind fun begun noted _ => ?_
  have own := noted.keeps (tabled.keeps (entered.keeps paired))
  refine (begun.closedBody_matches loads only own key).bind fun middle ran _ => ?_
  exact (middle.notify_matches _ _).bind fun _ last _ => .pure (.module (last.keeps (ran.keeps own)))

theorem loadPath_matches
    (path : String) :
    Run.Matches couple Export.Alike (loadPath site loader path) (loadPath site other path) := by
  unfold loadPath
  split
  case h_1 => exact .throw _
  case h_2 file _ =>
      refine couple.loadKey_matches _ fun couple => ?_
      unfold loadFile
      split
      · exact couple.loadDocument_matches _
      · exact couple.loadSource_matches loads only _

theorem requireToken_matches
    (base : String)
    {token : String}
    (reference : isFileReference token = true) :
    Run.Matches couple Export.Alike (requireToken site loader base token)
      (requireToken site other base token) := by
  unfold requireToken
  dsimp only
  rw [if_pos reference, if_pos reference]
  exact (couple.loadPath_matches loads only _).tryCatch fun thrown _ _ => .throw _

end Loads

/-- The loads of a site whose bodies import nothing match, however deep its bodies may nest. -/
theorem ofDepth_matches
    {site : Site}
    (only : site.FilesOnly)
    (depth : Nat) :
    (Loader.ofDepth site depth).Matches site.registry (.ofDepth site depth) := by
  induction depth with
  | zero => exact fun _ _ _ _ => .throw .tooDeep
  | succ depth ih =>
      exact fun couple base token reference => couple.requireToken_matches ih only base reference

end Couple

/-! ## Calls -/

/-- The call refers to a file. -/
def Call.RefersToFile
    (call : Call) : Prop :=
  ∃ reference, call.request.aim call.site = .path reference

theorem isFileReference_of_aim
    {site : Site}
    {base token reference : String}
    (aims : Aim.ofToken site base token = .path reference) :
    isFileReference token = true := by
  unfold Aim.ofToken at aims
  split at aims
  case isTrue file => exact file
  case isFalse => cases aims

namespace Couple

variable
    {call : Call}
    (couple : FileCouple call.site.registry)
    (only : call.site.FilesOnly)
    (refers : call.RefersToFile)

include only refers in
theorem load_matches :
    Run.Matches couple Export.Alike call.load call.load := by
  have loads := ofDepth_matches only call.site.depth
  obtain ⟨reference, aims⟩ := refers
  obtain ⟨site, request⟩ := call
  unfold Call.load
  cases request with
  | require base token =>
      exact couple.requireToken_matches loads only base (isFileReference_of_aim aims)
  | execute base token =>
      have required := couple.requireToken_matches loads only base (isFileReference_of_aim aims)
      exact required.tryCatch fun thrown _ _ => .throw _
  | direct aim =>
      cases aims
      exact couple.loadPath_matches loads only reference

variable
    {registry : RegistryName}
    (couple : FileCouple registry)

/-! ### Invocations -/

/-- Two targets are both to be invoked, or both data, and their values are alike. -/
inductive TargetsAlike
    (pairs : Pairing) : Target → Target → Prop where
  | invokable {operation other : Value} :
      operation.Alike pairs other → TargetsAlike pairs (.invokable operation) (.invokable other)
  | data {value other : Value} :
      value.Alike pairs other → TargetsAlike pairs (.data value) (.data other)

theorem classify_alike
    {value other : Value}
    (alike : value.Alike couple.pairs other) :
    TargetsAlike couple.pairs (classify couple.left value) (classify couple.right other) := by
  have plain {value other : Value} (alike : value.Alike couple.pairs other) :
      TargetsAlike couple.pairs
        (if value.isCallable then .invokable value else .data value)
        (if other.isCallable then .invokable other else .data other) := by
    rw [alike.isCallable_eq]
    split
    · exact .invokable alike
    · exact .data alike
  cases alike with
  | module paired =>
      have hook := couple.global?_rel paired callGlobal
      unfold classify
      dsimp only
      generalize (couple.left.module? _).bind (·.globals.lookup callGlobal) = left at hook
      generalize (couple.right.module? _).bind (·.globals.lookup callGlobal) = right at hook
      cases hook with
      | none => exact .data (.module paired)
      | some found =>
          dsimp only
          rw [found.isCallable_eq]
          split
          · exact .invokable found
          · exact .data (.module paired)
  | null => exact plain .null
  | bool value => exact plain (.bool value)
  | int value => exact plain (.int value)
  | float value => exact plain (.float value)
  | str value => exact plain (.str value)
  | bytes value => exact plain (.bytes value)
  | list items => exact plain (.list items)
  | mapping members => exact plain (.mapping members)
  | function paired => exact plain (.function paired)
  | moduleClass => exact plain .moduleClass
  | classType name => exact plain (.classType name)
  | instanceOf className => exact plain (.instanceOf className)
  | answering answer => exact plain (.answering answer)
  | record attributes => exact plain (.record attributes)
  | bound name owner => exact plain (.bound name owner)

theorem classify_rel
    {value other : Option Value}
    (alike : Option.Rel (Value.Alike couple.pairs) value other) :
    Option.Rel (TargetsAlike couple.pairs) (value.map (classify couple.left))
      (other.map (classify couple.right)) := by
  cases alike with
  | none => exact .none
  | some found => exact .some (couple.classify_alike found)

theorem findTarget_rel
    {value other : Value}
    (alike : value.Alike couple.pairs other)
    (member : Option String) :
    Option.Rel (TargetsAlike couple.pairs) (findTarget couple.left value member)
      (findTarget couple.right other member) := by
  cases member with
  | none => exact .some (couple.classify_alike alike)
  | some name =>
      have found := couple.classify_rel (couple.attribute?_rel alike name)
      cases alike with
      | mapping members => exact couple.classify_rel (members.lookup name)
      | _ => exact found

theorem finish_matches
    {loader : Loader}
    (loads : loader.Matches registry loader)
    {id twin : ObjectId}
    (paired : couple.pairs id twin)
    {content : FunctionObject}
    (nothing : content.outcome.ImportsNothing) :
    Run.Matches couple Value.Alike (finish loader id content) (finish loader twin content) := by
  obtain ⟨log, outcome⟩ := content
  cases outcome with
  | raises className text => exact .throw _
  | counts next =>
      let changed : FunctionObject := ⟨log, .counts (next + 1)⟩
      have alike : (Object.function changed).Alike couple.pairs (.function changed) :=
        .function changed
      have modified :
          Run.Matches couple Done
            (modify fun world => world.setObject id (.function changed))
            (modify fun world => world.setObject twin (.function changed)) :=
        .ok (couple.set paired alike trivial) (couple.grows_set paired alike trivial) rfl rfl trivial
      exact modified.bind fun _ _ _ => .pure (.int next)
  | returns answer => exact build_matches answer nothing couple
  | requires base token =>
      exact (loads couple base token nothing).bind fun _ _ alike => .pure alike.value

/-- A call that ends may give something else in the other world, but leads to a couple. -/
theorem invoke_follows
    (interpreter : Interpreter)
    {loader : Loader}
    (loads : loader.Matches registry loader)
    {value other : Value}
    (alike : value.Alike couple.pairs other) :
    Run.Follows couple (invoke interpreter loader value) (invoke interpreter loader other) := by
  have still {run further : Run Value} (left : run.final couple.left = couple.left)
      (right : further.final couple.right = couple.right) : Run.Follows couple run further :=
    ⟨couple, .refl couple, left.symm, right.symm⟩
  cases alike with
  | function paired =>
      rename_i id twin
      refine (?_ : Run.Matches couple Value.Alike _ _).follows
      have content := couple.function?_eq paired
      refine .bind_of_ok (Run.get_apply couple.left) (Run.get_apply couple.right) ?_
      rw [← content]
      cases known : couple.left.function? id with
      | none => exact .throw _
      | some found =>
          have nothing := couple.fits_of_function paired known
          dsimp only
          cases found.log with
          | none => exact couple.finish_matches loads paired nothing
          | some text =>
              exact (couple.trace_matches text).bind fun middle grown _ =>
                middle.finish_matches loads (grown.keeps paired) nothing
  | bound name owner =>
      have quiet (owner : Value) (world : World) :
          (invoke interpreter loader (.bound owner name)).final world = world := by
        unfold invoke
        rw [Run.final_bind, Run.get_apply]
        dsimp only
        split <;> rfl
      exact still (quiet _ _) (quiet _ _)
  | _ => exact still rfl rfl

theorem invokeLoaded_follows
    (site : Site)
    {loader : Loader}
    (loads : loader.Matches registry loader)
    {loaded other : Export}
    (alike : loaded.Alike couple.pairs other)
    (base token : String) :
    Run.Follows couple (invokeLoaded site loader base token loaded)
      (invokeLoaded site loader base token other) := by
  have found := couple.findTarget_rel alike.value (Reference.parse token).member
  have missed {failure : Thrown} :
      Run.Matches couple Value.Alike
        (do
          Run.notify (.targetMissing token)
          throw failure)
        (do
          Run.notify (.targetMissing token)
          throw failure) :=
    (couple.notify_matches _ _).bind fun _ _ _ => .throw failure
  unfold Run.Follows invokeLoaded
  rw [Run.final_bind, Run.final_bind, Run.get_apply, Run.get_apply]
  dsimp only
  generalize findTarget couple.left loaded.value (Reference.parse token).member = left at found
  generalize findTarget couple.right other.value (Reference.parse token).member = right at found
  cases found with
  | none => exact missed.follows
  | some targets =>
      cases targets with
      | invokable operation => exact couple.invoke_follows site.interpreter loads operation
      | data value => exact missed.follows

end Couple

namespace Couple

variable
    {call : Call}
    (couple : FileCouple call.site.registry)
    (only : call.site.FilesOnly)

include only

theorem use_follows
    {loaded other : Export}
    (alike : loaded.Alike couple.pairs other) :
    Run.Follows couple (call.use loaded) (call.use other) := by
  have loads := ofDepth_matches only call.site.depth
  unfold Call.use
  split
  · rename_i base token _
    obtain ⟨final, grown, left, right⟩ :=
      couple.invokeLoaded_follows call.site loads alike base token
    exact ⟨final, grown, left.trans (Run.final_map _ _ _).symm,
      right.trans (Run.final_map _ _ _).symm⟩
  · exact ⟨couple, .refl couple, rfl, rfl⟩
  · exact ⟨couple, .refl couple, rfl, rfl⟩

/-- A call that refers to a file leads to a couple. -/
theorem call_follows
    (refers : call.RefersToFile) :
    Run.Follows couple call.run call.run := by
  unfold Run.Follows Call.run
  rw [Run.final_bind, Run.final_bind]
  cases couple.load_matches only refers with
  | ok middle grown left right alike =>
      rw [left, right]
      obtain ⟨final, later, first, second⟩ := middle.use_follows only alike
      exact ⟨final, grown.trans later, first, second⟩
  | error final grown left right =>
      rw [left, right]
      exact ⟨final, grown, rfl, rfl⟩

end Couple

end ConfigTokens.Module
