import ConfigTokens.Proofs.Registry.Calls
import ConfigTokens.Proofs.Run.Agree
/-!
# Executing a token

To execute a token is to require its module, to find what it designates there, and to call that once.
`Designates` says what a reference designates without a word on how it is found. Of the three steps
together, a failure of the first one gets another label and is otherwise the same, what is called ends as
it ends, and where nothing can be called nothing is.
-/

namespace ConfigTokens

/-! ## Labels of failures -/

namespace Thrown

/-- A failure is an error of a load. -/
def IsLoadError
    (thrown : Thrown) : Prop :=
  ∃ error context, thrown.reported? = some (error, context) ∧ error.isLoad = true

/--
A failure is another one with the label of a handler at work on a token: an error of a load has the same
cause, and a context that is the same but for the label, and any other failure is the same.
-/
structure Relabels
    (thrown first : Thrown)
    (handler token : String) : Prop where
  cause : thrown.cause? = first.cause?
  load :
    ∀ error context, first.reported? = some (error, context) → error.isLoad = true →
      thrown.reported? =
        some (error, { context with handler := some handler, token := some token })
  other : ¬first.IsLoadError → thrown = first

theorem Relabels.isLoadError_iff
    {thrown first : Thrown}
    {handler token : String}
    (relabels : thrown.Relabels first handler token) :
    thrown.IsLoadError ↔ first.IsLoadError := by
  by_cases load : first.IsLoadError
  · obtain ⟨error, context, reported, isLoad⟩ := load
    exact ⟨fun _ => ⟨error, context, reported, isLoad⟩,
      fun _ => ⟨error, _, relabels.load error context reported isLoad, isLoad⟩⟩
  · rw [relabels.other load]

theorem relabels_relabel
    (first : Thrown)
    (handler token : String) :
    (first.relabel fun context =>
      { context with handler := some handler, token := some token }).Relabels first handler token := by
  constructor
  · cases first with
    | reported error context =>
        unfold relabel
        dsimp only
        split <;> rfl
    | chained error context cause =>
        unfold relabel
        dsimp only
        split <;> rfl
    | _ => rfl
  · intro error context reported load
    cases first with
    | reported given own =>
        cases reported
        simp [relabel, reported?, load]
    | chained given own cause =>
        cases reported
        simp [relabel, reported?, load]
    | _ => cases reported
  · intro other
    cases first with
    | reported error context =>
        have free : ¬error.isLoad = true := fun load => other ⟨error, context, rfl, load⟩
        simp [relabel, free]
    | chained error context cause =>
        have free : ¬error.isLoad = true := fun load => other ⟨error, context, rfl, load⟩
        simp [relabel, free]
    | _ => rfl

end Thrown

namespace Module

/-! ## References -/

/-- A token is cut at its first hash sign; there is no member where nothing follows. -/
inductive Reference.Splits
    (token : String) : Reference → Prop
  | whole : '#' ∉ token.toList → Splits token ⟨token, none⟩
  | bare {module : String} :
    '#' ∉ module.toList → token = module ++ "#" → Splits token ⟨module, none⟩
  | member {module name : String} :
    '#' ∉ module.toList → name ≠ "" → token = module ++ "#" ++ name →
      Splits token ⟨module, some name⟩

theorem Reference.splits_parse
    (token : String) :
    Splits token (parse token) := by
  unfold parse
  cases cut : Text.beforeFirst '#' token.toList with
  | none => exact .whole (Text.beforeFirst_eq_none_iff.mp cut)
  | some pieces =>
      obtain ⟨front, back⟩ := pieces
      obtain ⟨shape, clean⟩ := Text.beforeFirst_eq_some_iff.mp cut
      have outside : '#' ∉ (String.ofList front).toList := by simpa using clean
      dsimp only
      split
      case isTrue empty =>
          refine .bare outside (String.toList_injective ?_)
          simp [shape, empty]
      case isFalse named =>
          refine .member outside ?_ (String.toList_injective ?_)
          · simpa [String.ext_iff] using named
          · simp [shape]

/-! ## What a reference designates -/

/-- A value has a member: an item of a mapping, and an attribute of anything else. -/
inductive Value.HasMember
    (world : World) : Value → String → Value → Prop
  | ofItem {members : List (String × Value)} {name : String} {found : Value} :
    members.lookup name = some found → HasMember world (.mapping members) name found
  | ofAttribute {value found : Value} {name : String} :
    (∀ members, value ≠ .mapping members) → attribute? world value name = some found →
      HasMember world value name found

/-- What is called when a value is called; a module is called through its global for calls only. -/
inductive Value.Calls
    (world : World) : Value → Value → Prop
  | itself {value : Value} : value.isCallable = true → Calls world value value
  | hook {id : ObjectId} {content : ModuleObject} {operation : Value} :
    world.module? id = some content → content.globals.lookup "__call__" = some operation →
      operation.isCallable = true → Calls world (.module id) operation

/-- What a reference into a value has called: the value itself, or its member. -/
inductive Designates
    (world : World)
    (value : Value) : Option String → Value → Prop
  | itself {operation : Value} : value.Calls world operation → Designates world value none operation
  | member {name : String} {found operation : Value} :
    value.HasMember world name found → found.Calls world operation →
      Designates world value (some name) operation

section Targets

variable
    {world : World}
    {value operation : Value}

theorem classify_eq_invokable_iff :
    classify world value = .invokable operation ↔ value.Calls world operation := by
  constructor
  · intro classified
    cases value with
    | module id =>
        cases module : world.module? id with
        | none => simp [classify, module] at classified
        | some content =>
            cases hook : content.globals.lookup callGlobal with
            | none => simp [classify, module, hook] at classified
            | some found =>
                cases callable : found.isCallable with
                | false => simp [classify, module, hook, callable] at classified
                | true =>
                    simp only [classify, module, Option.bind_some, hook, callable, ↓reduceIte,
                      Target.invokable.injEq] at classified
                    subst classified
                    exact .hook module hook callable
    | _ =>
        simp only [classify] at classified
        split at classified
        case isTrue callable =>
            cases classified
            exact .itself callable
        case isFalse => cases classified
  · intro calls
    cases calls with
    | itself callable =>
        cases value with
        | module id => cases callable
        | _ => simp [classify, callable]
    | hook module hook callable =>
        have global : callGlobal = "__call__" := rfl
        simp [classify, module, global, hook, callable]

theorem lookupMember_eq_some_iff
    {name : String}
    {target : Target} :
    lookupMember world value name = some target ↔
      ∃ found, value.HasMember world name found ∧ classify world found = target := by
  cases value with
  | mapping members =>
      simp only [lookupMember, Option.map_eq_some_iff]
      constructor
      · rintro ⟨found, known, same⟩
        exact ⟨found, .ofItem known, same⟩
      · rintro ⟨found, ⟨known⟩ | ⟨other, -⟩, same⟩
        · exact ⟨found, known, same⟩
        · exact absurd rfl (other members)
  | _ =>
      simp only [lookupMember, Option.map_eq_some_iff]
      constructor
      · rintro ⟨found, known, same⟩
        exact ⟨found, .ofAttribute (fun _ same => by cases same) known, same⟩
      · rintro ⟨found, has, same⟩
        cases has with
        | ofAttribute other known => exact ⟨found, known, same⟩

theorem findTarget_eq_invokable_iff
    {member : Option String} :
    findTarget world value member = some (.invokable operation) ↔
      Designates world value member operation := by
  cases member with
  | none =>
      simp only [findTarget, Option.some.injEq, classify_eq_invokable_iff]
      constructor
      · exact .itself
      · rintro ⟨calls⟩
        exact calls
  | some name =>
      simp only [findTarget, lookupMember_eq_some_iff, classify_eq_invokable_iff]
      constructor
      · rintro ⟨found, has, calls⟩
        exact .member has calls
      · rintro (_ | ⟨has, calls⟩)
        exact ⟨_, has, calls⟩

end Targets

/-! ## The three steps -/

variable
    {site : Site}
    {loader : Loader}
    {base token : String}
    {world : World}

/-- A load for a call ends as the load of its module does; the label of a failure is the only difference. -/
theorem loadReference_apply :
    loadReference site loader base token world =
      match requireToken site loader base (Reference.parse token).module world with
      | .ok loaded middle => .ok loaded middle
      | .error first middle =>
        .error
          (first.relabel fun context =>
            { context with handler := some execHandler, token := some token }) middle := by
  change EStateM.tryCatch (requireToken site loader base (Reference.parse token).module) _ world = _
  unfold EStateM.tryCatch
  cases requireToken site loader base (Reference.parse token).module world with
  | ok loaded middle => rfl
  | error first middle => rfl

theorem executeToken_of_error
    {first : Thrown}
    {middle : World}
    (failed :
      requireToken site loader base (Reference.parse token).module world = .error first middle) :
    executeToken site loader base token world =
      .error
        (first.relabel fun context =>
          { context with handler := some execHandler, token := some token }) middle := by
  refine Run.bind_eq_error.mpr (.inl ?_)
  rw [loadReference_apply, failed]

theorem executeToken_of_ok
    {loaded : Export}
    {middle : World}
    (ended :
      requireToken site loader base (Reference.parse token).module world = .ok loaded middle) :
    executeToken site loader base token world =
      invokeLoaded site loader base token loaded middle := by
  refine Run.bind_of_ok ?_
  rw [loadReference_apply, ended]

theorem invokeLoaded_of_designates
    {loaded : Export}
    {operation : Value}
    (designates : Designates world loaded.value (Reference.parse token).member operation) :
    invokeLoaded site loader base token loaded world =
      invoke site.interpreter loader operation world := by
  have found := findTarget_eq_invokable_iff.mpr designates
  unfold invokeLoaded
  refine (Run.bind_of_ok (Run.get_apply world)).trans ?_
  rw [found]

theorem invokeLoaded_of_not_designates
    {loaded : Export}
    (nothing :
      ∀ operation, ¬Designates world loaded.value (Reference.parse token).member operation) :
    invokeLoaded site loader base token loaded world =
      .error
        (.reported (.targetMissing token (Reference.parse token).member)
          (.ofHandler execHandler token (Path.absoluteText site.cwdText base)))
        (world.note (.targetMissing token)) := by
  unfold invokeLoaded
  refine (Run.bind_of_ok (Run.get_apply world)).trans ?_
  cases found : findTarget world loaded.value (Reference.parse token).member with
  | none => rfl
  | some target =>
      cases target with
      | invokable operation => exact absurd (findTarget_eq_invokable_iff.mp found) (nothing operation)
      | data value => rfl

/-! ## Calls that load nothing -/

/-- A call of the value loads: it is a function that requires a token. -/
def Value.Loads
    (world : World)
    (value : Value) : Prop :=
  ∃ id log base token,
    value = .function id ∧ world.function? id = some ⟨log, .requires base token⟩

section Quiet

variable
    {operation : Value}
    (quiet : ¬operation.Loads world)

include quiet

/-- A call that loads nothing does the same with any loader. -/
theorem invoke_with_other_loader
    (interpreter : Interpreter)
    (loader other : Loader) :
    invoke interpreter loader operation world = invoke interpreter other operation world := by
  cases operation with
  | function id =>
      unfold invoke
      refine (Run.bind_of_ok (Run.get_apply world)).trans ?_
      refine Eq.trans ?_ (Run.bind_of_ok (Run.get_apply world)).symm
      cases known : world.function? id with
      | none => rfl
      | some content =>
          have same : finish loader id content = finish other id content := by
            obtain ⟨log, outcome⟩ := content
            cases outcome with
            | requires base token => exact absurd ⟨id, log, base, token, rfl, known⟩ quiet
            | _ => rfl
          dsimp only
          rw [same]
  | _ => rfl

/-- A call that loads nothing leaves the registries and the table alone. -/
theorem invoke_leaves
    (interpreter : Interpreter)
    (loader : Loader) :
    ((invoke interpreter loader operation).final world).registries = world.registries ∧
      ((invoke interpreter loader operation).final world).table = world.table := by
  let leaves : Promise :=
    { moves := fun first second =>
        second.registries = first.registries ∧ second.table = first.table
      throws := fun _ => True
      refl := fun _ => ⟨rfl, rfl⟩
      trans := fun early late => ⟨late.1.trans early.1, late.2.trans early.2⟩ }
  have admits : leaves.AdmitsObjects :=
    ⟨fun _ _ => ⟨rfl, rfl⟩, fun _ _ _ => ⟨rfl, rfl⟩, fun _ _ => ⟨rfl, rfl⟩⟩
  let idle : Loader := ⟨fun _ _ => throw .tooDeep, fun _ => throw .tooDeep⟩
  have requires (base token : String) : (idle.require base token).Keeps leaves := .throw trivial
  rw [Run.final_congr (invoke_with_other_loader quiet interpreter loader idle)]
  exact (invoke_keeps admits requires interpreter operation).moves_final world

end Quiet

/--
To execute a token is to require its module, to look up its target there, and to call that once:

* The token is cut at its first hash sign, and a member without a name counts as none.
* If the module cannot be required, the token cannot be executed, with the same failure in the same world;
  an error of a load has the handler and the whole token in its context instead of those of the load.
* Otherwise what the token designates is called, and its end is that of the whole.
* Where the token designates nothing to be called, this is reported with the whole token, and nothing
  else happens.
* An error of a load comes from the load of the module, or as it is from what was called.
* The registries and the table are what they are after the load, unless what is called loads in turn.
-/
theorem executeToken_ends
    (site : Site)
    (loader : Loader)
    (base token : String)
    (world : World) :
    let reference := Reference.parse token
    let required := requireToken site loader base reference.module
    let executed := executeToken site loader base token
    reference.Splits token ∧
    (∀ first middle, required world = .error first middle →
      ∃ thrown, executed world = .error thrown middle ∧ thrown.Relabels first execHandler token) ∧
    (∀ loaded middle, required world = .ok loaded middle →
      (∀ operation, Designates middle loaded.value reference.member operation →
        executed world = invoke site.interpreter loader operation middle) ∧
      ((∀ operation, ¬Designates middle loaded.value reference.member operation) →
        executed world =
          .error
            (.reported (.targetMissing token reference.member)
              (.ofHandler execHandler token (Path.absoluteText site.cwdText base)))
            (middle.note (.targetMissing token)))) ∧
    (∀ thrown final, executed world = .error thrown final → (thrown.IsLoadError ↔
      (∃ first, required world = .error first final ∧ first.IsLoadError) ∨
      ∃ loaded middle operation, required world = .ok loaded middle ∧
        Designates middle loaded.value reference.member operation ∧
        invoke site.interpreter loader operation middle = .error thrown final ∧
        thrown.IsLoadError)) ∧
    ((∀ loaded middle operation, required world = .ok loaded middle →
        Designates middle loaded.value reference.member operation → ¬operation.Loads middle) →
      (executed.final world).registries = (required.final world).registries ∧
      (executed.final world).table = (required.final world).table) := by
  intro reference required executed
  cases ended : required world with
  | error first middle =>
      have failed := executeToken_of_error ended
      have relabels := first.relabels_relabel execHandler token
      refine ⟨Reference.splits_parse token, ?_, nofun, ?_, fun _ => ?_⟩
      · rintro _ _ ⟨⟩
        exact ⟨_, failed, relabels⟩
      · intro thrown final threw
        cases failed.symm.trans threw
        rw [relabels.isLoadError_iff]
        constructor
        · exact fun load => .inl ⟨first, rfl, load⟩
        · rintro (⟨_, ⟨⟩, load⟩ | ⟨_, _, _, ⟨⟩, -⟩)
          exact load
      · rw [Run.final_of_error ended, Run.final_of_error failed]
        exact ⟨rfl, rfl⟩
  | ok loaded middle =>
      have called := executeToken_of_ok ended
      refine ⟨Reference.splits_parse token, nofun, ?_, ?_, fun quiet => ?_⟩
      · rintro _ _ ⟨⟩
        exact ⟨fun operation designates => called.trans (invokeLoaded_of_designates designates),
          fun nothing => called.trans (invokeLoaded_of_not_designates nothing)⟩
      · intro thrown final threw
        constructor
        · intro load
          by_cases some : ∃ operation, Designates middle loaded.value reference.member operation
          · obtain ⟨operation, designates⟩ := some
            have invoked := called.trans (invokeLoaded_of_designates designates)
            exact .inr ⟨loaded, middle, operation, rfl, designates, invoked.symm.trans threw, load⟩
          · have missing := called.trans (invokeLoaded_of_not_designates (not_exists.mp some))
            cases missing.symm.trans threw
            obtain ⟨_, _, ⟨⟩, ⟨⟩⟩ := load
        · rintro (⟨_, ⟨⟩, -⟩ | ⟨_, _, _, -, -, -, load⟩)
          exact load
      · rw [Run.final_of_ok ended]
        by_cases some : ∃ operation, Designates middle loaded.value reference.member operation
        · obtain ⟨operation, designates⟩ := some
          rw [Run.final_congr (called.trans (invokeLoaded_of_designates designates))]
          exact invoke_leaves (quiet loaded middle operation rfl designates) _ _
        · have missing := called.trans (invokeLoaded_of_not_designates (not_exists.mp some))
          rw [Run.final_of_error missing]
          exact ⟨rfl, rfl⟩

end Module
end ConfigTokens
