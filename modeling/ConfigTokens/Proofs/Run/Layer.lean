import ConfigTokens.Proofs.Run.Regime
/-!
# Loads below other loads

Imports and loads begin bodies, and a body that begins leads to a stage with one more body under way. If
two loaders agree at all stages with one more body, the loads of a site with the one and with the other
below them agree.
-/

namespace ConfigTokens.Module.Regime

variable
    {site : Site}
    {regime : Regime site}
    {stage : Stage}
    {loader other : Loader}
    {world : World}

/-- Two loaders agree at all stages with one more body under way. -/
def AgreesInside
    (regime : Regime site)
    (stage : Stage)
    (loader other : Loader) : Prop :=
  ∀ inner : Stage, inner.size = stage.size + 1 → regime.Agrees inner loader other

variable
    (permits : regime.PermitsSite)
    (inside : regime.AgreesInside stage loader other)

/-! ## Imports -/

include permits inside in
theorem importTarget_agrees
    {parts : List String}
    {target : ImportTarget}
    (single : ∀ part ∈ parts, IsPart part)
    (imports : regime.imports parts)
    (finds : site.Finds regime.searched parts target)
    (parent : String)
    (held : regime.holds stage world)
    (absent : world.table.lookup (nameOfParts parts) = none) :
    regime.AgreesAt stage (importTarget site loader (nameOfParts parts) parent target)
      (importTarget site other (nameOfParts parts) parent target) world := by
  let id := world.objects.size
  let inner := stage.openImport (nameOfParts parts) id
  cases bodied : target.file? with
  | none =>
      have found := regime.found parent single imports finds held absent
      constructor
      · rw [importTarget_apply, importTarget_apply, bodied]
      · unfold Run.final
        rw [importTarget_apply, bodied]
        exact found
  | some file =>
      have opened := regime.openImport parent single imports finds held absent
      have nested : regime.Agrees inner loader other := inside inner (stage.size_openImport _ _)
      have body :
          regime.AgreesAt inner (Body.run site loader id file) (Body.run site other id file)
            ((world.withFound (nameOfParts parts) parent target).marked id true) :=
        run_agrees nested rfl permits file (regime.mark true rfl opened)
      constructor
      · rw [importTarget_apply, importTarget_apply, bodied]
        dsimp only
        rw [← body.same]
      · unfold Run.final
        rw [importTarget_apply, bodied]
        dsimp only
        cases ended : Body.run site loader id file
            ((world.withFound (nameOfParts parts) parent target).marked id true) with
        | ok value middle =>
            have closed := regime.closeImport held (regime.mark false rfl (body.kept_of_ok ended))
            dsimp only
            -- Whether the name is still in the table or not, the world is the same.
            cases middle.table.lookup (nameOfParts parts) with
            | none => exact closed
            | some current => exact closed
        | error thrown middle =>
            exact regime.failImport held (regime.mark false rfl (body.kept_of_error ended))

include permits inside in
theorem importIn_agrees
    {last directory : String}
    {above : List String}
    (single : ∀ part ∈ last :: above, IsPart part)
    (imports : regime.imports (last :: above))
    (finds :
      ∀ target, site.findImport directory last = some target →
        site.Finds regime.searched (last :: above) target)
    (parent : String)
    (held : regime.holds stage world)
    (absent : world.table.lookup (nameOfParts (last :: above)) = none) :
    regime.AgreesAt stage
      (importIn site loader directory last (nameOfParts (last :: above)) parent)
      (importIn site other directory last (nameOfParts (last :: above)) parent) world := by
  unfold importIn
  split
  case h_1 target found =>
      exact importTarget_agrees permits inside single imports (finds target found) parent held absent
  case h_2 => exact .throw _ held

theorem checkSearch_reads
    (content : ModuleObject)
    (parts : List String) :
    (checkSearch content parts).Reads := by
  fun_induction checkSearch content parts with
  | case1 content last next rest bare parent ih =>
      refine (Run.tabled?_reads parent).bind fun holder => ?_
      split
      · exact .throw _
      · refine (Run.moduleOf_reads _).bind fun above => ?_
        dsimp only
        split
        · exact Run.Reads.get.bind fun world => (Run.Reads.throw _).bind fun _ => ih above
        · exact ih above
  | case2 => exact .pure _
  | case3 => exact .pure _

include permits inside in
theorem searchBelow_agrees
    {last : String}
    {above : List String}
    {content : ModuleObject}
    (single : ∀ part ∈ last :: above, IsPart part)
    (imports : regime.imports (last :: above))
    (inner : nameOfParts above ≠ "")
    (held : regime.holds stage world)
    (absent : world.table.lookup (nameOfParts (last :: above)) = none)
    (searched :
      ∀ directory, content.searchPath = some directory →
        regime.searched (nameOfParts above) directory) :
    regime.AgreesAt stage
      (searchBelow site loader last (nameOfParts (last :: above)) above content)
      (searchBelow site other last (nameOfParts (last :: above)) above content) world := by
  unfold searchBelow
  cases searches : content.searchPath with
  | none => exact .throw _ held
  | some directory =>
      have checked :
          regime.AgreesAt stage (checkSearch content above) (checkSearch content above) world :=
        .reads (checkSearch_reads _ above) held
      refine checked.bind fun _ middle ended later => ?_
      -- The check has changed nothing, so the name is still not in the table.
      have same : middle = world :=
        (Run.final_of_ok ended).symm.trans (checkSearch_reads _ above world)
      rw [← same] at absent
      exact importIn_agrees permits inside single imports
        (fun target found => .nested inner (searched directory searches) found) _ later absent

/-- Only a module that can be searched is searched to an end. -/
theorem exists_searchPath_of_searchBelow
    {last name : String}
    {above : List String}
    {content : ModuleObject}
    {id : ObjectId}
    {after : World}
    (ended : searchBelow site loader last name above content world = .ok id after) :
    ∃ directory, content.searchPath = some directory := by
  cases searches : content.searchPath with
  | some directory => exact ⟨directory, rfl⟩
  | none =>
      unfold searchBelow at ended
      rw [searches] at ended
      cases ended

include permits inside in
theorem importBelow_agrees
    {last : String}
    {above : List String}
    (single : ∀ part ∈ last :: above, IsPart part)
    (imports : regime.imports (last :: above))
    (inner : nameOfParts above ≠ "")
    (held : regime.holds stage world) :
    regime.AgreesAt stage (importBelow site loader last (nameOfParts (last :: above)) above)
      (importBelow site other last (nameOfParts (last :: above)) above) world := by
  refine .bind_of_ok (Run.tabled?_apply _ world) ?_
  cases absent : world.table.lookup (nameOfParts (last :: above)) with
  | some id => exact .pure _ held
  | none =>
      dsimp only
      cases tabled : world.table.lookup (nameOfParts above) with
      | none => exact .bind_of_error (Run.tabledOf_of_none tabled) held
      | some holder =>
          refine .bind_of_ok (Run.tabledOf_of_some tabled) ?_
          refine .bind_of_ok (Run.moduleOf_apply holder world) ?_
          have searched (directory : String)
              (searches : (world.moduleAt holder).searchPath = some directory) :
              regime.searched (nameOfParts above) directory :=
            regime.search held tabled searches
          refine (searchBelow_agrees permits inside single imports inner held absent searched).bind
            fun id after ended last => ?_
          obtain ⟨directory, searches⟩ := exists_searchPath_of_searchBelow ended
          cases bound : after.table.lookup (nameOfParts above) with
          | none => exact .bind_of_error (bindSubmodule_of_none bound) last
          | some holder =>
              refine .bind_of_ok (bindSubmodule_of_some bound _ id) (.pure _ ?_)
              exact regime.bind _ id last (searched directory searches) bound

include permits inside in
theorem importParts_agrees
    {parts : List String}
    (single : ∀ part ∈ parts, IsPart part)
    (imports : regime.imports parts)
    (held : regime.holds stage world) :
    regime.AgreesAt stage (importParts site loader parts) (importParts site other parts) world := by
  induction parts generalizing world with
  | nil => exact .throw _ held
  | cons last above ih =>
      refine .bind_of_ok (Run.tabled?_apply _ world) ?_
      cases absent : world.table.lookup (nameOfParts (last :: above)) with
      | some id => exact .pure _ held
      | none =>
          dsimp only
          split
          case isTrue root =>
              exact importIn_agrees permits inside single imports
                (fun target found => .top root found) _ held absent
          case isFalse inner =>
              have more : above ≠ [] := by
                rintro rfl
                exact inner nameOfParts_nil
              refine .bind_of_ok (Run.tabled?_apply _ world) ?_
              split
              · have upper :=
                  ih (fun part member => single part (List.mem_cons_of_mem _ member))
                    (regime.above imports more) held
                exact (upper.map _).bind fun _ _ _ later =>
                  importBelow_agrees permits inside single imports inner later
              · exact importBelow_agrees permits inside single imports inner held

include permits inside in
theorem importModule_agrees
    {name : String}
    (imports : regime.imports (nameParts name))
    (held : regime.holds stage world) :
    regime.AgreesAt stage (importModule site loader name) (importModule site other name) world := by
  unfold importModule
  split
  · exact .throw _ held
  · exact importParts_agrees permits inside (fun _ => isPart_of_mem_nameParts) imports held

/-! ## Loads -/

include permits inside in
theorem loadSource_agrees
    {file : String}
    (isKey : site.IsKey file)
    (held : regime.holds stage world)
    (absent : world.answer? site.registry file = none) :
    regime.AgreesAt stage (loadSource site loader file) (loadSource site other file) world := by
  let id := world.objects.size
  let inner := stage.openFile file id
  have nested : regime.Agrees inner loader other := inside inner (stage.size_openFile _ _)
  have body :
      regime.AgreesAt inner (Body.run site loader id file) (Body.run site other id file)
        (world.opened site.registry file) :=
    run_agrees nested rfl permits file (regime.openFile isKey held absent)
  constructor
  · rw [loadSource_apply, loadSource_apply, ← body.same]
  · unfold Run.final
    rw [loadSource_apply]
    cases ended : Body.run site loader id file (world.opened site.registry file) with
    | ok value middle =>
        exact regime.note _ rfl (regime.closeFile held absent (body.kept_of_ok ended))
    | error thrown middle =>
        have inside := body.kept_of_error ended
        dsimp only
        cases thrown.isOrdinary with
        | true => exact regime.discardFile _ held absent inside
        | false => exact regime.note _ rfl (regime.closeFile held absent inside)

include permits inside in
theorem loadFile_agrees
    {file : String}
    (isKey : site.IsKey file)
    (held : regime.holds stage world)
    (absent : world.answer? site.registry file = none) :
    regime.AgreesAt stage (loadFile site loader file) (loadFile site other file) world := by
  unfold loadFile
  split
  · refine .refl ?_
    cases read : site.document file with
    | ok content =>
        rw [Run.final_of_ok (loadDocument_of_ok read world)]
        exact regime.document content isKey held absent
    | error thrown =>
        obtain ⟨reported, -, failed⟩ := loadDocument_of_error read
        rw [Run.final_of_error (failed world)]
        exact held
  · exact loadSource_agrees permits inside isKey held absent

include permits inside in
theorem loadImport_agrees
    {specifier name : String}
    (imports : regime.imports (nameParts name))
    (held : regime.holds stage world) :
    regime.AgreesAt stage (loadImport site loader specifier name)
      (loadImport site other specifier name) world := by
  have imported :
      regime.AgreesAt stage (importAbsolute site loader name) (importAbsolute site other name)
        world := by
    unfold importAbsolute
    split
    · exact .throw _ held
    · exact importModule_agrees permits inside imports held
  have reported :
      regime.AgreesAt stage
        (tryCatch (importAbsolute site loader name) (reportImport site specifier))
        (tryCatch (importAbsolute site other name) (reportImport site specifier)) world := by
    refine imported.tryCatch fun thrown middle _ later => ?_
    unfold reportImport
    split
    · exact .bind_of_ok rfl (.throw _ (regime.note _ rfl later))
    · exact .throw _ later
  exact reported.bind fun id middle _ later =>
    .bind_of_ok rfl (.bind_of_ok rfl (.pure _ (regime.note _ rfl (regime.enter name id later))))

theorem loadKey_agrees
    {key : String}
    {run further : Run Export}
    (held : regime.holds stage world)
    (loads :
      ∀ middle, regime.holds stage middle → middle.answer? site.registry key = none →
        regime.AgreesAt stage run further middle) :
    regime.AgreesAt stage (loadKey site.registry key run) (loadKey site.registry key further)
      world := by
  cases known : world.answer? site.registry key with
  | some answer =>
      constructor
      · rw [loadKey_of_answer? known, loadKey_of_answer? known]
      · rw [Run.final_of_ok (loadKey_of_answer? known _)]
        exact regime.note _ rfl held
  | none =>
      have rest := loads _ (regime.note (.asked site.registry key none) rfl held) (absent_of_note known)
      constructor
      · rw [loadKey_of_absent known, loadKey_of_absent known, rest.same]
      · unfold Run.final
        rw [loadKey_of_absent known]
        exact rest.kept

include permits inside in
theorem aim_agrees
    {aim : Aim}
    (imports :
      ∀ specifier, aim = .name specifier → regime.imports (nameParts (dottedName specifier)))
    (held : regime.holds stage world) :
    regime.AgreesAt stage (aim.load site loader) (aim.load site other) world := by
  cases aim with
  | path reference =>
      unfold Aim.load loadPath
      dsimp only
      split
      case h_1 => exact .throw _ held
      case h_2 file chosen =>
          exact loadKey_agrees held fun middle later absent =>
            loadFile_agrees permits inside ⟨reference, file, chosen, rfl⟩ later absent
  | name specifier =>
      exact loadKey_agrees held fun middle later _ =>
        loadImport_agrees permits inside (imports specifier rfl) later

theorem relabel_agrees
    {run further : Run Export}
    (agrees : regime.AgreesAt stage run further world)
    (change : Context → Context) :
    regime.AgreesAt stage (tryCatch run fun thrown => throw (thrown.relabel change))
      (tryCatch further fun thrown => throw (thrown.relabel change)) world :=
  agrees.tryCatch fun _ _ _ later => .throw _ later

include permits inside in
theorem requireToken_agrees
    {base token : String}
    (requires : regime.Requires token)
    (held : regime.holds stage world) :
    regime.AgreesAt stage (requireToken site loader base token)
      (requireToken site other base token) world := by
  have aimed :
      regime.AgreesAt stage ((Aim.ofToken site base token).load site loader)
        ((Aim.ofToken site base token).load site other) world := by
    refine aim_agrees permits inside (fun specifier named => ?_) held
    unfold Aim.ofToken at named
    split at named
    case isTrue => cases named
    case isFalse bare =>
        cases named
        exact requires (eq_false_of_ne_true bare)
  unfold Aim.ofToken at aimed
  unfold requireToken
  dsimp only
  split
  case isTrue reference =>
      rw [if_pos reference] at aimed
      exact relabel_agrees aimed _
  case isFalse bare =>
      rw [if_neg bare] at aimed
      exact relabel_agrees aimed _

include permits inside in
/-- The loads of a site agree if the loads of its bodies agree at all stages inside. -/
theorem layer_agrees :
    regime.Agrees stage (.layer site loader) (.layer site other) where
  require requires held := requireToken_agrees permits inside requires held
  importModule imports held := importModule_agrees permits inside imports held

include permits inside in
/-- Requests agree if the loads of the bodies agree at all stages inside. -/
theorem request_agrees
    {request : Request}
    (imports :
      ∀ specifier, request.aim site = .name specifier →
        regime.imports (nameParts (dottedName specifier)))
    (held : regime.holds stage world) :
    regime.AgreesAt stage (request.load site loader) (request.load site other) world := by
  have requires {base token : String} (aim : request.aim site = .ofToken site base token) :
      regime.Requires token := by
    intro bare
    refine imports token ?_
    rw [aim, Aim.ofToken, bare]
    rfl
  cases request with
  | require base token => exact requireToken_agrees permits inside (requires rfl) held
  | execute base token =>
      exact relabel_agrees (requireToken_agrees permits inside (requires rfl) held) _
  | direct aim => exact aim_agrees permits inside imports held

/-- A loader that loads nothing agrees with itself. -/
theorem ofDepth_zero_agrees
    (stage : Stage) :
    regime.Agrees stage (.ofDepth site 0) (.ofDepth site 0) where
  require _ held := .throw _ held
  importModule _ held := .throw _ held

/-- The loader of a site keeps what a regime holds. -/
theorem ofDepth_agrees
    (permits : regime.PermitsSite)
    (depth : Nat)
    (stage : Stage) :
    regime.Agrees stage (.ofDepth site depth) (.ofDepth site depth) := by
  induction depth generalizing stage with
  | zero => exact ofDepth_zero_agrees stage
  | succ depth ih => exact layer_agrees permits fun inner _ => ih inner

end ConfigTokens.Module.Regime
