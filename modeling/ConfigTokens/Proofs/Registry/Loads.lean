import ConfigTokens.Module.Execute
import ConfigTokens.Proofs.Registry.History
import ConfigTokens.Proofs.Run.Body
import ConfigTokens.Proofs.Run.Ordinary
/-!
# Loads make histories

Whatever a load does to the world is a history, as long as the loads that its body starts make
histories. The equations `loadSource_apply` and its like say how a single load ends; a load that fills
its key is one that makes a history and leaves its export as the answer. A registry is asked before it
is filled.

Where no body in the tree raises a request to end, no body is abandoned.
-/

namespace ConfigTokens.Module

variable
    {failures : Prop}
    {site : Site}
    {loader : Loader}

/-! ## The promise of a history -/

/--
The changes are those of a history. With `failures`, nothing but failures is thrown, and no body is
abandoned.
-/
def Promise.history
    (failures : Prop) : Promise where
  moves start final :=
    ∃ events, World.History start events final ∧
      (failures → ∀ event ∈ events, event.isAbandonment = false)
  throws thrown := failures → thrown.isOrdinary = true
  refl world := ⟨[], .quiet rfl rfl (Nat.le_refl _), fun _ => List.forall_mem_nil _⟩
  trans := by
    rintro first second third ⟨earlier, early, before⟩ ⟨later, late, after⟩
    refine ⟨earlier ++ later, early.append late, fun holds => ?_⟩
    rw [List.forall_mem_append]
    exact ⟨before holds, after holds⟩

namespace Promise

theorem history_quiet
    {start final : World}
    (registries : final.registries = start.registries)
    (journal : final.journal = start.journal)
    (objects : start.objects.size ≤ final.objects.size) :
    (history failures).moves start final :=
  ⟨[], .quiet registries journal objects, fun _ => List.forall_mem_nil _⟩

theorem history_single
    {start final : World}
    {event : Event}
    (single : World.History start [event] final)
    (kept : event.isAbandonment = false) :
    (history failures).moves start final := by
  refine ⟨[event], single, fun _ => ?_⟩
  rw [List.forall_mem_singleton]
  exact kept

/-- Bodies and imports make histories, apart from the loads that they start. -/
theorem history_admits
    (raises : failures → site.raisesFailures = true) :
    (history failures).Admits site where
  push world object := history_quiet rfl rfl (by simp)
  setObject world id object := history_quiet rfl rfl (by simp [World.setObject])
  trace world text := history_quiet rfl rfl (Nat.le_refl _)
  tabulate world name id := history_quiet rfl rfl (Nat.le_refl _)
  untabulate world name := history_quiet rfl rfl (Nat.le_refl _)
  ordinary ordinary _ := ordinary
  raised read member holds := Site.isOrdinary_of_raisesFailures (raises holds) read member

end Promise

/-- Bodies make histories if the loads that they start do. -/
theorem Loader.Keeps.serves_history
    (loads : loader.Keeps (.history failures)) :
    loader.Serves (.history failures) :=
  loads.serves fun _ _ _ _ _ => Promise.history_single (.aside rfl) rfl

/-! ## How single loads end -/

theorem closeFailedBody_apply
    (site : Site)
    (file : String)
    (id : ObjectId)
    (thrown : Thrown)
    (world : World) :
    closeFailedBody site file id thrown world =
      if thrown.isOrdinary then
        .error (loadError file thrown) (world.discarded site.registry file thrown.message)
      else .error thrown (world.note (.bodyAbandoned site.registry file id)) := by
  unfold closeFailedBody
  split <;> rfl

/-- The load of a file as a module ends as its body does. -/
theorem loadSource_apply
    (site : Site)
    (loader : Loader)
    (file : String)
    (world : World) :
    loadSource site loader file world =
      match Body.run site loader world.objects.size file (world.opened site.registry file) with
      | .ok _ middle =>
        .ok (.module world.objects.size)
          (middle.note
            (.bodyEnded site.registry file (synthesizedName file) world.objects.size))
      | .error thrown middle =>
        if thrown.isOrdinary then
          .error (loadError file thrown) (middle.discarded site.registry file thrown.message)
        else
          .error thrown (middle.note (.bodyAbandoned site.registry file world.objects.size)) := by
  let finish : Unit → Run Export := fun _ => do
    Run.notify (.bodyEnded site.registry file (synthesizedName file) world.objects.size)
    return .module world.objects.size
  change
    EStateM.bind
      (EStateM.tryCatch (Body.run site loader world.objects.size file)
        (closeFailedBody site file world.objects.size))
      finish (world.opened site.registry file) = _
  unfold EStateM.bind EStateM.tryCatch
  cases Body.run site loader world.objects.size file (world.opened site.registry file) with
  | ok value middle => rfl
  | error thrown middle =>
      dsimp only [EStateM.Backtrackable.restore, EStateM.dummyRestore]
      rw [closeFailedBody_apply]
      cases thrown.isOrdinary with
      | true => rfl
      | false => rfl

theorem loadSource_of_ok
    {file : String}
    {world middle : World}
    (ran :
      Body.run site loader world.objects.size file (world.opened site.registry file) = .ok () middle) :
    loadSource site loader file world =
      .ok (.module world.objects.size)
        (middle.note
          (.bodyEnded site.registry file (synthesizedName file) world.objects.size)) := by
  rw [loadSource_apply, ran]

theorem loadSource_of_failure
    {file : String}
    {world middle : World}
    {thrown : Thrown}
    (failed :
      Body.run site loader world.objects.size file (world.opened site.registry file) =
        .error thrown middle)
    (ordinary : thrown.isOrdinary = true) :
    loadSource site loader file world =
      .error (loadError file thrown) (middle.discarded site.registry file thrown.message) := by
  rw [loadSource_apply, failed]
  exact if_pos ordinary

theorem loadSource_of_request
    {file : String}
    {world middle : World}
    {thrown : Thrown}
    (ended :
      Body.run site loader world.objects.size file (world.opened site.registry file) =
        .error thrown middle)
    (request : thrown.isOrdinary = false) :
    loadSource site loader file world =
      .error thrown (middle.note (.bodyAbandoned site.registry file world.objects.size)) := by
  rw [loadSource_apply, ended]
  exact if_neg (by rw [request]; exact Bool.false_ne_true)

theorem loadDocument_of_ok
    {file : String}
    {content : Json}
    (read : site.document file = .ok content)
    (world : World) :
    loadDocument site file world =
      .ok (world.documentAnswer content) (world.withDocument site.registry file content) := by
  unfold loadDocument
  rw [read]
  rfl

theorem loadDocument_of_error
    {file : String}
    {thrown : Thrown}
    (unread : site.document file = .error thrown) :
    ∃ reported, reported.isOrdinary = true ∧
      ∀ world, loadDocument site file world = .error reported world := by
  unfold loadDocument
  rw [unread]
  dsimp only
  split
  · exact ⟨_, rfl, fun _ => rfl⟩
  · exact ⟨_, rfl, fun _ => rfl⟩

/-! ## Loads that fill their key -/

/-- A load in a world without an answer for its key makes a history, and its export is the answer. -/
structure Run.Fills
    (load : Run Export)
    (failures : Prop)
    (registry : RegistryName)
    (key : String) : Prop where
  ofOk :
    ∀ {world answer final}, world.answer? registry key = none →
      load world = .ok answer final →
        (Promise.history failures).moves world final ∧ final.answer? registry key = some answer
  ofError :
    ∀ {world thrown final}, world.answer? registry key = none →
      load world = .error thrown final →
        (Promise.history failures).moves world final ∧ (failures → thrown.isOrdinary = true)

theorem loadSource_fills
    {file : String}
    (rooted : FileTree.isRooted file = true)
    (bodies : ∀ id, (Body.run site loader id file).Keeps (.history failures)) :
    (loadSource site loader file).Fills failures site.registry file where
  ofOk := by
    intro world answer final absent ended
    rw [loadSource_apply] at ended
    split at ended
    case h_1 value middle body =>
        cases ended
        rcases (bodies _).moves_of_ok body with ⟨events, history, inside⟩
        refine ⟨⟨_, .stayed rooted absent history rfl rfl, fun holds => ?_⟩, history.answer?_of_opened⟩
        exact Event.forall_mem_enclosed.mpr ⟨rfl, inside holds, rfl⟩
    case h_2 thrown middle body =>
        split at ended <;> cases ended
  ofError := by
    intro world thrown final absent ended
    rw [loadSource_apply] at ended
    split at ended
    case h_1 value middle body => cases ended
    case h_2 cause middle body =>
        rcases (bodies _).moves_of_error body with ⟨events, history, inside⟩
        split at ended
        case isTrue ordinary =>
            cases ended
            refine ⟨⟨_, .discarded rooted absent history, fun holds => ?_⟩, fun _ => rfl⟩
            exact Event.forall_mem_enclosed.mpr ⟨rfl, inside holds, rfl⟩
        case isFalse request =>
            cases ended
            -- With failures only there is no request, so there is nothing to show for them.
            have impossible (holds : failures) : False :=
              request ((bodies _).throws_of_error body holds)
            refine ⟨⟨_, .stayed rooted absent history rfl rfl, fun holds => ?_⟩, fun holds => ?_⟩
            · exact absurd holds impossible
            · exact absurd holds impossible

theorem loadDocument_fills
    {file : String}
    (rooted : FileTree.isRooted file = true) :
    (loadDocument site file).Fills failures site.registry file where
  ofOk := by
    intro world answer final absent ended
    cases read : site.document file with
    | ok content =>
        rw [loadDocument_of_ok read] at ended
        cases ended
        refine ⟨Promise.history_single (.document rooted absent) rfl, ?_⟩
        rw [World.answer?_withDocument, if_pos ⟨rfl, rfl⟩]
    | error thrown =>
        rcases loadDocument_of_error read with ⟨reported, -, failed⟩
        rw [failed] at ended
        cases ended
  ofError := by
    intro world thrown final absent ended
    cases read : site.document file with
    | ok content =>
        rw [loadDocument_of_ok read] at ended
        cases ended
    | error cause =>
        rcases loadDocument_of_error read with ⟨reported, ordinary, failed⟩
        rw [failed] at ended
        cases ended
        exact ⟨(Promise.history failures).refl world, fun _ => ordinary⟩

theorem loadFile_fills
    {file : String}
    (rooted : FileTree.isRooted file = true)
    (bodies : ∀ id, (Body.run site loader id file).Keeps (.history failures)) :
    (loadFile site loader file).Fills failures site.registry file := by
  unfold loadFile
  split
  · exact loadDocument_fills rooted
  · exact loadSource_fills rooted bodies

theorem loadImport_apply
    (site : Site)
    (loader : Loader)
    (specifier name : String)
    (world : World) :
    loadImport site loader specifier name world =
      match importAbsolute site loader name world with
      | .ok id middle =>
        .ok (.module id) (middle.withImport site.registry specifier name id)
      | .error thrown middle =>
        if thrown.isOrdinary then
          .error (loadError specifier thrown)
            (middle.note (.importFailed site.registry specifier thrown.message))
        else .error thrown middle := by
  let finish : ObjectId → Run Export := fun id => do
    Run.enter site.registry (importKey name) (.module id)
    Run.notify (.imported site.registry specifier name)
    return .module id
  change
    EStateM.bind
      (EStateM.tryCatch (importAbsolute site loader name) (reportImport site specifier))
      finish world = _
  unfold EStateM.bind EStateM.tryCatch
  cases importAbsolute site loader name world with
  | ok id middle => rfl
  | error thrown middle =>
      dsimp only [EStateM.Backtrackable.restore, EStateM.dummyRestore]
      unfold reportImport
      cases thrown.isOrdinary with
      | true => rfl
      | false => rfl

theorem loadImport_fills
    {specifier : String}
    (imports : (importAbsolute site loader (dottedName specifier)).Keeps (.history failures)) :
    (loadImport site loader specifier (dottedName specifier)).Fills failures site.registry
      (importKey (dottedName specifier)) where
  ofOk := by
    intro world answer final absent ended
    rw [loadImport_apply] at ended
    split at ended
    case h_1 id middle body =>
        cases ended
        rcases imports.moves_of_ok body with ⟨events, history, inside⟩
        refine ⟨⟨_, .imported absent history, fun holds => ?_⟩, ?_⟩
        · rw [List.forall_mem_append, List.forall_mem_singleton]
          exact ⟨inside holds, rfl⟩
        · rw [World.answer?_withImport, if_pos ⟨rfl, rfl⟩]
    case h_2 thrown middle body =>
        split at ended <;> cases ended
  ofError := by
    intro world thrown final absent ended
    rw [loadImport_apply] at ended
    split at ended
    case h_1 id middle body => cases ended
    case h_2 cause middle body =>
        rcases imports.moves_of_error body with ⟨events, history, inside⟩
        split at ended
        case isTrue ordinary =>
            cases ended
            refine ⟨⟨_, .importFailed absent history, fun holds => ?_⟩, fun _ => rfl⟩
            rw [List.forall_mem_append, List.forall_mem_singleton]
            exact ⟨inside holds, rfl⟩
        case isFalse =>
            cases ended
            exact ⟨⟨events, history, inside⟩, imports.throws_of_error body⟩

/-! ## Asking a registry -/

theorem loadKey_of_answer?
    {registry : RegistryName}
    {key : String}
    {world : World}
    {answer : Export}
    (known : world.answer? registry key = some answer)
    (load : Run Export) :
    loadKey registry key load world =
      .ok answer (world.note (.asked registry key (some answer))) := by
  change
    (world.answer? registry key).elim load pure
      (world.note (.asked registry key (world.answer? registry key))) = _
  rw [known]
  rfl

theorem loadKey_of_absent
    {registry : RegistryName}
    {key : String}
    {world : World}
    (absent : world.answer? registry key = none)
    (load : Run Export) :
    loadKey registry key load world = load (world.note (.asked registry key none)) := by
  change
    (world.answer? registry key).elim load pure
      (world.note (.asked registry key (world.answer? registry key))) = _
  rw [absent]
  rfl

theorem absent_of_note
    {world : World}
    {registry : RegistryName}
    {key : String}
    {event : Event}
    (absent : world.answer? registry key = none) :
    (world.note event).answer? registry key = none :=
  absent

theorem loadKey_keeps
    {registry : RegistryName}
    {key : String}
    {load : Run Export}
    (fills : load.Fills failures registry key) :
    (loadKey registry key load).Keeps (.history failures) := by
  have asks {world : World} {found : Option Export} (answer : world.answer? registry key = found) :
      (Promise.history failures).moves world (world.note (.asked registry key found)) :=
    Promise.history_single (.asked answer) rfl
  constructor
  · intro world value final ended
    cases known : world.answer? registry key with
    | some answer =>
        rw [loadKey_of_answer? known] at ended
        cases ended
        exact asks known
    | none =>
        rw [loadKey_of_absent known] at ended
        have filled := fills.ofOk (absent_of_note known) ended
        exact (Promise.history failures).trans (asks known) filled.1
  · intro world thrown final ended
    cases known : world.answer? registry key with
    | some answer =>
        rw [loadKey_of_answer? known] at ended
        cases ended
    | none =>
        rw [loadKey_of_absent known] at ended
        have failed := fills.ofError (absent_of_note known) ended
        exact (Promise.history failures).trans (asks known) failed.1
  · intro world thrown final ended
    cases known : world.answer? registry key with
    | some answer =>
        rw [loadKey_of_answer? known] at ended
        cases ended
    | none =>
        rw [loadKey_of_absent known] at ended
        exact (fills.ofError (absent_of_note known) ended).2

/-- What a load returns is the answer of its registry from then on. -/
theorem answer?_of_loadKey
    {registry : RegistryName}
    {key : String}
    {load : Run Export}
    (fills : load.Fills failures registry key)
    {world final : World}
    {answer : Export}
    (ended : loadKey registry key load world = .ok answer final) :
    final.answer? registry key = some answer := by
  cases known : world.answer? registry key with
  | some given =>
      rw [loadKey_of_answer? known] at ended
      cases ended
      exact known
  | none =>
      rw [loadKey_of_absent known] at ended
      exact (fills.ofOk (absent_of_note known) ended).2

end ConfigTokens.Module
