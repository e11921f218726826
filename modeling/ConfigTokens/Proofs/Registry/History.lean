import ConfigTokens.Proofs.Registry.Change
import ConfigTokens.Proofs.Registry.Event
/-!
# Histories of the registries

A history is a list of events that lead from one world to another, as loads make them: a body stands
between its beginning and its end, with the loads that it starts in between. `World.History` says which
lists these are, and what each of them does to the registries.

What holds of every history is proved by induction on it. Answers are kept, and a key with an answer is
not loaded again. A file has an answer afterwards if it had one before, or if one of the events left it
in the registry. Files of a registry that have objects of their own keep having them.
-/

namespace ConfigTokens.Module

namespace World

/-- The events by which loads lead from one world to another. -/
inductive History : World → List Event → World → Prop where
  | quiet
      {start final : World}
      (registries : final.registries = start.registries)
      (journal : final.journal = start.journal)
      (objects : start.objects.size ≤ final.objects.size) :
      History start [] final
  | append
      {start middle final : World}
      {earlier later : List Event}
      (first : History start earlier middle)
      (second : History middle later final) :
      History start (earlier ++ later) final
  | aside
      {world : World}
      {event : Event}
      (idle : event.isIdle = true) :
      History world [event] (world.note event)
  | asked
      {world : World}
      {registry : RegistryName}
      {key : String}
      {found : Option Export}
      (answer : world.answer? registry key = found) :
      History world [.asked registry key found] (world.note (.asked registry key found))
  | document
      {world : World}
      {registry : RegistryName}
      {file : String}
      {content : Json}
      (rooted : FileTree.isRooted file = true)
      (absent : world.answer? registry file = none) :
      History world [.documentLoaded registry file (world.documentAnswer content)]
        (world.withDocument registry file content)
  /-- The body of a file ran to its end or was abandoned, and the file stays. -/
  | stayed
      {world middle : World}
      {events : List Event}
      {registry : RegistryName}
      {file : String}
      {last : Event}
      (rooted : FileTree.isRooted file = true)
      (absent : world.answer? registry file = none)
      (body : History (world.opened registry file) events middle)
      (left : last.left? = some (registry, file, .module world.objects.size))
      (ends : last.endsBody = true) :
      History world (.bodyStarted registry file world.objects.size :: (events ++ [last]))
        (middle.note last)
  | discarded
      {world middle : World}
      {events : List Event}
      {registry : RegistryName}
      {file reason : String}
      (rooted : FileTree.isRooted file = true)
      (absent : world.answer? registry file = none)
      (body : History (world.opened registry file) events middle) :
      History world
        (.bodyStarted registry file world.objects.size ::
          (events ++ [.moduleDiscarded registry file reason]))
        (middle.discarded registry file reason)
  | imported
      {world middle : World}
      {events : List Event}
      {registry : RegistryName}
      {specifier name : String}
      {id : ObjectId}
      (absent : world.answer? registry (importKey name) = none)
      (body : History world events middle) :
      History world (events ++ [.imported registry specifier name])
        (middle.withImport registry specifier name id)
  | importFailed
      {world middle : World}
      {events : List Event}
      {registry : RegistryName}
      {specifier reason : String}
      (absent : world.answer? registry (importKey (dottedName specifier)) = none)
      (body : History world events middle) :
      History world (events ++ [.importFailed registry specifier reason])
        (middle.note (.importFailed registry specifier reason))

namespace History

variable
    {start final : World}
    {events : List Event}

/-- The journal goes on with the events of a history. -/
theorem journal_eq
    (history : History start events final) :
    final.journal.toList = start.journal.toList ++ events := by
  induction history with
  | quiet registries journal objects => simp [journal]
  | append first second earlier later => simp [later, earlier]
  | aside idle => simp
  | asked answer => simp
  | document rooted absent => simp [withDocument, push]
  | stayed rooted absent body left ends ih => simp [ih, opened, tabulate, push]
  | discarded rooted absent body ih => simp [ih, opened, World.discarded, tabulate, untabulate, push]
  | imported absent body ih => simp [ih, withImport]
  | importFailed absent body ih => simp [ih]

theorem eventsSince_eq
    (history : History start events final) :
    final.eventsSince start.journal.size = events := by
  unfold eventsSince
  rw [history.journal_eq]
  exact List.drop_left' Array.length_toList

/-! ## Keys with an answer -/

/-- What a registry answers it goes on answering. -/
theorem answer?_kept
    (history : History start events final)
    {registry : RegistryName}
    {key : String}
    {answer : Export}
    (known : start.answer? registry key = some answer) :
    final.answer? registry key = some answer := by
  induction history with
  | quiet registries journal objects =>
      rw [answer?_congr registries]
      exact known
  | append first second earlier later => exact later (earlier known)
  | aside idle => exact known
  | asked found => exact known
  | document rooted absent =>
      rw [answer?_withDocument, if_neg (elsewhere_of_known absent known)]
      exact known
  | stayed rooted absent body left ends ih => exact ih (answer?_opened_of_known absent known)
  | discarded rooted absent body ih =>
      rw [answer?_discarded, if_neg (elsewhere_of_known absent known)]
      exact ih (answer?_opened_of_known absent known)
  | imported absent body ih =>
      rw [answer?_withImport, if_neg (elsewhere_of_known absent known)]
      exact ih known
  | importFailed absent body ih => exact ih known

/-- A key with an answer is respected by every event that follows. -/
theorem respects
    (history : History start events final)
    {registry : RegistryName}
    {key : String}
    {answer : Export}
    (known : start.answer? registry key = some answer) :
    ∀ event ∈ events, event.Respects registry key answer := by
  induction history with
  | quiet registries journal objects => exact List.forall_mem_nil _
  | append first second earlier later =>
      rw [List.forall_mem_append]
      exact ⟨earlier known, later (first.answer?_kept known)⟩
  | aside idle =>
      rw [List.forall_mem_singleton]
      exact Event.respects_of_isIdle idle registry key answer
  | asked found =>
      rw [List.forall_mem_singleton]
      refine ⟨by simp [Event.loaded?], fun other same => ?_⟩
      cases same
      exact found.symm.trans known
  | document rooted absent =>
      rw [List.forall_mem_singleton]
      exact Event.respects_of_loaded? rfl (elsewhere_of_known absent known)
  | stayed rooted absent body left ends ih =>
      have apart := elsewhere_of_known absent known
      have inside := ih (answer?_opened_of_known absent known)
      have closing := Event.loaded?_of_left? left
      rw [Event.forall_mem_enclosed]
      exact ⟨Event.respects_of_loaded? rfl apart, inside, Event.respects_of_loaded? closing apart⟩
  | discarded rooted absent body ih =>
      have apart := elsewhere_of_known absent known
      have inside := ih (answer?_opened_of_known absent known)
      rw [Event.forall_mem_enclosed]
      exact ⟨Event.respects_of_loaded? rfl apart, inside, Event.respects_of_loaded? rfl apart⟩
  | imported absent body ih =>
      rw [List.forall_mem_append, List.forall_mem_singleton]
      exact ⟨ih known, Event.respects_of_loaded? rfl (elsewhere_of_known absent known)⟩
  | importFailed absent body ih =>
      rw [List.forall_mem_append, List.forall_mem_singleton]
      exact ⟨ih known, Event.respects_of_loaded? rfl (elsewhere_of_known absent known)⟩

/-- The file whose body is running has an answer. -/
theorem answer?_of_opened
    {world middle : World}
    {registry : RegistryName}
    {file : String}
    (body : History (world.opened registry file) events middle) :
    middle.answer? registry file = some (.module world.objects.size) := by
  apply body.answer?_kept
  rw [answer?_opened, if_pos ⟨rfl, rfl⟩]

/-- The loads that a body starts leave other files than its own. -/
theorem elsewhere_of_opened
    {world middle : World}
    {registry other : RegistryName}
    {file sought : String}
    {answer : Export}
    (body : History (world.opened registry file) events middle)
    {event : Event}
    (member : event ∈ events)
    (left : event.left? = some (other, sought, answer)) :
    ¬(other = registry ∧ sought = file) := by
  rintro ⟨rfl, rfl⟩
  have known :
      (world.opened other sought).answer? other sought = some (.module world.objects.size) := by
    rw [answer?_opened, if_pos ⟨rfl, rfl⟩]
  exact (body.respects known event member).1 (Event.loaded?_of_left? left)

/-! ## Files that stay -/

/-- A file that was left in its registry is answered with its export from then on. -/
theorem answer?_of_left
    (history : History start events final)
    {registry : RegistryName}
    {file : String}
    {answer : Export}
    {event : Event}
    (member : event ∈ events)
    (left : event.left? = some (registry, file, answer)) :
    FileTree.isRooted file = true ∧ final.answer? registry file = some answer := by
  induction history with
  | quiet registries journal objects => cases member
  | append first second earlier later =>
      rcases List.mem_append.mp member with early | late
      · exact ⟨(earlier early).1, second.answer?_kept (earlier early).2⟩
      · exact later late
  | aside idle =>
      cases List.mem_singleton.mp member
      rw [Event.left?_of_isIdle idle] at left
      cases left
  | asked found =>
      cases List.mem_singleton.mp member
      cases left
  | document rooted absent =>
      cases List.mem_singleton.mp member
      cases left
      refine ⟨rooted, ?_⟩
      rw [answer?_withDocument, if_pos ⟨rfl, rfl⟩]
  | stayed rooted absent body closing ends ih =>
      rcases Event.mem_enclosed.mp member with rfl | inside | rfl
      · cases left
      · exact ih inside
      · cases closing.symm.trans left
        exact ⟨rooted, body.answer?_of_opened⟩
  | discarded rooted absent body ih =>
      rcases Event.mem_enclosed.mp member with rfl | inside | rfl
      · cases left
      · -- Only the body's own file is taken out, and no load inside leaves that one.
        rw [answer?_discarded, if_neg (body.elsewhere_of_opened inside left)]
        exact ih inside
      · cases left
  | imported absent body ih =>
      rcases List.mem_append.mp member with inside | last
      · refine ⟨(ih inside).1, ?_⟩
        rw [answer?_withImport, if_neg fun same => importKey_ne_of_isRooted (ih inside).1 same.2.symm]
        exact (ih inside).2
      · cases List.mem_singleton.mp last
        cases left
  | importFailed absent body ih =>
      rcases List.mem_append.mp member with inside | last
      · exact ih inside
      · cases List.mem_singleton.mp last
        cases left

/-- A file has an answer only if it had one, or if a load left it in the registry. -/
theorem left_of_answer?
    (history : History start events final)
    {registry : RegistryName}
    {file : String}
    {answer : Export}
    (rooted : FileTree.isRooted file = true)
    (known : final.answer? registry file = some answer) :
    start.answer? registry file = some answer ∨
      ∃ event ∈ events, event.left? = some (registry, file, answer) := by
  induction history with
  | quiet registries journal objects =>
      rw [answer?_congr registries] at known
      exact .inl known
  | append first second earlier later =>
      rcases later known with old | ⟨event, member, left⟩
      · rcases earlier old with older | ⟨event, member, left⟩
        · exact .inl older
        · exact .inr ⟨event, List.mem_append_left _ member, left⟩
      · exact .inr ⟨event, List.mem_append_right _ member, left⟩
  | aside idle => exact .inl known
  | asked found => exact .inl known
  | document rooted absent =>
      rw [answer?_withDocument] at known
      split at known
      case isTrue same =>
          cases known
          rcases same with ⟨rfl, rfl⟩
          exact .inr ⟨_, List.mem_singleton_self _, rfl⟩
      case isFalse => exact .inl known
  | stayed rooted absent body closing ends ih =>
      rcases ih known with old | ⟨event, member, left⟩
      · rw [answer?_opened] at old
        split at old
        -- The answer from the beginning of the body is the one that the last event leaves.
        case isTrue same =>
            cases old
            rcases same with ⟨rfl, rfl⟩
            exact .inr ⟨_, Event.mem_enclosed.mpr (.inr (.inr rfl)), closing⟩
        case isFalse => exact .inl old
      · exact .inr ⟨event, Event.mem_enclosed.mpr (.inr (.inl member)), left⟩
  | discarded rooted absent body ih =>
      rw [answer?_discarded] at known
      split at known
      case isTrue => cases known
      case isFalse apart =>
          rcases ih known with old | ⟨event, member, left⟩
          · rw [answer?_opened, if_neg apart] at old
            exact .inl old
          · exact .inr ⟨event, Event.mem_enclosed.mpr (.inr (.inl member)), left⟩
  | imported absent body ih =>
      rw [answer?_withImport, if_neg fun same => importKey_ne_of_isRooted rooted same.2.symm] at known
      rcases ih known with old | ⟨event, member, left⟩
      · exact .inl old
      · exact .inr ⟨event, List.mem_append_left _ member, left⟩
  | importFailed absent body ih =>
      rcases ih known with old | ⟨event, member, left⟩
      · exact .inl old
      · exact .inr ⟨event, List.mem_append_left _ member, left⟩

/-- The files that a registry answers are those before, and those that loads left there. -/
theorem answer?_eq_some_iff
    (history : History start events final)
    {registry : RegistryName}
    {file : String}
    {answer : Export}
    (rooted : FileTree.isRooted file = true) :
    final.answer? registry file = some answer ↔
      start.answer? registry file = some answer ∨
        ∃ event ∈ events, event.left? = some (registry, file, answer) := by
  constructor
  · exact history.left_of_answer? rooted
  · rintro (known | ⟨event, member, left⟩)
    · exact history.answer?_kept known
    · exact (history.answer?_of_left member left).2

/-- A body leaves the files alone that stay from the loads in it, and so does its last event. -/
theorem settled_of_opened
    {world middle : World}
    {registry : RegistryName}
    {file : String}
    {last : Event}
    (body : History (world.opened registry file) events middle)
    (settled : events.Pairwise Event.Settles)
    (loaded : last.loaded? = some (registry, file)) :
    (.bodyStarted registry file world.objects.size :: (events ++ [last])).Pairwise
      Event.Settles := by
  rw [List.pairwise_cons, List.pairwise_append]
  refine ⟨fun _ _ => Event.settles_of_left?_eq_none rfl, settled, List.pairwise_singleton _ _, ?_⟩
  intro before early after late other sought answer left
  cases List.mem_singleton.mp late
  exact Event.respects_of_loaded? loaded (body.elsewhere_of_opened early left)

/-- An import leaves the files alone that stay from the loads in it, and so does its last event. -/
theorem settled_of_import
    {registry : RegistryName}
    {name : String}
    {last : Event}
    (body : History start events final)
    (settled : events.Pairwise Event.Settles)
    (loaded : last.loaded? = some (registry, importKey name)) :
    (events ++ [last]).Pairwise Event.Settles := by
  rw [List.pairwise_append]
  refine ⟨settled, List.pairwise_singleton _ _, ?_⟩
  intro before early after late other sought answer left
  cases List.mem_singleton.mp late
  have rooted := (body.answer?_of_left early left).1
  exact Event.respects_of_loaded? loaded fun same => importKey_ne_of_isRooted rooted same.2.symm

/-- After a load left a file in its registry, the events that follow leave the file alone. -/
theorem settled
    (history : History start events final) :
    events.Pairwise Event.Settles := by
  induction history with
  | quiet registries journal objects => exact .nil
  | append first second earlier later =>
      rw [List.pairwise_append]
      refine ⟨earlier, later, ?_⟩
      intro before early after late registry file answer left
      -- What stays from the first part is known when the second part begins.
      have known := (first.answer?_of_left early left).2
      exact second.respects known after late
  | aside idle => exact List.pairwise_singleton _ _
  | asked found => exact List.pairwise_singleton _ _
  | document rooted absent => exact List.pairwise_singleton _ _
  | stayed rooted absent body left ends ih =>
      exact body.settled_of_opened ih (Event.loaded?_of_left? left)
  | discarded rooted absent body ih => exact body.settled_of_opened ih rfl
  | imported absent body ih => exact body.settled_of_import ih rfl
  | importFailed absent body ih => exact body.settled_of_import ih rfl

/-! ## Imported names -/

/-- A name has an answer if it had one, or if an import of it came to its end. -/
theorem isSome_answer?_importKey
    (history : History start events final)
    (registry : RegistryName)
    (name : String) :
    (final.answer? registry (importKey name)).isSome = true ↔
      (start.answer? registry (importKey name)).isSome = true ∨
        ∃ specifier, .imported registry specifier name ∈ events := by
  induction history with
  | quiet registries journal objects => simp [answer?_congr registries]
  | append first second earlier later =>
      simp only [later, earlier, List.mem_append, exists_or, or_assoc]
  | aside idle =>
      simp [Event.ne_imported_of_isIdle idle]
  | asked found => simp
  | document rooted absent => simp [answer?_withDocument, importKey_ne_of_isRooted rooted]
  | stayed rooted absent body left ends ih =>
      simp [ih, answer?_opened, importKey_ne_of_isRooted rooted, Event.ne_imported_of_left? left]
  | discarded rooted absent body ih =>
      simp [answer?_discarded, importKey_ne_of_isRooted rooted, ih, answer?_opened]
  | imported absent body ih =>
      rename_i other specifier known _
      -- The name in question may be the imported one or another.
      by_cases same : registry = other ∧ importKey name = importKey known
      · obtain ⟨rfl, equal⟩ := same
        cases importKey_injective equal
        simp [answer?_withImport]
      · have apart (given : String) :
            Event.imported registry given name ≠ .imported other specifier known := by
          intro equal
          cases equal
          exact same ⟨rfl, rfl⟩
        rw [answer?_withImport, if_neg same, ih]
        simp only [List.mem_append, List.mem_singleton, apart, or_false]
  | importFailed absent body ih => simp [ih]

/-! ## Files with objects of their own -/

/-- Files of a registry that have objects of their own keep having them. -/
theorem apart
    (history : History start events final)
    {registry : RegistryName}
    (before : start.Apart registry) :
    final.Apart registry := by
  induction history with
  | quiet registries journal objects =>
      refine before.anti (fun _ _ _ known => ?_) objects
      rw [answer?_congr registries] at known
      exact known
  | append first second earlier later => exact later (earlier before)
  | aside idle => exact before.note _
  | asked found => exact before.note _
  | document rooted absent =>
      exact before.grown (answer?_withDocument _ _ _ _ · _) rfl (size_objects_withDocument _ _ _ _)
  | stayed rooted absent body left ends ih =>
      exact (ih (before.grown (answer?_opened _ _ _ _) rfl (size_objects_opened _ _ _))).note _
  | discarded rooted absent body ih =>
      have opened := ih (before.grown (answer?_opened _ _ _ _) rfl (size_objects_opened _ _ _))
      refine opened.anti (fun _ _ _ known => ?_) (Nat.le_refl _)
      rw [answer?_discarded] at known
      split at known
      · cases known
      · exact known
  | imported absent body ih =>
      refine (ih before).anti (fun _ _ rooted known => ?_) (Nat.le_refl _)
      rw [answer?_withImport, if_neg fun same => importKey_ne_of_isRooted rooted same.2.symm] at known
      exact known
  | importFailed absent body ih => exact (ih before).note _

end History

end World

end ConfigTokens.Module
