import ConfigTokens.Proofs.Registry.History
/-!
# Ledgers

A ledger keeps what the events so far tell: what each registry answers for a file, and the bodies that
are under way, the innermost first. `Ledger.Allows` says which events may come next: a body begins only
for a file without an answer, it is the innermost one when it ends, and whoever asks for a file is told
what the ledger has for it. The events of every history are allowed, one after the other
(`World.History.accepted`).

A ledger is sound if no file has two bodies under way, and if the module of each body is the answer for
its file. Soundness outlives every allowed event, so it holds at every moment of a history, and a body
that has begun reigns over its file until it is closed.
-/

namespace ConfigTokens.Module

/-- A body under way: the file that is loaded into a registry, and its module. -/
structure RunningBody where
  registry : RegistryName
  file : String
  id : ObjectId
  deriving DecidableEq, Repr

/--
Until a body is closed, no other body of its file begins in the same registry, whoever asks the registry
for the file gets the module of the body, and if the body ends, its module is what has been loaded.
-/
def RunningBody.Reigns
    (body : RunningBody)
    (events : List Event) : Prop :=
  ∀ past event rest, events = past ++ event :: rest →
    (∀ earlier ∈ past, earlier.closed? ≠ some (body.registry, body.file)) →
      (∀ id, event ≠ .bodyStarted body.registry body.file id) ∧
      (∀ found, event = .asked body.registry body.file found → found = some (.module body.id)) ∧
      ∀ name id, event = .bodyEnded body.registry body.file name id → id = body.id

/-- What the events so far tell. -/
structure Ledger where
  answer? : RegistryName → String → Option Export
  /-- The bodies under way, the innermost first. -/
  underWay : List RunningBody
  /-- Objects with this number or a greater one are not made yet. -/
  made : Nat

namespace Ledger

/-- The ledger in front of the first event. -/
def empty : Ledger :=
  ⟨fun _ _ => none, [], 0⟩

/-- The ledger with another answer, or none, for a file. -/
def put
    (ledger : Ledger)
    (registry : RegistryName)
    (file : String)
    (answer : Option Export) : Ledger :=
  { ledger with
    answer? := fun other sought =>
      if other = registry ∧ sought = file then answer else ledger.answer? other sought }

/-- The event may come next. -/
def Allows
    (ledger : Ledger) : Event → Prop
  | .bodyStarted registry file id =>
    FileTree.isRooted file = true ∧ ledger.answer? registry file = none ∧ ledger.made ≤ id
  | .documentLoaded registry file answer =>
    FileTree.isRooted file = true ∧ ledger.answer? registry file = none ∧ ledger.made ≤ answer.id
  | .bodyEnded registry file _ id | .bodyAbandoned registry file id =>
    ledger.underWay.head? = some ⟨registry, file, id⟩
  | .moduleDiscarded registry file _ => ∃ id, ledger.underWay.head? = some ⟨registry, file, id⟩
  | .asked registry key found =>
    FileTree.isRooted key = true → found = ledger.answer? registry key
  | _ => True

/-- The ledger after one more event. -/
def next
    (ledger : Ledger) : Event → Ledger
  | .bodyStarted registry file id =>
    { ledger.put registry file (some (.module id)) with
      underWay := ⟨registry, file, id⟩ :: ledger.underWay
      made := id + 1 }
  | .documentLoaded registry file answer =>
    { ledger.put registry file (some answer) with made := answer.id + 1 }
  | .bodyEnded .. | .bodyAbandoned .. => { ledger with underWay := ledger.underWay.tail }
  | .moduleDiscarded registry file _ =>
    { ledger.put registry file none with underWay := ledger.underWay.tail }
  | _ => ledger

/-- The ledger after some events. -/
def after
    (ledger : Ledger)
    (events : List Event) : Ledger :=
  events.foldl next ledger

/-- The events may come one after the other. -/
def Accepts
    (ledger : Ledger) : List Event → Prop
  | [] => True
  | event :: rest => ledger.Allows event ∧ (ledger.next event).Accepts rest

variable
    {ledger : Ledger}
    {event : Event}
    {events : List Event}

@[simp]
theorem after_nil :
    ledger.after [] = ledger := rfl

@[simp]
theorem after_cons :
    ledger.after (event :: events) = (ledger.next event).after events := rfl

@[simp]
theorem after_append
    (earlier later : List Event) :
    ledger.after (earlier ++ later) = (ledger.after earlier).after later :=
  List.foldl_append

@[simp]
theorem accepts_append
    {earlier later : List Event} :
    ledger.Accepts (earlier ++ later) ↔
      ledger.Accepts earlier ∧ (ledger.after earlier).Accepts later := by
  induction earlier generalizing ledger with
  | nil => simp [Accepts]
  | cons event rest ih => simp [Accepts, ih, and_assoc]

@[simp]
theorem accepts_singleton :
    ledger.Accepts [event] ↔ ledger.Allows event :=
  and_iff_left trivial

/-! ## Soundness -/

/-- No file has two bodies under way, and the module of each is the answer for its file. -/
structure Sound
    (ledger : Ledger) : Prop where
  alone : (ledger.underWay.map fun body => (body.registry, body.file)).Nodup
  answered :
    ∀ body ∈ ledger.underWay, ledger.answer? body.registry body.file = some (.module body.id)

theorem sound_of_underWay_eq_nil
    (idle : ledger.underWay = []) :
    ledger.Sound where
  alone := by simp [idle]
  answered := by simp [idle]

namespace Sound

/-- A file without an answer has no body under way. -/
theorem elsewhere
    (sound : ledger.Sound)
    {registry : RegistryName}
    {file : String}
    (absent : ledger.answer? registry file = none)
    {body : RunningBody}
    (running : body ∈ ledger.underWay) :
    ¬(body.registry = registry ∧ body.file = file) := by
  rintro ⟨rfl, rfl⟩
  rw [sound.answered body running] at absent
  cases absent

/-- The innermost body is the only one of its file. -/
theorem elsewhere_of_tail
    (sound : ledger.Sound)
    {first : RunningBody}
    (innermost : ledger.underWay.head? = some first)
    {body : RunningBody}
    (running : body ∈ ledger.underWay.tail) :
    ¬(body.registry = first.registry ∧ body.file = first.file) := by
  rintro ⟨registry, file⟩
  obtain ⟨rest, stack⟩ := List.head?_eq_some_iff.mp innermost
  have alone := sound.alone
  rw [stack, List.map_cons, List.nodup_cons] at alone
  rw [stack] at running
  exact alone.1 (List.mem_map.mpr ⟨body, running, by rw [registry, file]⟩)

theorem alone_tail
    (sound : ledger.Sound) :
    (ledger.underWay.tail.map fun body => (body.registry, body.file)).Nodup := by
  rw [List.map_tail]
  exact sound.alone.tail

/-- An allowed event keeps a ledger sound. -/
theorem next
    (sound : ledger.Sound)
    (allowed : ledger.Allows event) :
    (ledger.next event).Sound := by
  cases event with
  | bodyStarted registry file id =>
      obtain ⟨-, absent, -⟩ := allowed
      constructor
      · refine List.nodup_cons.mpr ⟨fun member => ?_, sound.alone⟩
        obtain ⟨body, running, same⟩ := List.mem_map.mp member
        exact sound.elsewhere absent running (Prod.mk.injEq .. ▸ same)
      · intro body running
        rcases List.mem_cons.mp running with rfl | older
        · exact if_pos ⟨rfl, rfl⟩
        · exact (if_neg (sound.elsewhere absent older)).trans (sound.answered body older)
  | documentLoaded registry file answer =>
      obtain ⟨-, absent, -⟩ := allowed
      refine ⟨sound.alone, fun body running => ?_⟩
      exact (if_neg (sound.elsewhere absent running)).trans (sound.answered body running)
  | bodyEnded registry file name id =>
      exact ⟨sound.alone_tail, fun body running => sound.answered body (List.mem_of_mem_tail running)⟩
  | bodyAbandoned registry file id =>
      exact ⟨sound.alone_tail, fun body running => sound.answered body (List.mem_of_mem_tail running)⟩
  | moduleDiscarded registry file reason =>
      obtain ⟨id, innermost⟩ := allowed
      refine ⟨sound.alone_tail, fun body running => ?_⟩
      have other := sound.elsewhere_of_tail innermost running
      exact (if_neg other).trans (sound.answered body (List.mem_of_mem_tail running))
  | _ => exact sound

theorem after
    (sound : ledger.Sound)
    (accepted : ledger.Accepts events) :
    (ledger.after events).Sound := by
  induction events generalizing ledger with
  | nil => exact sound
  | cons event rest ih => exact ih (sound.next accepted.1) accepted.2

end Sound

/-! ## Bodies under way -/

/-- The innermost body is the one of its file. -/
theorem Sound.eq_of_innermost
    (sound : ledger.Sound)
    {first body : RunningBody}
    (innermost : ledger.underWay.head? = some first)
    (running : body ∈ ledger.underWay)
    (same : body.registry = first.registry ∧ body.file = first.file) :
    body = first := by
  obtain ⟨rest, stack⟩ := List.head?_eq_some_iff.mp innermost
  rw [stack] at running
  rcases List.mem_cons.mp running with rfl | older
  · rfl
  · have inside : body ∈ ledger.underWay.tail := by simpa [stack] using older
    exact absurd same (sound.elsewhere_of_tail innermost inside)

/-- A body that is not the innermost one stays under way when that is closed. -/
theorem mem_tail_of_ne
    {first body : RunningBody}
    (innermost : ledger.underWay.head? = some first)
    (running : body ∈ ledger.underWay)
    (apart : body ≠ first) :
    body ∈ ledger.underWay.tail := by
  obtain ⟨rest, stack⟩ := List.head?_eq_some_iff.mp innermost
  rw [stack] at running ⊢
  exact (List.mem_cons.mp running).resolve_left apart

/-- A body stays under way until it is closed. -/
theorem mem_underWay_of_next
    (allowed : ledger.Allows event)
    {body : RunningBody}
    (running : body ∈ ledger.underWay)
    (unclosed : event.closed? ≠ some (body.registry, body.file)) :
    body ∈ (ledger.next event).underWay := by
  have apart {registry : RegistryName} {file : String} {id : ObjectId}
      (closed : event.closed? = some (registry, file)) : body ≠ ⟨registry, file, id⟩ := by
    rintro rfl
    exact unclosed closed
  cases event with
  | bodyStarted registry file id => exact List.mem_cons_of_mem _ running
  | bodyEnded registry file name id => exact mem_tail_of_ne allowed running (apart rfl)
  | bodyAbandoned registry file id => exact mem_tail_of_ne allowed running (apart rfl)
  | moduleDiscarded registry file reason =>
      obtain ⟨id, innermost⟩ := allowed
      exact mem_tail_of_ne innermost running (apart rfl)
  | _ => exact running

theorem mem_underWay_of_after
    (accepted : ledger.Accepts events)
    {body : RunningBody}
    (running : body ∈ ledger.underWay)
    (unclosed : ∀ event ∈ events, event.closed? ≠ some (body.registry, body.file)) :
    body ∈ (ledger.after events).underWay := by
  induction events generalizing ledger with
  | nil => exact running
  | cons event rest ih =>
      have still := mem_underWay_of_next accepted.1 running (unclosed event List.mem_cons_self)
      exact ih accepted.2 still fun later member => unclosed later (List.mem_cons_of_mem _ member)

/-- A body under way reigns over the events that follow. -/
theorem reigns
    (sound : ledger.Sound)
    (accepted : ledger.Accepts events)
    {body : RunningBody}
    (rooted : FileTree.isRooted body.file = true)
    (running : body ∈ ledger.underWay) :
    body.Reigns events := by
  rintro past event rest rfl unclosed
  obtain ⟨before, allowed, -⟩ := accepts_append.mp accepted
  have still := mem_underWay_of_after before running unclosed
  have now := sound.after before
  have known := now.answered body still
  refine ⟨?_, ?_, ?_⟩
  · rintro id rfl
    cases known.symm.trans allowed.2.1
  · rintro found rfl
    exact (allowed rooted).trans known
  · rintro name id rfl
    exact (congrArg RunningBody.id (now.eq_of_innermost allowed still ⟨rfl, rfl⟩)).symm

/-! ## What becomes of an answer -/

/-- An answer outlives every event but the failure of its own body, which is then the innermost one. -/
theorem answer?_next
    (sound : ledger.Sound)
    (allowed : ledger.Allows event)
    {registry : RegistryName}
    {file : String}
    {answer : Export}
    (known : ledger.answer? registry file = some answer) :
    (ledger.next event).answer? registry file = some answer ∨
      ∃ id reason, event = .moduleDiscarded registry file reason ∧ answer = .module id ∧
        ⟨registry, file, id⟩ ∈ ledger.underWay := by
  have elsewhere {other : RegistryName} {sought : String}
      (absent : ledger.answer? other sought = none) : ¬(registry = other ∧ file = sought) := by
    rintro ⟨rfl, rfl⟩
    rw [absent] at known
    cases known
  cases event with
  | bodyStarted other sought id =>
      exact .inl ((if_neg (elsewhere allowed.2.1)).trans known)
  | documentLoaded other sought given =>
      exact .inl ((if_neg (elsewhere allowed.2.1)).trans known)
  | moduleDiscarded other sought reason =>
      obtain ⟨id, innermost⟩ := allowed
      by_cases same : registry = other ∧ file = sought
      · obtain ⟨rfl, rfl⟩ := same
        have running := List.mem_of_mem_head? innermost
        have module := sound.answered _ running
        exact .inr ⟨id, reason, rfl, Option.some.inj (known.symm.trans module), running⟩
      · exact .inl ((if_neg same).trans known)
  | _ => exact .inl known

/-- A body that is under way after an allowed event was so before, or began for want of an answer. -/
theorem mem_underWay_next
    (allowed : ledger.Allows event)
    {body : RunningBody}
    (running : body ∈ (ledger.next event).underWay) :
    body ∈ ledger.underWay ∨ ledger.answer? body.registry body.file = none := by
  cases event with
  | bodyStarted registry file id =>
      rcases List.mem_cons.mp running with rfl | older
      · exact .inr allowed.2.1
      · exact .inl older
  | bodyEnded registry file name id => exact .inl (List.mem_of_mem_tail running)
  | bodyAbandoned registry file id => exact .inl (List.mem_of_mem_tail running)
  | moduleDiscarded registry file reason => exact .inl (List.mem_of_mem_tail running)
  | _ => exact .inl running

/--
An answer stays as long as its file is not discarded. Where it is, the answer was the module of a body
that has been under way all the time.
-/
theorem answer?_after
    (sound : ledger.Sound)
    (accepted : ledger.Accepts events)
    {registry : RegistryName}
    {file : String}
    {answer : Export}
    (known : ledger.answer? registry file = some answer) :
    (ledger.after events).answer? registry file = some answer ∨
      ∃ id reason, .moduleDiscarded registry file reason ∈ events ∧ answer = .module id ∧
        ⟨registry, file, id⟩ ∈ ledger.underWay := by
  induction events generalizing ledger with
  | nil => exact .inl known
  | cons event rest ih =>
      obtain ⟨allowed, later⟩ := accepted
      rcases answer?_next sound allowed known with kept | ⟨id, reason, rfl, module, running⟩
      · rcases ih (sound.next allowed) later kept with stays | ⟨id, reason, member, module, running⟩
        · exact .inl stays
        · refine .inr ⟨id, reason, List.mem_cons_of_mem _ member, module, ?_⟩
          -- The body did not begin with this event, since its file had an answer.
          rcases mem_underWay_next allowed running with older | absent
          · exact older
          · cases known.symm.trans absent
      · exact .inr ⟨id, reason, List.mem_cons_self, module, running⟩

/-! ## Answers of the past -/

theorem answer?_of_put
    {registry other : RegistryName}
    {file sought : String}
    {answer : Export}
    {given : Option Export}
    (known : (ledger.put other sought given).answer? registry file = some answer) :
    ledger.answer? registry file = some answer ∨ given = some answer := by
  change (if registry = other ∧ file = sought then given else ledger.answer? registry file) = _ at known
  split at known
  · exact .inr known
  · exact .inl known

theorem made_le_next
    (allowed : ledger.Allows event) :
    ledger.made ≤ (ledger.next event).made := by
  cases event with
  | bodyStarted registry file id => exact Nat.le_succ_of_le allowed.2.2
  | documentLoaded registry file answer => exact Nat.le_succ_of_le allowed.2.2
  | _ => exact Nat.le_refl _

/-- An answer after an allowed event was there before, or its object is made by the event. -/
theorem answer?_of_next
    (allowed : ledger.Allows event)
    {registry : RegistryName}
    {file : String}
    {answer : Export}
    (known : (ledger.next event).answer? registry file = some answer) :
    ledger.answer? registry file = some answer ∨
      ledger.made ≤ answer.id ∧ answer.id < (ledger.next event).made := by
  cases event with
  | bodyStarted other sought id =>
      refine (answer?_of_put known).imp_right fun new => ?_
      cases new
      exact ⟨allowed.2.2, Nat.lt_succ_self id⟩
  | documentLoaded other sought given =>
      refine (answer?_of_put known).imp_right fun new => ?_
      cases new
      exact ⟨allowed.2.2, Nat.lt_succ_self _⟩
  | moduleDiscarded other sought reason =>
      refine (answer?_of_put known).imp_right fun new => ?_
      cases new
  | _ => exact .inl known

/-- The answers of a registry for files are objects that are made. -/
def IsMade
    (ledger : Ledger)
    (registry : RegistryName) : Prop :=
  ∀ file answer, ledger.answer? registry file = some answer → answer.id < ledger.made

theorem IsMade.after
    {registry : RegistryName}
    (made : ledger.IsMade registry)
    (accepted : ledger.Accepts events) :
    (ledger.after events).IsMade registry := by
  induction events generalizing ledger with
  | nil => exact made
  | cons event rest ih =>
      refine ih (fun file answer known => ?_) accepted.2
      rcases answer?_of_next accepted.1 known with old | ⟨-, new⟩
      · exact Nat.lt_of_lt_of_le (made file answer old) (made_le_next accepted.1)
      · exact new

/-- A file has lost an answer whose object is made. -/
def HasLost
    (ledger : Ledger)
    (registry : RegistryName)
    (file : String)
    (answer : Export) : Prop :=
  ledger.answer? registry file ≠ some answer ∧ answer.id < ledger.made

/-- A lost answer does not come back, since new answers are new objects. -/
theorem HasLost.after
    {registry : RegistryName}
    {file : String}
    {answer : Export}
    (lost : ledger.HasLost registry file answer)
    (accepted : ledger.Accepts events) :
    (ledger.after events).HasLost registry file answer := by
  induction events generalizing ledger with
  | nil => exact lost
  | cons event rest ih =>
      have made := Nat.lt_of_lt_of_le lost.2 (made_le_next accepted.1)
      refine ih ⟨fun back => ?_, made⟩ accepted.2
      rcases answer?_of_next accepted.1 back with old | ⟨new, -⟩
      · exact lost.1 old
      · exact absurd lost.2 (Nat.not_lt.mpr new)

/-- A file that is discarded loses its answer. -/
theorem hasLost_of_discarded
    (accepted : ledger.Accepts events)
    {registry : RegistryName}
    {file reason : String}
    {answer : Export}
    (made : answer.id < ledger.made)
    (discarded : .moduleDiscarded registry file reason ∈ events) :
    (ledger.after events).HasLost registry file answer := by
  induction events generalizing ledger with
  | nil => cases discarded
  | cons event rest ih =>
      obtain ⟨allowed, later⟩ := accepted
      rcases List.mem_cons.mp discarded with rfl | inside
      · have gone : (ledger.next (.moduleDiscarded registry file reason)).answer? registry file = none :=
          if_pos ⟨rfl, rfl⟩
        have lost : (ledger.next (.moduleDiscarded registry file reason)).HasLost registry file answer :=
          ⟨by simp [gone], made⟩
        exact lost.after later
      · exact ih later (Nat.lt_of_lt_of_le made (made_le_next allowed)) inside

end Ledger

/-! ## The ledger of a world -/

namespace World

/-- The ledger has what the registries answer for files, and no fewer objects are made. -/
structure Fits
    (world : World)
    (ledger : Ledger) : Prop where
  answer? :
    ∀ registry file, FileTree.isRooted file = true →
      ledger.answer? registry file = world.answer? registry file
  made : ledger.made ≤ world.objects.size

/-- The ledger of a world in which no body is under way. -/
def ledger
    (world : World) : Ledger where
  answer? registry file := if FileTree.isRooted file then world.answer? registry file else none
  underWay := []
  made := world.objects.size

theorem fits_ledger
    (world : World) :
    world.Fits world.ledger where
  answer? _ _ rooted := if_pos rooted
  made := Nat.le_refl _

theorem sound_ledger
    (world : World) :
    world.ledger.Sound :=
  Ledger.sound_of_underWay_eq_nil rfl

namespace Fits

variable
    {world final : World}
    {ledger : Ledger}

theorem absent
    (fits : world.Fits ledger)
    {registry : RegistryName}
    {file : String}
    (rooted : FileTree.isRooted file = true)
    (absent : world.answer? registry file = none) :
    ledger.answer? registry file = none :=
  (fits.answer? registry file rooted).trans absent

/-- A ledger still fits when answers for files stay and objects are added. -/
theorem mono
    (fits : world.Fits ledger)
    (answers :
      ∀ registry file, FileTree.isRooted file = true →
        final.answer? registry file = world.answer? registry file)
    (objects : world.objects.size ≤ final.objects.size) :
    final.Fits ledger where
  answer? registry file rooted :=
    (fits.answer? registry file rooted).trans (answers registry file rooted).symm
  made := Nat.le_trans fits.made objects

theorem opened
    (fits : world.Fits ledger)
    (registry : RegistryName)
    (file : String) :
    (world.opened registry file).Fits
      (ledger.next (.bodyStarted registry file world.objects.size)) where
  answer? other sought rooted := by
    rw [answer?_opened, ← fits.answer? other sought rooted]
    rfl
  made := Nat.le_of_eq (size_objects_opened world registry file).symm

theorem withDocument
    (fits : world.Fits ledger)
    (registry : RegistryName)
    (file : String)
    (content : Json) :
    (world.withDocument registry file content).Fits
      (ledger.next (.documentLoaded registry file (world.documentAnswer content))) where
  answer? other sought rooted := by
    rw [answer?_withDocument, ← fits.answer? other sought rooted]
    rfl
  made := Nat.le_of_eq (size_objects_withDocument world registry file content).symm

theorem discarded
    (fits : world.Fits ledger)
    (registry : RegistryName)
    (file reason : String) :
    (world.discarded registry file reason).Fits
      (ledger.next (.moduleDiscarded registry file reason)) where
  answer? other sought rooted := by
    rw [answer?_discarded, ← fits.answer? other sought rooted]
    rfl
  made := fits.made

theorem withImport
    (fits : world.Fits ledger)
    (registry : RegistryName)
    (specifier name : String)
    (id : ObjectId) :
    (world.withImport registry specifier name id).Fits ledger := by
  refine fits.mono (fun other file rooted => ?_) (Nat.le_refl _)
  rw [answer?_withImport, if_neg fun same => importKey_ne_of_isRooted rooted same.2.symm]

end Fits

/-- The innermost body ends, and its file stays. -/
theorem Fits.left
    {world : World}
    {ledger : Ledger}
    (fits : world.Fits ledger)
    {registry : RegistryName}
    {file : String}
    {id : ObjectId}
    {last : Event}
    (left : last.left? = some (registry, file, .module id))
    (ends : last.endsBody = true)
    (innermost : ledger.underWay.head? = some ⟨registry, file, id⟩) :
    ledger.Allows last ∧ (world.note last).Fits (ledger.next last) ∧
      (ledger.next last).underWay = ledger.underWay.tail := by
  have noted : (world.note last).Fits ledger := fits.mono (fun _ _ _ => rfl) (Nat.le_refl _)
  cases last with
  | bodyEnded registry file name id =>
      cases left
      exact ⟨innermost, ⟨noted.answer?, noted.made⟩, rfl⟩
  | bodyAbandoned registry file id =>
      cases left
      exact ⟨innermost, ⟨noted.answer?, noted.made⟩, rfl⟩
  | _ => cases ends

/--
The events of a history are allowed by every ledger that fits its start. The ledger after them fits its
end, and the same bodies are under way as before.
-/
theorem History.accepted
    {start final : World}
    {events : List Event}
    (history : History start events final)
    {ledger : Ledger}
    (fits : start.Fits ledger) :
    ledger.Accepts events ∧ final.Fits (ledger.after events) ∧
      (ledger.after events).underWay = ledger.underWay := by
  induction history generalizing ledger with
  | quiet registries journal objects =>
      exact ⟨trivial, fits.mono (fun _ _ _ => answer?_congr registries) objects, rfl⟩
  | append first second earlier later =>
      obtain ⟨before, between, same⟩ := earlier fits
      obtain ⟨behind, last, sameToo⟩ := later between
      rw [Ledger.accepts_append, Ledger.after_append]
      exact ⟨⟨before, behind⟩, last, sameToo.trans same⟩
  | aside idle =>
      rename_i event
      have allowed : ledger.Allows event := by cases event <;> simp_all [Event.isIdle, Ledger.Allows]
      have same : ledger.next event = ledger := by
        cases event <;> simp_all [Event.isIdle, Ledger.next]
      rw [Ledger.after_cons, same]
      exact ⟨⟨allowed, trivial⟩, fits.mono (fun _ _ _ => rfl) (Nat.le_refl _), rfl⟩
  | asked found =>
      rename_i registry key answer
      have allowed : ledger.Allows (.asked registry key answer) := fun rooted =>
        found.symm.trans (fits.answer? registry key rooted).symm
      exact ⟨⟨allowed, trivial⟩, fits.mono (fun _ _ _ => rfl) (Nat.le_refl _), rfl⟩
  | document rooted absent =>
      exact ⟨⟨⟨rooted, fits.absent rooted absent, fits.made⟩, trivial⟩,
        fits.withDocument _ _ _, rfl⟩
  | stayed rooted absent body left ends ih =>
      obtain ⟨inside, fit, same⟩ := ih (fits.opened _ _)
      -- The bodies that the inner loads began have ended, so the innermost one is that of the file.
      obtain ⟨allowed, last, popped⟩ := fit.left left ends (congrArg List.head? same)
      rw [Ledger.after_cons, Ledger.after_append]
      refine ⟨⟨⟨rooted, fits.absent rooted absent, fits.made⟩, ?_⟩, last, ?_⟩
      · exact Ledger.accepts_append.mpr ⟨inside, allowed, trivial⟩
      · exact popped.trans (congrArg List.tail same)
  | discarded rooted absent body ih =>
      obtain ⟨inside, fit, same⟩ := ih (fits.opened _ _)
      rw [Ledger.after_cons, Ledger.after_append]
      refine ⟨⟨⟨rooted, fits.absent rooted absent, fits.made⟩, ?_⟩, fit.discarded _ _ _, ?_⟩
      · exact Ledger.accepts_append.mpr ⟨inside, ⟨_, congrArg List.head? same⟩, trivial⟩
      · exact congrArg List.tail same
  | imported absent body ih =>
      obtain ⟨inside, fit, same⟩ := ih fits
      rw [Ledger.accepts_append, Ledger.after_append]
      exact ⟨⟨inside, trivial, trivial⟩, fit.withImport _ _ _ _, same⟩
  | importFailed absent body ih =>
      obtain ⟨inside, fit, same⟩ := ih fits
      rw [Ledger.accepts_append, Ledger.after_append]
      exact ⟨⟨inside, trivial, trivial⟩, fit.mono (fun _ _ _ => rfl) (Nat.le_refl _), same⟩

end World

end ConfigTokens.Module
