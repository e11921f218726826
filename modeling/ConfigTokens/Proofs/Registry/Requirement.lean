import ConfigTokens.Proofs.Registry.Identity
import ConfigTokens.Proofs.Registry.Ledger
import ConfigTokens.Proofs.Run.Load
/-!
# What bodies have required

When a body requires a token for a file, the registry answers: the event in front of the requirement
tells of the answer, be it that the registry had it, or that the file was loaded to its end. From then
on the registry has that answer until the file is discarded, and that happens only to a file whose own
body was under way when it was required, and failed afterwards.
-/

namespace ConfigTokens

open ConfigTokens.Module

/-- The file or name for which a load got an answer, and the answer. -/
def Event.given? : Event → Option (RegistryName × String × Export)
  | .asked registry key (some answer) => some (registry, key, answer)
  | event => event.completed?

namespace Module

/-- An allowed event that tells of an answer for a file leaves the ledger with that answer. -/
theorem Ledger.answer?_of_given?
    {ledger : Ledger}
    {event : Event}
    {registry : RegistryName}
    {file : String}
    {answer : Export}
    (sound : ledger.Sound)
    (allowed : ledger.Allows event)
    (rooted : FileTree.isRooted file = true)
    (given : event.given? = some (registry, file, answer)) :
    (ledger.next event).answer? registry file = some answer := by
  cases event with
  | asked other key found =>
      cases found with
      | none => cases given
      | some known =>
          cases given
          exact (allowed rooted).symm
  | bodyEnded other sought name id =>
      cases given
      exact sound.answered _ (List.mem_of_mem_head? allowed)
  | documentLoaded other sought known =>
      cases given
      exact if_pos ⟨rfl, rfl⟩
  | _ => cases given

/-- Every token for a file that a body required was answered by the event in front of it. -/
def Linked
    (site : Site)
    (events : List Event) : Prop :=
  ∀ past self base token answer rest, events = past ++ .required self base token answer :: rest →
    isFileReference token = true →
      ∃ file, (Aim.ofToken site base token).key? site = some file ∧
        past.getLast?.bind Event.given? = some (site.registry, file, answer)

namespace Linked

variable {site : Site}

theorem nil :
    Linked site [] := by
  intro past self base token answer rest parts
  cases List.append_eq_nil_iff.mp parts.symm |>.2

theorem append
    {earlier later : List Event}
    (first : Linked site earlier)
    (second : Linked site later) :
    Linked site (earlier ++ later) := by
  intro past self base token answer rest parts reference
  rcases List.append_eq_append_iff.mp parts with ⟨before, rfl, inside⟩ | ⟨after, inside, start⟩
  · obtain ⟨file, resolved, given⟩ := second before self base token answer rest inside reference
    obtain ⟨event, last, gives⟩ := Option.bind_eq_some_iff.mp given
    refine ⟨file, resolved, ?_⟩
    rw [List.getLast?_append, last]
    exact gives
  · cases after with
    | nil =>
        -- No event stands in front of the second part, so it does not begin with a requirement.
        obtain ⟨file, -, given⟩ := second [] self base token answer rest start.symm reference
        cases given
    | cons event more =>
        cases start
        exact first past self base token answer more inside reference

theorem singleton
    {event : Event}
    (other : event.isRequirement = false) :
    Linked site [event] := by
  intro past self base token answer rest parts
  have member : Event.required self base token answer ∈ [event] := by simp [parts]
  cases List.mem_singleton.mp member
  cases other

/-- A requirement may follow events that end with an answer for its token. -/
theorem required
    {events : List Event}
    (linked : Linked site events)
    (self : ObjectId)
    {base token : String}
    {answer : Export}
    (answered :
      isFileReference token = true →
        ∃ file, (Aim.ofToken site base token).key? site = some file ∧
          events.getLast?.bind Event.given? = some (site.registry, file, answer)) :
    Linked site (events ++ [.required self base token answer]) := by
  intro past other place text given rest parts reference
  rcases List.eq_nil_or_concat rest with rfl | ⟨more, final, rfl⟩
  · obtain ⟨rfl, same⟩ := List.append_inj' parts rfl
    cases same
    exact answered reference
  · rw [List.concat_eq_append, ← List.cons_append, ← List.append_assoc] at parts
    exact linked past other place text given more (List.append_inj' parts rfl).1 reference

end Linked

/-- The events that a computation adds to the journal are linked. -/
def Promise.linked
    (site : Site) : Promise where
  moves start final :=
    ∃ events, final.journal.toList = start.journal.toList ++ events ∧ Linked site events
  throws _ := True
  refl world := ⟨[], (List.append_nil _).symm, .nil⟩
  trans := by
    rintro first second third ⟨earlier, early, before⟩ ⟨later, late, after⟩
    refine ⟨earlier ++ later, ?_, before.append after⟩
    rw [late, early, List.append_assoc]

variable
    {site : Site}
    {loader : Loader}

theorem Promise.linked_admitsLoads
    (site : Site) :
    (linked site).AdmitsLoads site where
  push world object := (linked site).refl world
  setObject world id object := (linked site).refl world
  trace world text := (linked site).refl world
  tabulate world name id := (linked site).refl world
  untabulate world name := (linked site).refl world
  ordinary _ := trivial
  raised _ _ := trivial
  enter world registry key answer := (linked site).refl world
  leave world registry key := (linked site).refl world
  note world event other := ⟨[event], by simp, .singleton other⟩

/-- The last event of a load of a file tells of its answer. -/
theorem exists_given_of_loadFile
    (serves : loader.Serves (.linked site))
    {file : String}
    {world final : World}
    {answer : Export}
    (ended : loadFile site loader file world = .ok answer final) :
    ∃ events event, final.journal.toList = world.journal.toList ++ (events ++ [event]) ∧
      event.given? = some (site.registry, file, answer) := by
  unfold loadFile at ended
  split at ended
  case isTrue =>
      cases read : site.document file with
      | ok content =>
          rw [loadDocument_of_ok read] at ended
          cases ended
          exact ⟨[], .documentLoaded site.registry file _, by simp [World.withDocument, World.push], rfl⟩
      | error thrown =>
          obtain ⟨reported, -, failed⟩ := loadDocument_of_error read
          rw [failed] at ended
          cases ended
  case isFalse =>
      rw [loadSource_apply] at ended
      split at ended
      case h_1 value middle body =>
          cases ended
          have admits := (Promise.linked_admitsLoads site).toAdmits
          have kept := Body.run_keeps admits serves world.objects.size file
          obtain ⟨events, grown, -⟩ := kept.moves_of_ok body
          let started : Event := .bodyStarted site.registry file world.objects.size
          let last : Event := .bodyEnded site.registry file (synthesizedName file) world.objects.size
          refine ⟨started :: events, last, ?_, rfl⟩
          simp [started, last, grown, World.opened, World.tabulate, World.push]
      case h_2 thrown middle body =>
          split at ended <;> cases ended

/-- The last event of a request for a file that succeeds tells of its answer. -/
theorem exists_given_of_requireToken
    (serves : loader.Serves (.linked site))
    {base token : String}
    (reference : isFileReference token = true)
    {world final : World}
    {answer : Export}
    (ended : requireToken site loader base token world = .ok answer final) :
    ∃ events event file, final.journal.toList = world.journal.toList ++ (events ++ [event]) ∧
      (Aim.ofToken site base token).key? site = some file ∧
        event.given? = some (site.registry, file, answer) := by
  rw [(requireToken_rewords site loader base token).ok_iff] at ended
  cases resolved : (Aim.ofToken site base token).key? site with
  | none =>
      obtain ⟨thrown, -, failed⟩ := Aim.load_of_key?_eq_none loader resolved
      rw [failed] at ended
      cases ended
  | some file =>
      rw [Aim.load_of_key? resolved] at ended
      cases known : world.answer? site.registry file with
      | some given =>
          rw [loadKey_of_answer? known] at ended
          cases ended
          exact ⟨[], .asked site.registry file (some answer), file, by simp, rfl, rfl⟩
      | none =>
          rw [loadKey_of_absent known] at ended
          have aim : (Aim.ofToken site base token).fill site loader file = loadFile site loader file := by
            unfold Aim.ofToken
            rw [if_pos reference]
            rfl
          rw [aim] at ended
          obtain ⟨events, event, grown, given⟩ := exists_given_of_loadFile serves ended
          refine ⟨.asked site.registry file none :: events, event, file, ?_, rfl, given⟩
          simp [grown]

/-- The loads of a site link what its bodies require. -/
theorem Loader.layer_serves_linked
    (serves : loader.Serves (.linked site)) :
    (layer site loader).Serves (.linked site) where
  require self token := by
    have keeps := (Promise.linked_admitsLoads site).requireToken_keeps serves
    refine Body.require_keeps keeps self token fun {base world answer middle} loaded => ?_
    obtain ⟨events, grown, linked⟩ := (keeps base token).moves_of_ok loaded
    refine ⟨events ++ [.required self base token answer], by simp [grown], ?_⟩
    refine linked.required self fun reference => ?_
    obtain ⟨earlier, event, file, shape, resolved, given⟩ :=
      exists_given_of_requireToken serves reference loaded
    have parts : events = earlier ++ [event] := List.append_cancel_left (grown.symm.trans shape)
    exact ⟨file, resolved, by simp [parts, given]⟩
  importModule := ((Promise.linked_admitsLoads site).layer_keeps serves).importModule

theorem Loader.ofDepth_serves_linked
    (site : Site)
    (depth : Nat) :
    (ofDepth site depth).Serves (.linked site) := by
  induction depth with
  | zero =>
      constructor
      · intro self token
        exact Body.require_keeps (fun _ _ => .throw trivial) self token fun loaded => by cases loaded
      · exact fun _ => .throw trivial
  | succ depth ih => exact layer_serves_linked ih

/-- The loads that functions make link what the bodies below them require. -/
theorem Loader.ofDepth_keeps_linked
    (site : Site)
    (depth : Nat) :
    (ofDepth site depth).Keeps (.linked site) := by
  cases depth with
  | zero => exact ⟨fun _ _ => .throw trivial, fun _ => .throw trivial⟩
  | succ depth =>
      exact (Promise.linked_admitsLoads site).layer_keeps (ofDepth_serves_linked site depth)

/-- The events of a call are linked. -/
theorem Call.linked
    (call : Call)
    (world : World) :
    Linked call.site ((call.after world).eventsSince world.journal.size) := by
  have admits := Promise.linked_admitsLoads call.site
  have serves := Loader.ofDepth_serves_linked call.site call.site.depth
  have keeps := Loader.ofDepth_keeps_linked call.site call.site.depth
  have kept : call.run.Keeps (.linked call.site) := admits.call_keeps serves keeps.require
  obtain ⟨events, grown, linked⟩ := kept.moves_final world
  have same : (call.after world).eventsSince world.journal.size = events := by
    unfold World.eventsSince Call.after
    rw [grown]
    exact List.drop_left' Array.length_toList
  rw [same]
  exact linked

namespace World

theorem isMade_ledger
    {world : World}
    {registry : RegistryName}
    (apart : world.Apart registry) :
    world.ledger.IsMade registry := by
  intro file answer known
  change (if FileTree.isRooted file = true then _ else _) = _ at known
  split at known
  case isTrue rooted => exact apart.made file answer rooted known
  case isFalse => cases known

theorem isRooted_of_key?
    {site : Site}
    {base token file : String}
    (reference : isFileReference token = true)
    (resolved : (Aim.ofToken site base token).key? site = some file) :
    FileTree.isRooted file = true := by
  unfold Aim.ofToken at resolved
  rw [if_pos reference] at resolved
  obtain ⟨chosen, found, rfl⟩ := Option.map_eq_some_iff.mp resolved
  exact Site.isRooted_key found

/-- An answer that a file has no more does not come back. -/
theorem History.answer?_lost
    {start final : World}
    {events : List Event}
    (history : History start events final)
    {registry : RegistryName}
    {file : String}
    {answer : Export}
    (rooted : FileTree.isRooted file = true)
    (lost : start.answer? registry file ≠ some answer)
    (made : answer.id < start.objects.size) :
    final.answer? registry file ≠ some answer := by
  obtain ⟨accepted, fits, -⟩ := history.accepted start.fits_ledger
  have before : start.ledger.HasLost registry file answer := by
    refine ⟨?_, made⟩
    rw [start.fits_ledger.answer? registry file rooted]
    exact lost
  rw [← fits.answer? registry file rooted]
  exact (before.after accepted).1

/-- When a body has got an answer for a file, the ledger of the events so far has that answer. -/
theorem answer?_of_linked
    {site : Site}
    {ledger : Ledger}
    (sound : ledger.Sound)
    {past rest : List Event}
    {self : ObjectId}
    {base token : String}
    {answer : Export}
    (linked : Linked site (past ++ .required self base token answer :: rest))
    (accepted : ledger.Accepts past)
    (reference : isFileReference token = true) :
    ∃ file, (Aim.ofToken site base token).key? site = some file ∧
      FileTree.isRooted file = true ∧
        (ledger.after past).answer? site.registry file = some answer := by
  obtain ⟨file, resolved, given⟩ := linked past self base token answer rest rfl reference
  obtain ⟨event, last, gives⟩ := Option.bind_eq_some_iff.mp given
  obtain ⟨first, rfl⟩ := List.getLast?_eq_some_iff.mp last
  have rooted : FileTree.isRooted file = true := isRooted_of_key? reference resolved
  obtain ⟨inFirst, allowed⟩ := Ledger.accepts_append.mp accepted
  have told :=
    Ledger.answer?_of_given? (sound.after inFirst) (Ledger.accepts_singleton.mp allowed) rooted gives
  exact ⟨file, resolved, rooted, by simpa using told⟩

/--
In a run from an empty registry, whatever a body gets for a file that it requires is the answer of the
registry for that file after every later call, unless the file is discarded later in the same call. Then
the body got a module whose own body was under way, and the registry has that module no more.
-/
theorem answer?_of_required
    {start : World}
    (call : Call)
    (empty : start.registry call.site.registry = [])
    (earlier later : List Call)
    {past rest : List Event}
    {self : ObjectId}
    {base token : String}
    {answer : Export}
    (events :
      (call.after (start.afterCalls earlier)).eventsSince (start.afterCalls earlier).journal.size =
        past ++ .required self base token answer :: rest)
    (reference : isFileReference token = true) :
    let before := start.afterCalls earlier
    let final := (call.after before).afterCalls later
    ∃ file, (Aim.ofToken call.site base token).key? call.site = some file ∧
      (final.answer? call.site.registry file = some answer ↔
        ∀ reason, .moduleDiscarded call.site.registry file reason ∉ rest) ∧
      (final.answer? call.site.registry file ≠ some answer →
        ∃ id, answer = .module id ∧
          ⟨call.site.registry, file, id⟩ ∈ (before.ledger.after past).underWay) := by
  intro before final
  have history : History before (past ++ .required self base token answer :: rest)
      (call.after before) := events ▸ before.afterCalls_history [call]
  have since : History (call.after before) _ final := (call.after before).afterCalls_history later
  obtain ⟨accepted, fits, -⟩ := history.accepted before.fits_ledger
  obtain ⟨front, behind⟩ := Ledger.accepts_append.mp accepted
  rw [Ledger.after_append] at fits
  have sound : (before.ledger.after past).Sound := before.sound_ledger.after front
  obtain ⟨file, resolved, rooted, known⟩ :=
    answer?_of_linked before.sound_ledger (events ▸ call.linked before) front reference
  have gone (reason : String) (discarded : .moduleDiscarded call.site.registry file reason ∈ rest) :
      final.answer? call.site.registry file ≠ some answer := by
    have apart : before.Apart call.site.registry :=
      (start.afterCalls_history earlier).apart (apart_of_registry_eq_nil empty)
    have made : answer.id < (before.ledger.after past).made :=
      (isMade_ledger apart).after front file answer known
    have lost := Ledger.hasLost_of_discarded behind made (List.mem_cons_of_mem _ discarded)
    have absent := lost.1
    rw [fits.answer? _ _ rooted] at absent
    exact since.answer?_lost rooted absent (Nat.lt_of_lt_of_le lost.2 fits.made)
  have kept :
      final.answer? call.site.registry file = some answer ∨
        ∃ id reason, .moduleDiscarded call.site.registry file reason ∈ rest ∧ answer = .module id ∧
          ⟨call.site.registry, file, id⟩ ∈ (before.ledger.after past).underWay := by
    rcases Ledger.answer?_after sound behind known with still | ⟨id, reason, member, module, running⟩
    · rw [fits.answer? _ _ rooted] at still
      exact .inl (since.answer?_kept still)
    · rcases List.mem_cons.mp member with other | inside
      · cases other
      · exact .inr ⟨id, reason, inside, module, running⟩
  refine ⟨file, resolved, ⟨fun still reason discarded => gone reason discarded still, ?_⟩, ?_⟩
  · intro undisturbed
    rcases kept with still | ⟨id, reason, discarded, -⟩
    · exact still
    · exact absurd discarded (undisturbed reason)
  · intro lost
    rcases kept with still | ⟨id, -, -, module, running⟩
    · exact absurd still lost
    · exact ⟨id, module, running⟩

end World

/-!
## A site with two modules

The root holds two files, whose bodies are left open, and a call requires the first one. With bodies
that require each other the second module gets the first one as far as it has come; `load_brokenCycle`
is the load in which the first body fails after that.
-/

section TwoModules

/-- The path of the first module. -/
def firstFile : String :=
  "/a.py"

/-- The path of the second module. -/
def secondFile : String :=
  "/b.py"

/-- The site with the two modules. -/
def pairSite
    (first second : List Step) : Site where
  tree :=
    ⟨[(["a.py"], .file (.program (.steps first))), (["b.py"], .file (.program (.steps second)))]⟩
  cwd := []
  importRoot := "/"
  registry := none
  interpreter := .usual

/-- The call that requires the first module. -/
def pairCall
    (first second : List Step) : Call :=
  ⟨pairSite first second, .require "/" "./a"⟩

variable
    (first second : List Step)

/-! ### Finding the modules -/

theorem entry?_firstFile :
    (pairSite first second).tree.entry? ["a.py"] = some (.file (.program (.steps first))) := rfl

theorem entry?_secondFile :
    (pairSite first second).tree.entry? ["b.py"] = some (.file (.program (.steps second))) := rfl

theorem entry?_above_pair
    (name : String) :
    ∀ count < 1, (pairSite first second).tree.entry? ([name].take count) = some .directory := by
  intro count less
  match count, less with
  | 0, _ => rfl

theorem find_firstFile :
    (pairSite first second).tree.find true (pairSite first second).cwd firstFile =
      .ok (["a.py"], .file (.program (.steps first))) := by
  have spells : FileTree.Spells firstFile ["a.py"] :=
    ⟨by decide, by decide, by decide, by decide⟩
  exact FileTree.find_of_entry spells (entry?_above_pair first second "a.py")
    (entry?_firstFile first second) (by simp)

theorem find_secondFile :
    (pairSite first second).tree.find true (pairSite first second).cwd secondFile =
      .ok (["b.py"], .file (.program (.steps second))) := by
  have spells : FileTree.Spells secondFile ["b.py"] :=
    ⟨by decide, by decide, by decide, by decide⟩
  exact FileTree.find_of_entry spells (entry?_above_pair first second "b.py")
    (entry?_secondFile first second) (by simp)

theorem program_firstFile :
    (pairSite first second).program firstFile = .ok (.steps first) :=
  Site.program_of_find (find_firstFile first second)

theorem program_secondFile :
    (pairSite first second).program secondFile = .ok (.steps second) :=
  Site.program_of_find (find_secondFile first second)

/-- A path without a suffix denotes nothing, so the file with the suffix is found for it. -/
theorem findFile_pair
    {path file name : String}
    {others : List String}
    (listed : candidates path = path :: file :: others)
    (spells : FileTree.Spells path [name])
    (absent : (pairSite first second).tree.entry? [name] = none)
    (present : (pairSite first second).isFile file = true) :
    (pairSite first second).findFile path = some file := by
  have bare : (pairSite first second).isFile path = false :=
    FileTree.isFile_of_absent spells (entry?_above_pair first second name) absent
  simp [Site.findFile, listed, bare, present]

theorem findFile_firstFile :
    (pairSite first second).findFile "/a" = some firstFile := by
  have spells : FileTree.Spells "/a" ["a"] := ⟨by decide, by decide, by decide, by decide⟩
  exact findFile_pair first second rfl spells rfl (Site.isFile_of_find (find_firstFile first second))

theorem findFile_secondFile :
    (pairSite first second).findFile "/b" = some secondFile := by
  have spells : FileTree.Spells "/b" ["b"] := ⟨by decide, by decide, by decide, by decide⟩
  exact findFile_pair first second rfl spells rfl (Site.isFile_of_find (find_secondFile first second))

theorem key_firstFile :
    (pairSite first second).key firstFile = firstFile :=
  Site.key_of_find (find_firstFile first second) (by decide)

theorem key_secondFile :
    (pairSite first second).key secondFile = secondFile :=
  Site.key_of_find (find_secondFile first second) (by decide)

theorem aim_firstFile :
    Aim.ofToken (pairSite first second) "/" "./a" = .path "/a" := by
  change Aim.ofToken (pairSite [] []) "/" "./a" = .path "/a"
  decide

theorem aim_secondFile :
    Aim.ofToken (pairSite first second) "/" "./b" = .path "/b" := by
  change Aim.ofToken (pairSite [] []) "/" "./b" = .path "/b"
  decide

theorem key?_firstFile :
    (Aim.ofToken (pairSite first second) "/" "./a").key? (pairSite first second) =
      some firstFile := by
  rw [aim_firstFile, Aim.key?_path (findFile_firstFile first second), key_firstFile]

theorem key?_secondFile :
    (Aim.ofToken (pairSite first second) "/" "./b").key? (pairSite first second) =
      some secondFile := by
  rw [aim_secondFile, Aim.key?_path (findFile_secondFile first second), key_secondFile]

theorem find_root :
    (pairSite first second).tree.find true (pairSite first second).cwd "/" = .ok ([], .directory) := by
  have names : FileTree.namesOf "/" = ["", ""] := by decide
  have fits : ¬4096 ≤ FileTree.byteLength "/" := by decide
  have root : (pairSite first second).tree.entry? [] = some .directory := rfl
  simp [FileTree.find, FileTree.isRooted, FileTree.walk, names, fits, root]

theorem list_root :
    (pairSite first second).tree.list (pairSite first second).cwd "/" = ["a.py", "b.py"] := by
  unfold FileTree.list
  rw [find_root]
  rfl

theorem directoryText_firstFile :
    Path.directoryText firstFile = "/" := by
  decide

theorem directoryText_secondFile :
    Path.directoryText secondFile = "/" := by
  decide

/-! ### A cycle that fails -/

/-- A body that requires the second module and then fails. -/
def brokenBody : List Step :=
  [.require "b" "./b", .raise "RuntimeError" "late"]

/-- A body that requires the first module. -/
def cyclicBody : List Step :=
  [.require "a" "./a"]

/-- The site with the cycle. -/
def cycleSite : Site :=
  pairSite brokenBody cyclicBody

namespace World

/-- The first body begins. -/
def cycleBegun : World :=
  (empty.note (.asked none firstFile none)).opened none firstFile

/-- The second body begins while the first one is under way. -/
def cycleNested : World :=
  (cycleBegun.note (.asked none secondFile none)).opened none secondFile

/-- The second body has got the first module. -/
def cycleClosed : World :=
  (cycleNested.note (.asked none firstFile (some (.module 0)))).note
    (.required 1 "/" "./a" (.module 0))

/-- The second body has ended, and the first one has got its module. -/
def cycleReturned : World :=
  (((Run.setGlobal 1 "a" (.module 0)).final cycleClosed).note
    (.bodyEnded none secondFile (synthesizedName secondFile) 1)).note
      (.required 0 "/" "./b" (.module 1))

/-- The first body has failed. -/
def cycleBroken : World :=
  ((Run.setGlobal 0 "b" (.module 1)).final cycleReturned).discarded none firstFile "late"

end World

variable
    (loader : Loader)

theorem require_cycleNested :
    Body.require (.layer cycleSite loader) 1 "./a" .cycleNested =
      .ok (.module 0) .cycleClosed := by
  have module : World.cycleNested.module? 1 = some (freshFileModule secondFile) := rfl
  have known : World.cycleNested.answer? none firstFile = some (.module 0) := rfl
  have resolved :
      (Aim.ofToken cycleSite (Path.directoryText secondFile) "./a").key? cycleSite =
        some firstFile := by
    rw [directoryText_secondFile]
    exact key?_firstFile _ _
  have required := Body.require_of_answer? module rfl resolved known loader
  rw [directoryText_secondFile] at required
  exact required

theorem require_cycleBegun :
    Body.require (.layer cycleSite (.layer cycleSite loader)) 0 "./b" .cycleBegun =
      .ok (.module 1) .cycleReturned := by
  have module : World.cycleBegun.module? 0 = some (freshFileModule firstFile) := rfl
  have absent : World.cycleBegun.answer? none secondFile = none := by decide
  have source : isDocument secondFile = false := by decide
  have ran :
      Body.run cycleSite (.layer cycleSite loader) 1 secondFile .cycleNested =
        .ok () ((Run.setGlobal 1 "a" (.module 0)).final .cycleClosed) := by
    have read : cycleSite.program secondFile = .ok (.steps cyclicBody) := program_secondFile _ _
    rw [Body.run_of_program read]
    have stepped := Body.runStep_require_of_ok (require_cycleNested loader) "a"
    exact (Body.runSteps_cons_of_ok stepped []).trans rfl
  have resolved :
      (Aim.ofToken cycleSite (Path.directoryText firstFile) "./b").key? cycleSite =
        some secondFile := by
    rw [directoryText_firstFile]
    exact key?_secondFile _ _
  have required := Body.require_of_body module rfl rfl resolved source absent ran
  rw [directoryText_firstFile] at required
  exact required

/-- The first body fails after the second module has got its module. -/
theorem load_brokenCycle :
    ∃ thrown, (pairCall brokenBody cyclicBody).load .empty = .error thrown .cycleBroken := by
  let loader := Loader.forSite cycleSite
  have read : cycleSite.program firstFile = .ok (.steps brokenBody) := program_firstFile _ _
  have ran :
      Body.run cycleSite loader 0 firstFile .cycleBegun =
        .error (.raised "RuntimeError" "late")
          ((Run.setGlobal 0 "b" (.module 1)).final .cycleReturned) := by
    rw [Body.run_of_program read]
    have stepped := Body.runStep_require_of_ok (require_cycleBegun (.ofDepth cycleSite 99)) "b"
    exact (Body.runSteps_cons_of_ok stepped _).trans rfl
  have resolved : (Aim.ofToken cycleSite "/" "./a").key? cycleSite = some firstFile :=
    key?_firstFile _ _
  have source : isDocument firstFile = false := by decide
  have ordinary : (Thrown.raised "RuntimeError" "late").isOrdinary = true := rfl
  have absent : World.empty.answer? none firstFile = none := rfl
  obtain ⟨thrown, -, failed⟩ :=
    exists_requireToken_of_failed_body rfl resolved source absent ran ordinary
  exact ⟨thrown, failed⟩

theorem after_brokenCycle :
    (pairCall brokenBody cyclicBody).after .empty = .cycleBroken := by
  rcases load_brokenCycle with ⟨thrown, failed⟩
  unfold Call.after Call.run
  rw [Run.final_bind, failed]

/-- The events of the cycle in which the first body fails after the second one has ended. -/
theorem events_brokenCycle :
    ((pairCall brokenBody cyclicBody).after .empty).eventsSince World.empty.journal.size =
      [.asked none firstFile none, .bodyStarted none firstFile 0, .asked none secondFile none,
        .bodyStarted none secondFile 1, .asked none firstFile (some (.module 0))] ++
      .required 1 "/" "./a" (.module 0) ::
        [.bodyEnded none secondFile (synthesizedName secondFile) 1,
          .required 0 "/" "./b" (.module 1), .moduleDiscarded none firstFile "late"] := by
  rw [after_brokenCycle]
  rfl

end TwoModules

namespace World

/--
In the cycle the second body got the first module, whose own body was under way, and the registry has
that module no more.
-/
theorem answer?_of_brokenCycle :
    empty.registry none = [] ∧ isFileReference "./a" = true ∧
      ∃ file id, (Aim.ofToken cycleSite "/" "./a").key? cycleSite = some file ∧
        cycleBroken.answer? none file ≠ some (.module id) ∧
          ⟨none, file, id⟩ ∈
            (empty.ledger.after
              [.asked none firstFile none, .bodyStarted none firstFile 0, .asked none secondFile none,
                .bodyStarted none secondFile 1, .asked none firstFile (some (.module 0))]).underWay := by
  have nothing : empty.registry none = [] := rfl
  have reference : isFileReference "./a" = true := rfl
  obtain ⟨file, resolved, answered, lost⟩ :=
    answer?_of_required (pairCall brokenBody cyclicBody) nothing [] [] events_brokenCycle reference
  have same : file = firstFile := Option.some.inj (resolved.symm.trans (key?_firstFile _ _))
  subst same
  have gone := mt answered.mp fun undisturbed => undisturbed "late" (by simp [pairCall, pairSite])
  obtain ⟨id, module, running⟩ := lost gone
  cases module
  refine ⟨nothing, reference, firstFile, 0, resolved, ?_, running⟩
  change ((pairCall brokenBody cyclicBody).after empty).answer? none firstFile ≠ _ at gone
  rwa [after_brokenCycle] at gone

/-- A registry may have a module whose body required a file and got what the registry has no more. -/
theorem brokenCycle_refers :
    ¬∀ (site : Site) (requests : List Request),
      site.raisesFailures = true →
        let final := empty.afterCalls (requests.map (Call.mk site))
        ∀ holder self base token answer file,
          final.answer? site.registry holder = some (.module self) →
            .required self base token answer ∈ final.eventsSince empty.journal.size →
              isFileReference token = true →
                (Aim.ofToken site base token).key? site = some file →
                  final.answer? site.registry file = some answer := by
  intro claim
  have failures : cycleSite.raisesFailures = true := by decide
  have after : empty.afterCalls ([.require "/" "./a"].map (Call.mk cycleSite)) = cycleBroken :=
    after_brokenCycle
  have kept := claim cycleSite [.require "/" "./a"] failures secondFile 1 "/" "./a" (.module 0) firstFile
  rw [after] at kept
  have events := events_brokenCycle
  rw [after_brokenCycle] at events
  have member : .required 1 "/" "./a" (.module 0) ∈ cycleBroken.eventsSince empty.journal.size := by
    rw [events]
    simp
  have still := kept rfl member rfl (key?_firstFile _ _)
  cases still

end World

end Module

end ConfigTokens
