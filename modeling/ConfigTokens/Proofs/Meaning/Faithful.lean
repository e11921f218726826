import ConfigTokens.Proofs.Import.Searchable
import ConfigTokens.Proofs.Isolation.Alike
import ConfigTokens.Proofs.Meaning.Means
import ConfigTokens.Proofs.Run.Agree
import Mathlib.Data.List.Perm.Subperm
/-!
# Worlds that are faithful to meanings

A world is faithful if what its registry answers is what the files mean, up to the identity of objects:
each object of a file that was loaded to its end is paired with a place, and is alike to what the meaning
of the file has there. The bodies under way are left out, which is why a load may not reach one of them.
A world that is extended by loads keeps its objects and its pairs.
-/

namespace ConfigTokens.Module

/-! ## Bodies that are reached while they run -/

/-- The body of a file is under way after some events: it has begun and has not been closed since. -/
def UnderWay
    (registry : RegistryName)
    (events : List Event)
    (file : String) : Prop :=
  ∃ earlier id later,
    events = earlier ++ .bodyStarted registry file id :: later ∧
      ∀ event ∈ later, event.closed? ≠ some (registry, file)

/-- A load asks for a file whose body is under way. -/
def Reenters
    (registry : RegistryName)
    (events : List Event) : Prop :=
  ∃ past file found rest,
    events = past ++ .asked registry file found :: rest ∧ UnderWay registry past file

section Events

variable
    {registry : RegistryName}
    {events : List Event}

theorem UnderWay.append
    {file : String}
    (running : UnderWay registry events file)
    {more : List Event}
    (unclosed : ∀ event ∈ more, event.closed? ≠ some (registry, file)) :
    UnderWay registry (events ++ more) file := by
  obtain ⟨earlier, id, later, rfl, still⟩ := running
  refine ⟨earlier, id, later ++ more, by simp, ?_⟩
  rw [List.forall_mem_append]
  exact ⟨still, unclosed⟩

theorem not_underWay_nil
    (registry : RegistryName)
    (file : String) :
    ¬UnderWay registry [] file := by
  rintro ⟨earlier, id, later, split, -⟩
  simp at split

theorem not_reenters_nil
    (registry : RegistryName) :
    ¬Reenters registry [] := by
  rintro ⟨past, file, found, rest, split, -⟩
  simp at split

/-- The last event begins the body of a file, or the body was under way before and it does not close it. -/
theorem underWay_concat
    {event : Event}
    {file : String} :
    UnderWay registry (events ++ [event]) file ↔
      (∃ id, event = .bodyStarted registry file id) ∨
        UnderWay registry events file ∧ event.closed? ≠ some (registry, file) := by
  constructor
  · rintro ⟨earlier, id, later, split, still⟩
    rcases List.eq_nil_or_concat later with rfl | ⟨between, last, rfl⟩
    · obtain ⟨-, same⟩ := List.append_inj' split rfl
      cases same
      exact .inl ⟨id, rfl⟩
    · rw [List.concat_eq_append] at split still
      have split : events ++ [event] = (earlier ++ .bodyStarted registry file id :: between) ++ [last] := by
        simp [split]
      obtain ⟨rfl, same⟩ := List.append_inj' split rfl
      cases same
      rw [List.forall_mem_append, List.forall_mem_singleton] at still
      exact .inr ⟨⟨earlier, id, between, rfl, still.1⟩, still.2⟩
  · rintro (⟨id, rfl⟩ | ⟨running, unclosed⟩)
    · exact ⟨events, id, [], rfl, List.forall_mem_nil _⟩
    · exact running.append (List.forall_mem_singleton.mpr unclosed)

theorem Reenters.append
    (reenters : Reenters registry events)
    (more : List Event) :
    Reenters registry (events ++ more) := by
  obtain ⟨past, file, found, rest, rfl, running⟩ := reenters
  exact ⟨past, file, found, rest ++ more, by simp, running⟩

/-- The last event asks for a file whose body is under way, or one before did. -/
theorem reenters_concat
    {event : Event} :
    Reenters registry (events ++ [event]) ↔
      Reenters registry events ∨
        ∃ file found, event = .asked registry file found ∧ UnderWay registry events file := by
  constructor
  · rintro ⟨past, file, found, rest, split, running⟩
    rcases List.eq_nil_or_concat rest with rfl | ⟨between, last, rfl⟩
    · obtain ⟨rfl, same⟩ := List.append_inj' split rfl
      cases same
      exact .inr ⟨file, found, rfl, running⟩
    · rw [List.concat_eq_append] at split
      have split : events ++ [event] = (past ++ .asked registry file found :: between) ++ [last] := by
        simp [split]
      obtain ⟨rfl, -⟩ := List.append_inj' split rfl
      exact .inl ⟨past, file, found, between, rfl, running⟩
  · rintro (reached | ⟨file, found, rfl, running⟩)
    · exact reached.append _
    · exact ⟨events, file, found, [], rfl, running⟩

/-- What has happened stays in the journal. -/
theorem Reenters.later
    {start final : World}
    {origin : Nat}
    (reenters : Reenters registry (start.eventsSince origin))
    (moved : (Promise.history False).moves start final) :
    Reenters registry (final.eventsSince origin) := by
  obtain ⟨events, history, -⟩ := moved
  unfold World.eventsSince
  rw [history.journal_eq, List.drop_append]
  exact reenters.append _

end Events

/-! ## Files that were loaded to their end -/

theorem Export.Alike.paired
    {pairs : Pairing}
    {answer other : Export}
    (alike : answer.Alike pairs other) :
    pairs answer.id other.id := by
  cases alike with
  | module paired => exact paired
  | data content paired => exact paired

/-- Nothing but their identities has to be paired. -/
theorem Export.Alike.repaired
    {pairs further : Pairing}
    {answer other : Export}
    (alike : answer.Alike pairs other)
    (paired : further answer.id other.id) :
    answer.Alike further other := by
  cases alike with
  | module => exact .module paired
  | data content => exact .data content paired

/-- The registry answers for a file with what the file means. -/
def World.Settled
    (world : World)
    (site : Site)
    (known : Pairing)
    (file : String) : Prop :=
  ∃ objects files answer,
    site.meaning? file = some ⟨.ok objects, files⟩ ∧
      world.answer? site.registry file = some answer ∧ answer.Alike known (exportAt file objects)

namespace World.Settled

variable
    {world final : World}
    {site : Site}
    {known later : Pairing}
    {file : String}

theorem exists_pair
    (settled : world.Settled site known file) :
    ∃ id, known id (place file 0) := by
  obtain ⟨objects, files, answer, -, -, alike⟩ := settled
  exact ⟨answer.id, id_exportAt file objects ▸ alike.paired⟩

theorem exists_answer
    (settled : world.Settled site known file) :
    ∃ answer, world.answer? site.registry file = some answer := by
  obtain ⟨objects, files, answer, -, known, -⟩ := settled
  exact ⟨answer, known⟩

/-- A file without an answer is not settled. -/
theorem not_of_absent
    (absent : world.answer? site.registry file = none) :
    ¬world.Settled site known file := by
  intro settled
  obtain ⟨answer, answered⟩ := settled.exists_answer
  cases absent.symm.trans answered

/-- Where nothing is paired, no file is settled. -/
theorem not_of_unpaired :
    ¬world.Settled site (fun _ _ => False) file := by
  intro settled
  obtain ⟨id, paired⟩ := settled.exists_pair
  exact paired

theorem mono
    (settled : world.Settled site known file)
    (answers :
      ∀ answer, world.answer? site.registry file = some answer →
        final.answer? site.registry file = some answer)
    (grown : ∀ {id other}, known id other → later id other) :
    final.Settled site later file := by
  obtain ⟨objects, files, answer, means, answered, alike⟩ := settled
  exact ⟨objects, files, answer, means, answers answer answered, alike.mono grown⟩

theorem congr
    (answers : final.answer? site.registry file = world.answer? site.registry file) :
    final.Settled site known file ↔ world.Settled site known file := by
  unfold World.Settled
  rw [answers]

end World.Settled

/-! ## Faithful worlds -/

/--
Where no body is under way, the registry answers with what files mean; where some are, their files may be
answered as well. Paired objects are alike to those of the meanings.
-/
structure World.Faithful
    (world : World)
    (site : Site)
    (origin : Nat)
    (under : List String)
    (known : Pairing) : Prop where
  nodup : under.Nodup
  begun :
    ∀ file ∈ under,
      site.IsKey file ∧ ∃ answer, world.answer? site.registry file = some answer
  since : origin ≤ world.journal.size
  running : ∀ file ∈ under, UnderWay site.registry (world.eventsSince origin) file
  left_unique {id other third : ObjectId} : known id other → known id third → other = third
  right_unique {id other third : ObjectId} : known id third → known other third → id = other
  objects {id other : ObjectId} :
    known id other →
      ∃ object partner,
        world.objects[id]? = some object ∧ site.meaning?.object? other = some partner ∧
          object.Alike known partner
  settled {id other : ObjectId} : known id other → world.Settled site known (placeFile other)
  shut {id other : ObjectId} : known id other → placeFile other ∉ under
  answered {file : String} {answer : Export} :
    world.answer? site.registry file = some answer →
      world.Settled site known file ∨ file ∈ under
  /-- What was loaded for a file is still there. -/
  closed {file other : String} {objects : Array Object} {files : List String} :
    world.Settled site known file → site.meaning? file = some ⟨.ok objects, files⟩ →
      other ∈ files → world.Settled site known other

namespace World.Faithful

variable
    {world final : World}
    {site : Site}
    {origin : Nat}
    {under : List String}
    {known : Pairing}
    (faithful : world.Faithful site origin under known)

include faithful

theorem made
    {id other : ObjectId}
    (paired : known id other) :
    id < world.objects.size := by
  obtain ⟨object, partner, found, -, -⟩ := faithful.objects paired
  exact (Array.getElem?_eq_some_iff.mp found).1

theorem notMem_of_settled
    {file : String}
    (settled : world.Settled site known file) :
    file ∉ under := by
  obtain ⟨id, paired⟩ := settled.exists_pair
  have apart := faithful.shut paired
  rwa [placeFile_place] at apart

/-- Changes that leave paired objects and the registry as they are. -/
theorem same
    (registries : final.registries = world.registries)
    (objects : ∀ id other, known id other → final.objects[id]? = world.objects[id]?)
    (since : origin ≤ final.journal.size)
    (running : ∀ file ∈ under, UnderWay site.registry (final.eventsSince origin) file) :
    final.Faithful site origin under known := by
  have answers (file : String) :
      final.answer? site.registry file = world.answer? site.registry file :=
    answer?_congr registries
  have settles (file : String) :
      final.Settled site known file ↔ world.Settled site known file :=
    Settled.congr (answers file)
  exact {
    nodup := faithful.nodup
    begun := fun file member => by
      rw [answers]
      exact faithful.begun file member
    since := since
    running := running
    left_unique := faithful.left_unique
    right_unique := faithful.right_unique
    objects := fun paired => by
      rw [objects _ _ paired]
      exact faithful.objects paired
    settled := fun paired => (settles _).mpr (faithful.settled paired)
    shut := faithful.shut
    answered := fun {file _} answered => by
      rw [answers] at answered
      rw [settles]
      exact faithful.answered answered
    closed := fun settled means member =>
      (settles _).mpr (faithful.closed ((settles _).mp settled) means member) }

theorem push
    (object : Object) :
    (world.push object).Faithful site origin under known := by
  refine faithful.same rfl (fun id other paired => ?_) faithful.since faithful.running
  exact objects_push_of_lt (faithful.made paired) object

theorem withGlobal
    {self : ObjectId}
    (apart : ∀ other, ¬known self other)
    (name : String)
    (value : Value) :
    (world.withGlobal self name value).Faithful site origin under known := by
  refine faithful.same rfl (fun id other paired => ?_) faithful.since faithful.running
  refine objects_setObject_of_ne ?_ _
  rintro rfl
  exact apart other paired

theorem trace
    (text : String) :
    (world.trace text).Faithful site origin under known :=
  faithful.same rfl (fun _ _ _ => rfl) faithful.since faithful.running

theorem note
    (event : Event)
    (unclosed : ∀ file ∈ under, event.closed? ≠ some (site.registry, file)) :
    (world.note event).Faithful site origin under known := by
  have since : origin ≤ (world.note event).journal.size := by
    rw [journal_note, Array.size_push]
    exact Nat.le_succ_of_le faithful.since
  refine faithful.same rfl (fun _ _ _ => rfl) since fun file member => ?_
  rw [eventsSince_note faithful.since]
  refine (faithful.running file member).append ?_
  rw [List.forall_mem_singleton]
  exact unclosed file member

/-- No more bodies are under way than the tree has entries. -/
theorem length_le :
    under.length ≤ site.tree.entries.length := by
  have fits : under.length ≤ site.keys.length :=
    (faithful.nodup.subperm fun file member =>
      Site.mem_keys_of_isKey (faithful.begun file member).1).length_le
  rwa [site.length_keys] at fits

/-- The registry has another answer for a file whose body is under way than what the file means. -/
theorem not_settled_of_mem
    {file : String}
    (member : file ∈ under) :
    ¬world.Settled site known file :=
  fun settled => faithful.notMem_of_settled settled member

/-! ### Bodies that begin -/

variable
    {file : String}
    (absent : world.answer? site.registry file = none)

include absent

/-- The body of a file without an answer is not under way. -/
theorem notMem_of_absent :
    file ∉ under := by
  intro member
  obtain ⟨-, answer, answered⟩ := faithful.begun file member
  cases absent.symm.trans answered

theorem settled_opened_iff
    {other : String} :
    (world.opened site.registry file).Settled site known other ↔
      world.Settled site known other := by
  constructor
  · rintro ⟨objects, files, answer, means, answered, alike⟩
    refine ⟨objects, files, answer, means, ?_, alike⟩
    rw [answer?_opened] at answered
    split at answered
    case isTrue same =>
        -- The new module is paired with nothing yet.
        cases answered
        exact absurd (faithful.made alike.paired) (Nat.lt_irrefl _)
    case isFalse => exact answered
  · exact fun settled => settled.mono (fun _ => answer?_opened_of_known absent) id

/-- The body of a file begins that the registry does not answer for. -/
theorem opened
    (isKey : site.IsKey file) :
    (world.opened site.registry file).Faithful site origin
      (file :: under) known := by
  have events :
      (world.opened site.registry file).eventsSince origin =
        world.eventsSince origin ++ [.bodyStarted site.registry file world.objects.size] :=
    eventsSince_note faithful.since (.bodyStarted site.registry file world.objects.size)
  have settles {other : String} :
      (world.opened site.registry file).Settled site known other ↔
        world.Settled site known other :=
    faithful.settled_opened_iff absent
  have apart {other : String} (settled : world.Settled site known other) : other ≠ file := by
    rintro rfl
    exact Settled.not_of_absent absent settled
  exact {
    nodup := List.nodup_cons.mpr ⟨faithful.notMem_of_absent absent, faithful.nodup⟩
    begun := by
      refine List.forall_mem_cons.mpr
        ⟨⟨isKey, .module world.objects.size, ?_⟩, fun other member => ?_⟩
      · rw [answer?_opened, if_pos ⟨rfl, rfl⟩]
      · obtain ⟨also, answer, known⟩ := faithful.begun other member
        exact ⟨also, answer, answer?_opened_of_known absent known⟩
    since := by
      change origin ≤ (world.journal.push _).size
      rw [Array.size_push]
      exact Nat.le_succ_of_le faithful.since
    running := by
      rw [events]
      refine List.forall_mem_cons.mpr ⟨⟨_, _, [], rfl, List.forall_mem_nil _⟩, fun other member => ?_⟩
      refine (faithful.running other member).append ?_
      rw [List.forall_mem_singleton]
      exact nofun
    left_unique := faithful.left_unique
    right_unique := faithful.right_unique
    objects := fun paired => by
      obtain ⟨object, partner, found, meant, alike⟩ := faithful.objects paired
      exact ⟨object, partner, objects_push_of_some found _, meant, alike⟩
    settled := fun paired => settles.mpr (faithful.settled paired)
    shut := fun paired =>
      List.not_mem_cons_of_ne_of_not_mem (apart (faithful.settled paired)) (faithful.shut paired)
    answered := fun {other answer} answered => by
      rw [answer?_opened] at answered
      split at answered
      case isTrue same => exact .inr (same.2 ▸ List.mem_cons_self)
      case isFalse =>
          exact (faithful.answered answered).imp settles.mpr (List.mem_cons_of_mem _)
    closed := fun settled means member =>
      settles.mpr (faithful.closed (settles.mp settled) means member) }

end World.Faithful

/-! ## Worlds that loads extend -/

/--
A world comes from another one by loads: the objects and the pairs that were there stay, pairs that are
added have new objects, and the files that are listed are settled beside those that were.
-/
structure World.Extends
    (start final : World)
    (site : Site)
    (known later : Pairing)
    (files : List String) : Prop where
  keeps {id other : ObjectId} : known id other → later id other
  fresh {id other : ObjectId} : later id other → known id other ∨ start.objects.size ≤ id
  larger : start.objects.size ≤ final.objects.size
  frame {id : ObjectId} : id < start.objects.size → final.objects[id]? = start.objects[id]?
  settled (file : String) :
    final.Settled site later file ↔ start.Settled site known file ∨ file ∈ files

namespace World.Extends

variable
    {start middle final : World}
    {site : Site}
    {known later last : Pairing}
    {files more : List String}

theorem refl
    (world : World)
    (site : Site)
    (known : Pairing) :
    world.Extends world site known known [] where
  keeps paired := paired
  fresh paired := .inl paired
  larger := Nat.le_refl _
  frame _ := rfl
  settled file := by simp

theorem trans
    (first : start.Extends middle site known later files)
    (second : middle.Extends final site later last more) :
    start.Extends final site known last (files ++ more) where
  keeps paired := second.keeps (first.keeps paired)
  fresh paired := by
    rcases second.fresh paired with early | late
    · exact first.fresh early
    · exact .inr (Nat.le_trans first.larger late)
  larger := Nat.le_trans first.larger second.larger
  frame made := (second.frame (Nat.lt_of_lt_of_le made first.larger)).trans (first.frame made)
  settled file := by
    rw [second.settled, first.settled, List.mem_append, or_assoc]

/-- Changes of other objects than those at the start. -/
theorem after
    (extended : start.Extends middle site known later files)
    (larger : middle.objects.size ≤ final.objects.size)
    (frame : ∀ id, id < start.objects.size → final.objects[id]? = middle.objects[id]?)
    (registries : final.registries = middle.registries) :
    start.Extends final site known later files where
  keeps := extended.keeps
  fresh := extended.fresh
  larger := Nat.le_trans extended.larger larger
  frame {id} made := (frame id made).trans (extended.frame made)
  settled file := by
    rw [Settled.congr (answer?_congr registries)]
    exact extended.settled file

end World.Extends

end ConfigTokens.Module
