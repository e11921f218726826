import ConfigTokens.Proofs.Isolation.Load
import ConfigTokens.Proofs.Meaning.Body
/-!
# Loads give what files mean

A load in a faithful world gives what its file means, whatever was loaded before, and leaves a faithful
world; unless it reaches a body under way. A file that is loaded to its end is settled with the objects
that its body has made, and a file that fails leaves what was loaded for it.
-/

namespace ConfigTokens.Module

/-! ## Files that come to their end -/

/-- The objects that a load has made for a file, and that are alike to what the file means. -/
structure World.Makes
    (world : World)
    (known : Pairing)
    (file : String)
    (own : ObjectId → Nat → Prop)
    (objects : Array Object) : Prop where
  apart {id other : ObjectId} {index : Nat} : own id index → ¬known id other
  left_unique {id : ObjectId} {index another : Nat} :
    own id index → own id another → index = another
  right_unique {id other : ObjectId} {index : Nat} : own id index → own other index → id = other
  objects {id : ObjectId} {index : Nat} :
    own id index →
      ∃ object partner,
        world.objects[id]? = some object ∧ objects[index]? = some partner ∧
          object.Alike (withPlaces known file own) partner

/-- A world answers for one more file than another one, with what the file means. -/
structure World.Answers
    (world final : World)
    (site : Site)
    (known : Pairing)
    (file : String)
    (own : ObjectId → Nat → Prop)
    (objects : Array Object)
    (files : List String)
    (answer : Export) : Prop where
  unsettled : ¬world.Settled site known file
  means : site.meaning? file = some ⟨.ok objects, files⟩
  answers (other : String) :
    final.answer? site.registry other =
      if other = file then some answer else world.answer? site.registry other
  alike : answer.Alike (withPlaces known file own) (exportAt file objects)

/-- With one more file that is settled, all that was settled still is. -/
theorem World.Answers.settled_iff
    {world final : World}
    {site : Site}
    {known : Pairing}
    {file : String}
    {own : ObjectId → Nat → Prop}
    {objects : Array Object}
    {files : List String}
    {answer : Export}
    (answers : world.Answers final site known file own objects files answer)
    (other : String) :
    final.Settled site (withPlaces known file own) other ↔
      world.Settled site known other ∨ other = file := by
  obtain ⟨unsettled, means, answers, alike⟩ := answers
  constructor
  · rintro ⟨made, more, found, meant, answered, same⟩
    rw [answers] at answered
    split at answered
    case isTrue here => exact .inr here
    case isFalse elsewhere =>
        -- Another file is answered with a pair that was there.
        refine .inl ⟨made, more, found, meant, answered, same.repaired ?_⟩
        have paired := same.paired
        rw [id_exportAt] at paired ⊢
        rcases paired with early | ⟨index, -, here⟩
        · exact early
        · have equal := congrArg placeFile here
          rw [placeFile_place, placeFile_place] at equal
          exact absurd equal elsewhere
  · rintro (settled | rfl)
    · have elsewhere : other ≠ file := by
        rintro rfl
        exact unsettled settled
      refine settled.mono (fun found answered => ?_) .inl
      rw [answers, if_neg elsewhere]
      exact answered
    · refine ⟨objects, files, answer, means, ?_, alike⟩
      rw [answers, if_pos rfl]

namespace World.Faithful

variable
    {world final : World}
    {site : Site}
    {origin : Nat}
    {under inner : List String}
    {known : Pairing}
    {file : String}
    {own : ObjectId → Nat → Prop}
    {objects : Array Object}
    {files : List String}
    {answer : Export}

/-- A file is settled, and of the bodies under way at most its own is closed. -/
theorem settle
    (faithful : world.Faithful site origin inner known)
    (outer : ∀ other ∈ under, other ∈ inner ∧ other ≠ file)
    (inside : ∀ other ∈ inner, other = file ∨ other ∈ under)
    (nodup : under.Nodup)
    (since : origin ≤ final.journal.size)
    (running : ∀ other ∈ under, UnderWay site.registry (final.eventsSince origin) other)
    (answers : world.Answers final site known file own objects files answer)
    (filled : ∀ other ∈ files, world.Settled site known other ∨ other = file)
    (kept : ∀ id other, known id other → final.objects[id]? = world.objects[id]?)
    (makes : final.Makes known file own objects) :
    final.Faithful site origin under (withPlaces known file own) := by
  have settles := answers.settled_iff
  obtain ⟨unsettled, means, answers, -⟩ := answers
  have elsewhere {id other : ObjectId} (paired : known id other) : placeFile other ≠ file := by
    intro same
    exact unsettled (same ▸ faithful.settled paired)
  exact {
    nodup := nodup
    begun := fun other member => by
      rw [answers, if_neg (outer other member).2]
      exact faithful.begun other (outer other member).1
    since := since
    running := running
    left_unique := by
      rintro id other third (first | ⟨index, first, rfl⟩) (second | ⟨another, second, rfl⟩)
      · exact faithful.left_unique first second
      · exact absurd first (makes.apart second)
      · exact absurd second (makes.apart first)
      · rw [makes.left_unique first second]
    right_unique := by
      rintro id other third (first | ⟨index, first, rfl⟩) (second | ⟨another, second, same⟩)
      · exact faithful.right_unique first second
      · exact absurd (same ▸ placeFile_place _ _) (elsewhere first)
      · exact absurd (placeFile_place _ _) (elsewhere second)
      · have equal := congrArg placeIndex same
        rw [placeIndex_place, placeIndex_place] at equal
        exact makes.right_unique first (equal ▸ second)
    objects := by
      rintro id other (paired | ⟨index, made, rfl⟩)
      · obtain ⟨object, partner, found, meant, same⟩ := faithful.objects paired
        exact ⟨object, partner, (kept _ _ paired).trans found, meant, same.mono .inl⟩
      · obtain ⟨object, partner, found, meant, same⟩ := makes.objects made
        refine ⟨object, partner, found, ?_, same⟩
        unfold Meanings.object?
        rw [placeFile_place, placeIndex_place, means]
        exact meant
    settled := by
      rintro id other (paired | ⟨index, made, rfl⟩)
      · exact (settles _).mpr (.inl (faithful.settled paired))
      · rw [placeFile_place]
        exact (settles _).mpr (.inr rfl)
    shut := by
      rintro id other (paired | ⟨index, made, rfl⟩) member
      · exact faithful.shut paired (outer _ member).1
      · rw [placeFile_place] at member
        exact (outer file member).2 rfl
    answered := by
      intro other found answered
      rw [answers] at answered
      split at answered
      case isTrue here => exact .inl ((settles _).mpr (.inr here))
      case isFalse apart =>
          rcases faithful.answered answered with settled | member
          · exact .inl ((settles _).mpr (.inl settled))
          · exact .inr ((inside other member).resolve_left apart)
    closed := by
      intro other another made more settled meant member
      rw [settles] at settled ⊢
      rcases settled with settled | rfl
      · exact .inl (faithful.closed settled meant member)
      · cases means.symm.trans meant
        exact filled another member }

end World.Faithful

/-! ## Bodies -/

/-- One more event in the journal. -/
theorem Reenters.journal_push
    {registry : RegistryName}
    {start final : World}
    {origin : Nat}
    {event : Event}
    (reenters : Reenters registry (start.eventsSince origin))
    (journal : final.journal = start.journal.push event) :
    Reenters registry (final.eventsSince origin) := by
  unfold World.eventsSince
  rw [journal, Array.toList_push, List.drop_append]
  exact reenters.append _

namespace View

variable
    {site : Site}
    {origin : Nat}
    {under : List String}
    {file : String}
    {start : World}
    {before : Pairing}

/-- The body of a file begins. -/
def begun
    (faithful : start.Faithful site origin under before)
    (isKey : site.IsKey file)
    (absent : start.answer? site.registry file = none) :
    View site origin under file start before where
  world := start.opened site.registry file
  draft := .begun file
  known := before
  own id index := id = start.objects.size ∧ index = 0
  faithful := faithful.opened absent isKey
  extended := {
    keeps := fun paired => paired
    fresh := .inl
    larger := by simp
    frame := fun made => World.objects_push_of_lt made _
    settled := fun other => by
      rw [faithful.settled_opened_iff absent]
      simp [Draft.begun] }
  module := ⟨rfl, rfl⟩
  made := fun ⟨same, _⟩ => Nat.le_of_eq same.symm
  apart := by
    rintro id other index ⟨rfl, -⟩ known
    exact absurd (faithful.made known) (Nat.lt_irrefl _)
  left_unique := fun ⟨_, first⟩ ⟨_, second⟩ => first.trans second.symm
  right_unique := fun ⟨first, _⟩ ⟨second, _⟩ => first.trans second.symm
  objects := by
    rintro id index ⟨rfl, rfl⟩
    exact ⟨_, _, Array.getElem?_push_size, rfl, .module (alike_freshFileModule _ file)⟩

variable
    (view : View site origin under file start before)

theorem makes
    {final : World}
    (same : final.objects = view.world.objects) :
    final.Makes view.known file view.own view.draft.own.objects where
  apart := view.apart
  left_unique := view.left_unique
  right_unique := view.right_unique
  objects := by
    rw [same]
    exact view.objects

include view in
/-- The file is not among the others whose bodies are under way. -/
theorem ne_of_mem
    {other : String}
    (member : other ∈ under) :
    other ≠ file := by
  rintro rfl
  exact (List.nodup_cons.mp view.faithful.nodup).1 member

/-- The other bodies under way are not closed together with that of the file. -/
theorem running_outside
    {event : Event}
    (closes : event.closed? = some (site.registry, file))
    {final : World}
    (journal : final.journal = view.world.journal.push event) :
    ∀ other ∈ under, UnderWay site.registry (final.eventsSince origin) other := by
  intro other member
  have events : final.eventsSince origin = view.world.eventsSince origin ++ [event] :=
    (congrArg (fun journal => journal.toList.drop origin) journal).trans
      (World.eventsSince_note view.faithful.since event)
  have apart := view.ne_of_mem member
  rw [events]
  refine (view.faithful.running other (List.mem_cons_of_mem _ member)).append ?_
  rw [List.forall_mem_singleton, closes]
  intro same
  cases same
  exact apart rfl

theorem since_journal_push
    {event : Event}
    {final : World}
    (journal : final.journal = view.world.journal.push event) :
    origin ≤ final.journal.size := by
  rw [journal, Array.size_push]
  exact Nat.le_succ_of_le view.faithful.since

theorem alike_exportAt
    (source : isDocument file = false) :
    (Export.module start.objects.size).Alike view.pairs
      (exportAt file view.draft.own.objects) := by
  unfold exportAt
  rw [source]
  exact .module (.inr ⟨0, view.module, rfl⟩)

/-- The body ends, and its file is settled. -/
theorem ended
    (source : isDocument file = false)
    (answered : view.world.answer? site.registry file = some (.module start.objects.size))
    (means :
      site.meaning? file = some ⟨.ok view.draft.own.objects, view.draft.files ++ [file]⟩)
    (name : String) :
    let final := view.world.note (.bodyEnded site.registry file name start.objects.size)
    final.Faithful site origin under view.pairs ∧
      start.Extends final site before view.pairs (view.draft.files ++ [file]) := by
  intro final
  have answers :
      view.world.Answers final site view.known file view.own view.draft.own.objects
        (view.draft.files ++ [file]) (.module start.objects.size) := {
    unsettled := view.faithful.not_settled_of_mem List.mem_cons_self
    means := means
    answers := fun other => by
      split
      case isTrue here => exact here ▸ answered
      case isFalse => rfl
    alike := view.alike_exportAt source }
  have outer (other : String) (member : other ∈ under) : other ∈ file :: under ∧ other ≠ file :=
    ⟨List.mem_cons_of_mem _ member, view.ne_of_mem member⟩
  constructor
  · refine view.faithful.settle outer (fun _ => List.mem_cons.mp)
      (List.nodup_cons.mp view.faithful.nodup).2 (view.since_journal_push rfl)
      (view.running_outside rfl rfl) answers (fun other member => ?_) (fun _ _ _ => rfl)
      (view.makes rfl)
    rcases List.mem_append.mp member with loaded | last
    · exact .inl ((view.extended.settled other).mpr (.inr loaded))
    · exact .inr (List.mem_singleton.mp last)
  · exact {
      keeps := fun paired => .inl (view.extended.keeps paired)
      fresh := by
        rintro id other (paired | ⟨index, own, -⟩)
        · exact view.extended.fresh paired
        · exact .inr (view.made own)
      larger := view.extended.larger
      frame := view.extended.frame
      settled := fun other => by
        refine (answers.settled_iff other).trans ?_
        rw [view.extended.settled, List.mem_append, List.mem_singleton, or_assoc] }

/-- The body fails, and its file is taken out of the registry. -/
theorem failed
    (reason : String) :
    let final := view.world.discarded site.registry file reason
    final.Faithful site origin under view.known ∧
      start.Extends final site before view.known view.draft.files := by
  intro final
  have unsettled := view.faithful.not_settled_of_mem (List.mem_cons_self : file ∈ file :: under)
  have answers {other : String} (apart : other ≠ file) :
      final.answer? site.registry other = view.world.answer? site.registry other := by
    rw [World.answer?_discarded, if_neg fun same => apart same.2]
  have settles (other : String) :
      final.Settled site view.known other ↔ view.world.Settled site view.known other := by
    by_cases here : other = file
    · subst here
      have absent : final.answer? site.registry other = none := by
        rw [World.answer?_discarded, if_pos ⟨rfl, rfl⟩]
      exact iff_of_false (World.Settled.not_of_absent absent) unsettled
    · exact World.Settled.congr (answers here)
  constructor
  · exact {
      nodup := (List.nodup_cons.mp view.faithful.nodup).2
      begun := fun other member => by
        rw [answers (view.ne_of_mem member)]
        exact view.faithful.begun other (List.mem_cons_of_mem _ member)
      since := view.since_journal_push rfl
      running := view.running_outside rfl rfl
      left_unique := view.faithful.left_unique
      right_unique := view.faithful.right_unique
      objects := view.faithful.objects
      settled := fun paired => (settles _).mpr (view.faithful.settled paired)
      shut := fun paired member => view.faithful.shut paired (List.mem_cons_of_mem _ member)
      answered := fun {other answer} answered => by
        rw [World.answer?_discarded] at answered
        split at answered
        case isTrue => cases answered
        case isFalse apart =>
            rcases view.faithful.answered answered with settled | member
            · exact .inl ((settles _).mpr settled)
            · refine .inr ((List.mem_cons.mp member).resolve_left ?_)
              rintro rfl
              exact apart ⟨rfl, rfl⟩
      closed := fun settled means member =>
        (settles _).mpr (view.faithful.closed ((settles _).mp settled) means member) }
  · exact {
      keeps := view.extended.keeps
      fresh := view.extended.fresh
      larger := view.extended.larger
      frame := view.extended.frame
      settled := fun other => (settles other).trans (view.extended.settled other) }

end View

/-! ## Loads of files -/

/-- A failure may be given another label. -/
theorem World.Gives.relabel
    {world : World}
    {site : Site}
    {origin : Nat}
    {under : List String}
    {known : Pairing}
    {meaning? : Option (Meaning Export)}
    {load : Run Export}
    (gives : world.Gives site origin under known meaning? load)
    (change : Context → Context) :
    world.Gives site origin under known (meaning?.map (Meaning.relabel change))
      (tryCatch load fun thrown => throw (thrown.relabel change)) := by
  cases gives with
  | ok final later means ended after extended alike =>
      exact .ok final later (by rw [means]; rfl) (Run.tryCatch_eq_ok.mpr (.inl ended)) after
        extended alike
  | error final later means ended after extended =>
      exact .error final later (by rw [means]; rfl)
        (Run.tryCatch_eq_error.mpr ⟨_, _, ended, rfl⟩) after extended
  | reenters reached =>
      refine .reenters ?_
      rw [Run.final_tryCatch]
      unfold Run.final at reached
      cases ended : load world with
      | ok answer final =>
          rw [ended] at reached
          exact reached
      | error thrown final =>
          rw [ended] at reached
          exact reached

section Loads

variable
    {site : Site}
    {origin : Nat}
    {under : List String}
    {known : Pairing}
    {world : World}
    {file : String}
    (faithful : world.Faithful site origin under known)

section Bodies

variable
    {loader : Loader}
    (gives : loader.Gives site origin (file :: under))
    (keeps : ∀ {failures : Prop}, (failures → site.raisesFailures = true) →
      loader.Keeps (.history failures))
    (nothing : site.ImportsNothing)
    (raises : site.raisesFailures = true)
    (isKey : site.IsKey file)
    (absent : world.answer? site.registry file = none)

include faithful gives keeps nothing raises isKey absent

theorem loadSource_gives
    (source : isDocument file = false) :
    world.Gives site origin under known ((site.meaning? file).map (Meaning.answer file))
      (loadSource site loader file) := by
  have body : (Body.run site loader world.objects.size file).Keeps (.history False) :=
    Body.run_keeps (Promise.history_admits False.elim) (keeps False.elim).serves_history _ file
  have failures : (Body.run site loader world.objects.size file).Keeps (.history True) :=
    Body.run_keeps (Promise.history_admits fun _ => raises)
      (keeps fun _ => raises).serves_history _ file
  cases (View.begun faithful isKey absent).run_realises gives (keeps False.elim) nothing with
  | ok final grown ran made =>
      obtain ⟨events, history, -⟩ := body.moves_of_ok ran
      have means := Site.meaning?_of_run_eq_ok source made
      obtain ⟨later, extended⟩ :=
        final.ended source history.answer?_of_opened means (synthesizedName file)
      exact .ok _ _ (by rw [means]; rfl) (loadSource_of_ok ran) later extended
        (final.alike_exportAt source)
  | error final grown ran made =>
      rename_i thrown
      have means := Site.meaning?_of_run_eq_error source made
      have ordinary := failures.throws_of_error ran trivial
      obtain ⟨later, extended⟩ := final.failed thrown.message
      exact .error _ _ (by rw [means]; rfl) (loadSource_of_failure ran ordinary) later extended
  | reenters reached =>
      refine .reenters ?_
      cases ran : Body.run site loader world.objects.size file (world.opened site.registry file) with
      | ok value middle =>
          rw [Run.final_of_ok (loadSource_of_ok ran)]
          have reached := Run.final_of_ok ran ▸ reached
          exact reached.journal_push rfl
      | error thrown middle =>
          have ordinary := failures.throws_of_error ran trivial
          rw [Run.final_of_error (loadSource_of_failure ran ordinary)]
          have reached := Run.final_of_error ran ▸ reached
          exact reached.journal_push rfl

end Bodies

section Documents

variable
    (absent : world.answer? site.registry file = none)
    (content : Json)

include faithful

/-- A document makes one object. -/
theorem makes_withDocument :
    (world.withDocument site.registry file content).Makes known file
      (fun id index => id = world.objects.size ∧ index = 0) #[.document content] where
  apart := by
    rintro id other index ⟨rfl, -⟩ paired
    exact absurd (faithful.made paired) (Nat.lt_irrefl _)
  left_unique := fun ⟨_, first⟩ ⟨_, second⟩ => first.trans second.symm
  right_unique := fun ⟨first, _⟩ ⟨second, _⟩ => first.trans second.symm
  objects := by
    rintro id index ⟨rfl, rfl⟩
    exact ⟨_, _, Array.getElem?_push_size, rfl, .document content⟩

include absent

/-- The file of a document is settled by it. -/
theorem settled_withDocument
    (document : isDocument file = true)
    (means : site.meaning? file = some ⟨.ok #[.document content], [file]⟩) :
    ∃ later,
      (world.withDocument site.registry file content).Faithful site origin under later ∧
        world.Extends (world.withDocument site.registry file content) site known later [file] ∧
          (world.documentAnswer content).Alike later (exportAt file #[.document content]) := by
  let own (id : ObjectId) (index : Nat) : Prop := id = world.objects.size ∧ index = 0
  have answers :
      world.Answers (world.withDocument site.registry file content) site known file own
        #[.document content] [file] (world.documentAnswer content) := {
    unsettled := World.Settled.not_of_absent absent
    means := means
    answers := fun other => by simp only [World.answer?_withDocument, true_and]
    alike := by
      unfold exportAt
      rw [document]
      exact .data content (.inr ⟨0, ⟨rfl, rfl⟩, rfl⟩) }
  have outer (other : String) (member : other ∈ under) : other ∈ under ∧ other ≠ file := by
    refine ⟨member, ?_⟩
    rintro rfl
    exact faithful.notMem_of_absent absent member
  have noted := faithful.note (.documentLoaded site.registry file (world.documentAnswer content))
    fun _ _ => nofun
  have kept (id other : ObjectId) (paired : known id other) :
      (world.withDocument site.registry file content).objects[id]? = world.objects[id]? :=
    World.objects_push_of_lt (faithful.made paired) _
  refine ⟨withPlaces known file own, ?_, ?_, answers.alike⟩
  · exact faithful.settle outer (fun _ => .inr) faithful.nodup noted.since noted.running answers
      (fun _ member => .inr (List.mem_singleton.mp member)) kept (makes_withDocument faithful content)
  · exact {
      keeps := .inl
      fresh := by
        rintro id other (paired | ⟨index, ⟨rfl, -⟩, -⟩)
        · exact .inl paired
        · exact .inr (Nat.le_refl _)
      larger := by simp
      frame := fun made => World.objects_push_of_lt made _
      settled := fun other => by
        rw [answers.settled_iff, List.mem_singleton] }

end Documents

include faithful in
theorem loadDocument_gives
    (absent : world.answer? site.registry file = none)
    (document : isDocument file = true) :
    world.Gives site origin under known ((site.meaning? file).map (Meaning.answer file))
      (loadDocument site file) := by
  have meant : site.meaning? file = some (site.documentMeaning file) :=
    Site.meaning?_of_document document
  cases read : site.document file with
  | error thrown =>
      obtain ⟨reported, -, failed⟩ := loadDocument_of_error read
      refine .error world known ?_ (failed world) faithful (.refl world site known)
      rw [meant]
      unfold Site.documentMeaning
      rw [failed]
      rfl
  | ok content =>
      have means : site.meaning? file = some ⟨.ok #[.document content], [file]⟩ := by
        rw [meant]
        unfold Site.documentMeaning
        rw [loadDocument_of_ok read]
        rfl
      obtain ⟨later, ended, extended, alike⟩ :=
        settled_withDocument faithful absent content document means
      refine .ok _ later ?_ (loadDocument_of_ok read world) ended extended alike
      rw [means]
      rfl

section Keys

include faithful

/-- A file that is settled is answered with what it means. -/
theorem loadKey_gives_of_settled
    (settled : world.Settled site known file)
    (load : Run Export) :
    world.Gives site origin under known ((site.meaning? file).map (Meaning.answer file))
      (loadKey site.registry file load) := by
  have loaded := settled
  obtain ⟨objects, files, answer, means, answered, alike⟩ := settled
  have noted := faithful.note (.asked site.registry file (some answer)) fun _ _ => nofun
  refine .ok _ known (by rw [means]; rfl) (loadKey_of_answer? answered load) noted ?_ alike
  exact {
    keeps := fun paired => paired
    fresh := .inl
    larger := Nat.le_refl _
    frame := fun _ => rfl
    settled := fun other => by
      refine ⟨.inl, ?_⟩
      rintro (settled | member)
      · exact settled
      · exact faithful.closed loaded means member }

/-- A file is asked for, and is loaded for want of an answer. -/
theorem loadKey_gives
    {load : Run Export}
    (loads :
      ∀ middle : World, middle.Faithful site origin under known →
        middle.answer? site.registry file = none →
          middle.Gives site origin under known ((site.meaning? file).map (Meaning.answer file))
            load) :
    world.Gives site origin under known ((site.meaning? file).map (Meaning.answer file))
      (loadKey site.registry file load) := by
  cases answered : world.answer? site.registry file with
  | none =>
      have noted := faithful.note (.asked site.registry file none) fun _ _ => nofun
      have extended :
          world.Extends (world.note (.asked site.registry file none)) site known known [] :=
        (World.Extends.refl world site known).after (Nat.le_refl _) (fun _ _ => rfl) rfl
      have run := loadKey_of_absent answered load
      cases loads _ noted answered with
      | ok final later means ended after further alike =>
          exact .ok final later means (run.trans ended) after (extended.trans further) alike
      | error final later means ended after further =>
          exact .error final later means (run.trans ended) after (extended.trans further)
      | reenters reached =>
          refine .reenters ?_
          rw [Run.final_congr run]
          exact reached
  | some answer =>
      rcases faithful.answered answered with settled | running
      · exact loadKey_gives_of_settled faithful settled load
      · refine .reenters ?_
        rw [Run.final_of_ok (loadKey_of_answer? answered load),
          World.eventsSince_note faithful.since]
        exact ⟨_, file, some answer, [], rfl, faithful.running file running⟩

end Keys

section Tokens

variable
    {loader : Loader}
    (gives :
      ∀ file, loader.Gives site origin (file :: under))
    (keeps : ∀ {failures : Prop}, (failures → site.raisesFailures = true) →
      loader.Keeps (.history failures))
    (nothing : site.ImportsNothing)
    (raises : site.raisesFailures = true)

include faithful gives keeps nothing raises

theorem loadPath_gives
    (reference : String) :
    world.Gives site origin under known ((Aim.path reference).meaning? site site.meaning?)
      (loadPath site loader reference) := by
  unfold Aim.meaning? loadPath
  dsimp only
  cases chosen : site.findFile reference with
  | none => exact .error world known rfl rfl faithful (.refl world site known)
  | some file =>
      have isKey : site.IsKey (site.key file) := ⟨reference, file, chosen, rfl⟩
      refine loadKey_gives faithful fun middle later absent => ?_
      unfold loadFile
      split
      case isTrue document => exact loadDocument_gives later absent document
      case isFalse source =>
          exact loadSource_gives later (gives _) keeps nothing raises isKey
            absent (by simpa using source)

theorem requireToken_gives
    (base : String)
    {token : String}
    (reference : isFileReference token = true) :
    world.Gives site origin under known (site.tokenMeaning? site.meaning? base token)
      (requireToken site loader base token) := by
  have aims :
      Aim.ofToken site base token =
        .path (site.anchor (Path.absoluteText site.cwdText base) token) := by
    unfold Aim.ofToken
    rw [if_pos reference]
  unfold Site.tokenMeaning? requireToken
  rw [aims]
  dsimp only
  rw [if_pos reference]
  exact (loadPath_gives faithful gives keeps nothing raises _).relabel _

end Tokens

end Loads

/-- The loads of a site that may nest deep enough give in faithful worlds what files mean. -/
theorem Loader.ofDepth_gives
    {site : Site}
    (nothing : site.ImportsNothing)
    (raises : site.raisesFailures = true)
    (origin : Nat)
    {depth : Nat}
    {under : List String}
    (deep : site.tree.entries.length < under.length + depth) :
    (Loader.ofDepth site depth).Gives site origin under := by
  -- More bodies than the tree has entries are never under way.
  induction depth generalizing under with
  | zero =>
      intro world known base token reference faithful
      exact absurd faithful.length_le (Nat.not_le.mpr deep)
  | succ depth ih =>
      intro world known base token reference faithful
      have nested (file : String) : (Loader.ofDepth site depth).Gives site origin (file :: under) :=
        ih (by rw [List.length_cons]; omega)
      exact requireToken_gives faithful nested (fun raises => Loader.ofDepth_keeps raises depth)
        nothing raises base reference

end ConfigTokens.Module
