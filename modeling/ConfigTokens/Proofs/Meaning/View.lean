import ConfigTokens.Proofs.Meaning.Faithful
import ConfigTokens.Proofs.Run.Body
/-!
# Views of bodies

A view shows a body under way in a world and the making of the same body side by side: the objects of
the draft are paired with objects that the body has made since its beginning, and everything else that
the body can reach is what files mean. A computation realises a making if it leads from a view to a view
with the same result, unless some load on its way reaches a body under way.
-/

namespace ConfigTokens.Module

/-- A pairing, and objects of a file by their index. -/
def withPlaces
    (known : Pairing)
    (file : String)
    (own : ObjectId → Nat → Prop) : Pairing := fun id other =>
  known id other ∨ ∃ index, own id index ∧ other = place file index

theorem withPlaces_mono
    {known later : Pairing}
    {file : String}
    {own further : ObjectId → Nat → Prop}
    (pairs : ∀ {id other}, known id other → later id other)
    (objects : ∀ {id index}, own id index → further id index)
    {id other : ObjectId} :
    withPlaces known file own id other → withPlaces later file further id other :=
  Or.imp pairs fun ⟨index, made, same⟩ => ⟨index, objects made, same⟩

/-- A world in which the body of a file is under way, with its draft. -/
structure View
    (site : Site)
    (origin : Nat)
    (under : List String)
    (file : String)
    (start : World)
    (before : Pairing) where
  world : World
  draft : Draft
  /-- The places of objects that were made by bodies that have ended. -/
  known : Pairing
  /-- The objects that the body has made, by their index in the draft. -/
  own : ObjectId → Nat → Prop
  faithful : world.Faithful site origin (file :: under) known
  extended : start.Extends world site before known draft.files
  module : own start.objects.size 0
  made {id : ObjectId} {index : Nat} : own id index → start.objects.size ≤ id
  apart {id other : ObjectId} {index : Nat} : own id index → ¬known id other
  left_unique {id : ObjectId} {index another : Nat} :
    own id index → own id another → index = another
  right_unique {id other : ObjectId} {index : Nat} : own id index → own other index → id = other
  objects {id : ObjectId} {index : Nat} :
    own id index →
      ∃ object partner,
        world.objects[id]? = some object ∧ draft.own.objects[index]? = some partner ∧
          object.Alike (withPlaces known file own) partner

variable
    {site : Site}
    {origin : Nat}
    {under : List String}
    {file : String}
    {start : World}
    {before : Pairing}

namespace View

/-- The places of all objects that the body can reach. -/
def pairs
    (view : View site origin under file start before) : Pairing :=
  withPlaces view.known file view.own

/-- A view comes after another one if it has its pairs. -/
def Grows
    (view final : View site origin under file start before) : Prop :=
  ∀ {id other : ObjectId}, view.pairs id other → final.pairs id other

variable
    (view : View site origin under file start before)

/-! ## Reading -/

/-- Paired objects are alike to those of the draft and of the meanings. -/
theorem exists_object
    {id other : ObjectId}
    (paired : view.pairs id other) :
    ∃ object partner,
      view.world.objects[id]? = some object ∧
        view.draft.object? site.meaning? file other = some partner ∧
          object.Alike view.pairs partner := by
  unfold Draft.object?
  rcases paired with known | ⟨index, own, rfl⟩
  · have apart : placeFile other ≠ file := fun same =>
      view.faithful.shut known (same ▸ List.mem_cons_self)
    rw [if_neg apart]
    obtain ⟨object, partner, found, meant, alike⟩ := view.faithful.objects known
    exact ⟨object, partner, found, meant, alike.mono .inl⟩
  · rw [placeFile_place, if_pos rfl, placeIndex_place]
    exact view.objects own

theorem moduleAt_alike :
    (view.world.moduleAt start.objects.size).Alike view.pairs (view.draft.own.moduleAt 0) := by
  obtain ⟨object, partner, found, drafted, alike⟩ := view.objects view.module
  have modules := alike.module?_rel found drafted
  unfold World.moduleAt
  generalize view.world.module? start.objects.size = left at modules
  generalize view.draft.own.module? 0 = right at modules
  cases modules with
  | none => exact ⟨.nil, rfl, rfl, rfl⟩
  | some content => exact content

theorem lt_of_own
    {id : ObjectId}
    {index : Nat}
    (own : view.own id index) :
    id < view.world.objects.size ∧ index < view.draft.own.objects.size := by
  obtain ⟨object, partner, found, drafted, -⟩ := view.objects own
  exact ⟨(Array.getElem?_eq_some_iff.mp found).1, (Array.getElem?_eq_some_iff.mp drafted).1⟩

/-! ## Changes -/

/-- The body makes an object. -/
def push
    {object partner : Object}
    (alike : object.Alike view.pairs partner) : View site origin under file start before where
  world := view.world.push object
  draft := { view.draft with own := view.draft.own.push partner }
  known := view.known
  own id index :=
    view.own id index ∨ id = view.world.objects.size ∧ index = view.draft.own.objects.size
  faithful := view.faithful.push object
  extended := by
    refine view.extended.after (by simp) (fun id made => ?_) rfl
    exact World.objects_push_of_lt (Nat.lt_of_lt_of_le made view.extended.larger) object
  module := .inl view.module
  made := by
    rintro id index (own | ⟨rfl, -⟩)
    · exact view.made own
    · exact view.extended.larger
  apart := by
    rintro id other index (own | ⟨rfl, -⟩) known
    · exact view.apart own known
    · exact absurd (view.faithful.made known) (Nat.lt_irrefl _)
  left_unique := by
    rintro id index another (first | ⟨rfl, rfl⟩) (second | ⟨same, rfl⟩)
    · exact view.left_unique first second
    · exact absurd (view.lt_of_own first).1 (same ▸ Nat.lt_irrefl _)
    · exact absurd (view.lt_of_own second).1 (Nat.lt_irrefl _)
    · rfl
  right_unique := by
    rintro id other index (first | ⟨rfl, rfl⟩) (second | ⟨rfl, same⟩)
    · exact view.right_unique first second
    · exact absurd (view.lt_of_own first).2 (same ▸ Nat.lt_irrefl _)
    · exact absurd (view.lt_of_own second).2 (Nat.lt_irrefl _)
    · rfl
  objects := by
    have grown {id other : ObjectId} (paired : view.pairs id other) :
        withPlaces view.known file (fun id index => view.own id index ∨
          id = view.world.objects.size ∧ index = view.draft.own.objects.size) id other :=
      withPlaces_mono (fun known => known) .inl paired
    rintro id index (own | ⟨rfl, rfl⟩)
    · obtain ⟨made, twin, found, drafted, same⟩ := view.objects own
      exact ⟨made, twin, World.objects_push_of_some found object,
        World.objects_push_of_some drafted partner, same.mono grown⟩
    · exact ⟨object, partner, Array.getElem?_push_size, Array.getElem?_push_size,
        alike.mono grown⟩

theorem grows_push
    {object partner : Object}
    (alike : object.Alike view.pairs partner) :
    view.Grows (view.push alike) :=
  withPlaces_mono id .inl

/-- The body sets a global of its module. -/
def setGlobal
    (name : String)
    {value other : Value}
    (alike : value.Alike view.pairs other) : View site origin under file start before where
  world := view.world.withGlobal start.objects.size name value
  draft := { view.draft with own := view.draft.own.withGlobal 0 name other }
  known := view.known
  own := view.own
  faithful := view.faithful.withGlobal (fun _ => view.apart view.module) name value
  extended := by
    refine view.extended.after (Nat.le_of_eq (World.size_objects_setObject _ _ _).symm)
      (fun id made => ?_) rfl
    exact World.objects_setObject_of_ne (Nat.ne_of_lt made) _
  module := view.module
  made := view.made
  apart := view.apart
  left_unique := view.left_unique
  right_unique := view.right_unique
  objects := by
    intro id index own
    by_cases self : id = start.objects.size
    · subst self
      obtain rfl := view.left_unique view.module own
      obtain ⟨made, drafted⟩ := view.lt_of_own own
      exact ⟨_, _, Array.getElem?_setIfInBounds_self_of_lt made,
        Array.getElem?_setIfInBounds_self_of_lt drafted,
        .module (view.moduleAt_alike.put name alike)⟩
    · have apart : index ≠ 0 := by
        rintro rfl
        exact self (view.right_unique own view.module)
      obtain ⟨object, partner, found, drafted, same⟩ := view.objects own
      exact ⟨object, partner, (World.objects_setObject_of_ne self _).trans found,
        (World.objects_setObject_of_ne apart _).trans drafted, same⟩

/-- Something is noted that closes no body. -/
def note
    (event : Event)
    (open_ : event.closed? = none) : View site origin under file start before where
  world := view.world.note event
  draft := view.draft
  known := view.known
  own := view.own
  faithful := view.faithful.note event fun _ _ => by simp [open_]
  extended := view.extended.after (Nat.le_refl _) (fun _ _ => rfl) rfl
  module := view.module
  made := view.made
  apart := view.apart
  left_unique := view.left_unique
  right_unique := view.right_unique
  objects := view.objects

/-- The body logs a text. -/
def trace
    (text : String) : View site origin under file start before where
  world := view.world.trace text
  draft := { view.draft with own := view.draft.own.trace text }
  known := view.known
  own := view.own
  faithful := view.faithful.trace text
  extended := view.extended.after (Nat.le_refl _) (fun _ _ => rfl) rfl
  module := view.module
  made := view.made
  apart := view.apart
  left_unique := view.left_unique
  right_unique := view.right_unique
  objects := view.objects

/-- A load that the body starts comes to its end. -/
def load
    {final : World}
    {later : Pairing}
    {files : List String}
    (faithful : final.Faithful site origin (file :: under) later)
    (extended : view.world.Extends final site view.known later files) :
    View site origin under file start before where
  world := final
  draft := { view.draft with files := view.draft.files ++ files }
  known := later
  own := view.own
  faithful := faithful
  extended := view.extended.trans extended
  module := view.module
  made := view.made
  apart own paired := by
    rcases extended.fresh paired with early | late
    · exact view.apart own early
    · exact absurd (view.lt_of_own own).1 (Nat.not_lt.mpr late)
  left_unique := view.left_unique
  right_unique := view.right_unique
  objects own := by
    obtain ⟨object, partner, found, drafted, alike⟩ := view.objects own
    exact ⟨object, partner, (extended.frame (view.lt_of_own own).1).trans found, drafted,
      alike.mono (withPlaces_mono extended.keeps id)⟩

theorem grows_load
    {final : World}
    {later : Pairing}
    {files : List String}
    (faithful : final.Faithful site origin (file :: under) later)
    (extended : view.world.Extends final site view.known later files) :
    view.Grows (view.load faithful extended) :=
  withPlaces_mono extended.keeps id

end View

/-! ## Computations that realise makings -/

/--
A computation leads from a view to a view, with a result that is related to that of a making or with the
same failure, or else it reaches a body under way.
-/
inductive Run.Realises
    {α β : Type}
    (view : View site origin under file start before)
    (results : Pairing → α → β → Prop)
    (run : Run α)
    (making : Making β) : Prop where
  | ok {value : α} {answer : β} (final : View site origin under file start before) :
      view.Grows final → run view.world = .ok value final.world →
        making view.draft = some (.ok answer, final.draft) → results final.pairs value answer →
          Realises view results run making
  | error {thrown : Thrown} (final : View site origin under file start before) :
      view.Grows final → run view.world = .error thrown final.world →
        making view.draft = some (.error thrown, final.draft) → Realises view results run making
  | reenters :
      Reenters site.registry ((run.final view.world).eventsSince origin) →
        Realises view results run making

namespace Run.Realises

variable
    {α β γ δ : Type}
    {view : View site origin under file start before}
    {results : Pairing → α → β → Prop}
    {ends : Pairing → γ → δ → Prop}

theorem pure
    {value : α}
    {answer : β}
    (related : results view.pairs value answer) :
    Realises view results (Pure.pure value) (Pure.pure answer) :=
  .ok view id rfl rfl related

theorem throw
    (thrown : Thrown) :
    Realises view results (MonadExcept.throw thrown) (MonadExcept.throw thrown) :=
  .error view id rfl rfl

/-- After two computations that read the rest decides. -/
theorem bind_of_ok
    {run : Run α}
    {making : Making β}
    {next : α → Run γ}
    {further : β → Making δ}
    {value : α}
    {answer : β}
    (left : run view.world = .ok value view.world)
    (right : making view.draft = some (.ok answer, view.draft))
    (rest : Realises view ends (next value) (further answer)) :
    Realises view ends (run >>= next) (making >>= further) := by
  have made : (making >>= further) view.draft = further answer view.draft := by
    rw [Making.bind_apply, right]
  cases rest with
  | ok final grown ended other related =>
      exact .ok final grown ((Run.bind_of_ok left).trans ended) (made.trans other) related
  | error final grown ended other =>
      exact .error final grown ((Run.bind_of_ok left).trans ended) (made.trans other)
  | reenters reached =>
      refine .reenters ?_
      rw [final_bind, left]
      exact reached

theorem bind
    {run : Run α}
    {making : Making β}
    {next : α → Run γ}
    {further : β → Making δ}
    (first : Realises view results run making)
    (lasts : ∀ value, (next value).Keeps (.history False))
    (second :
      ∀ {value answer} (middle : View site origin under file start before), view.Grows middle →
        results middle.pairs value answer → Realises middle ends (next value) (further answer)) :
    Realises view ends (run >>= next) (making >>= further) := by
  cases first with
  | ok middle grown left right related =>
      rename_i value answer
      have made : (making >>= further) view.draft = further answer middle.draft := by
        rw [Making.bind_apply, right]
      cases second middle grown related with
      | ok final later ended other related =>
          exact .ok final (fun paired => later (grown paired)) ((Run.bind_of_ok left).trans ended)
            (made.trans other) related
      | error final later ended other =>
          exact .error final (fun paired => later (grown paired))
            ((Run.bind_of_ok left).trans ended) (made.trans other)
      | reenters reached =>
          refine .reenters ?_
          rw [final_bind, left]
          exact reached
  | error final grown left right =>
      refine .error final grown (bind_eq_error.mpr (.inl left)) ?_
      rw [Making.bind_apply, right]
  | reenters reached =>
      -- The rest only adds to the journal.
      refine .reenters ?_
      rw [final_bind]
      cases ended : run view.world with
      | ok value middle =>
          rw [final_of_ok ended] at reached
          exact reached.later ((lasts value).moves_final middle)
      | error thrown middle =>
          rw [final_of_error ended] at reached
          exact reached

theorem tryCatch
    {run : Run α}
    {making : Making β}
    {handler : Thrown → Run α}
    {further : Thrown → Making β}
    (first : Realises view results run making)
    (lasts : ∀ thrown, (handler thrown).Keeps (.history False))
    (second :
      ∀ thrown (middle : View site origin under file start before), view.Grows middle →
        Realises middle results (handler thrown) (further thrown)) :
    Realises view results (MonadExcept.tryCatch run handler)
      (MonadExcept.tryCatch making further) := by
  cases first with
  | ok final grown left right related =>
      refine .ok final grown (tryCatch_eq_ok.mpr (.inl left)) ?_ related
      exact (Making.tryCatch_apply making further view.draft).trans (by rw [right])
  | error middle grown left right =>
      rename_i thrown
      have made :
          (MonadExcept.tryCatch making further : Making β) view.draft =
            further thrown middle.draft :=
        (Making.tryCatch_apply making further view.draft).trans (by rw [right])
      cases second thrown middle grown with
      | ok final later ended other related =>
          exact .ok final (fun paired => later (grown paired))
            (tryCatch_eq_ok.mpr (.inr ⟨_, _, left, ended⟩)) (made.trans other) related
      | error final later ended other =>
          exact .error final (fun paired => later (grown paired))
            (tryCatch_eq_error.mpr ⟨_, _, left, ended⟩) (made.trans other)
      | reenters reached =>
          refine .reenters ?_
          have handled := final_tryCatch run handler view.world
          rw [left] at handled
          exact handled.symm ▸ reached
  | reenters reached =>
      refine .reenters ?_
      have handled := final_tryCatch run handler view.world
      cases ended : run view.world with
      | ok value middle =>
          rw [ended] at handled
          rw [final_of_ok ended] at reached
          exact handled.symm ▸ reached
      | error thrown middle =>
          rw [ended] at handled
          rw [final_of_error ended] at reached
          exact handled.symm ▸ reached.later ((lasts thrown).moves_final middle)

end Run.Realises

end ConfigTokens.Module
