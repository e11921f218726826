import ConfigTokens.Proofs.Meaning.Making
/-!
# What files mean

A file means what its body makes where the files that it requires have their meanings. It means one thing
at most, since makings that know more never contradict makings that know less; and what it means is what
it makes if the meanings of all files are known.
-/

namespace ConfigTokens.Module

/-! ## How composed makings end -/

namespace Making

variable {α β : Type}

theorem bind_apply
    (making : Making α)
    (next : α → Making β)
    (draft : Draft) :
    (making >>= next) draft =
      match making draft with
      | none => none
      | some (.ok value, later) => next value later
      | some (.error thrown, later) => some (.error thrown, later) := by
  change (making draft).bind (fun ended => ExceptT.bindCont next ended.1 ended.2) = _
  cases making draft with
  | none => rfl
  | some ended =>
      obtain ⟨result, later⟩ := ended
      cases result <;> rfl

theorem tryCatch_apply
    (making : Making α)
    (handler : Thrown → Making α)
    (draft : Draft) :
    (tryCatch making handler : Making α) draft =
      match making draft with
      | none => none
      | some (.ok value, later) => some (.ok value, later)
      | some (.error thrown, later) => handler thrown later := by
  simp only [tryCatch, tryCatchThe, MonadExceptOf.tryCatch, ExceptT.tryCatch, ExceptT.mk, bind,
    StateT.bind]
  cases making draft with
  | none => rfl
  | some ended =>
      obtain ⟨result, later⟩ := ended
      cases result <;> rfl

end Making

/-! ## Makings that do not contradict -/

/-- Where two makings both have an end, they have the same. -/
def Making.Agrees
    {α : Type}
    (making other : Making α) : Prop :=
  ∀ draft ended given, making draft = some ended → other draft = some given → ended = given

/-- Files that have two meanings have the same one twice. -/
def Meanings.Agree
    (meanings others : Meanings) : Prop :=
  ∀ {file meaning given}, meanings file = some meaning → others file = some given → meaning = given

namespace Making.Agrees

variable {α β : Type}

theorem refl
    (making : Making α) :
    making.Agrees making := by
  intro draft ended given left right
  exact Option.some.inj (left.symm.trans right)

theorem bind
    {making other : Making α}
    {next further : α → Making β}
    (first : making.Agrees other)
    (second : ∀ value, (next value).Agrees (further value)) :
    (making >>= next).Agrees (other >>= further) := by
  intro draft ended given left right
  rw [bind_apply] at left right
  cases early : making draft with
  | none => simp [early] at left
  | some start =>
      cases also : other draft with
      | none => simp [also] at right
      | some twin =>
          obtain rfl := first draft _ _ early also
          obtain ⟨result, later⟩ := start
          rw [early] at left
          rw [also] at right
          cases result with
          | ok value => exact second value _ _ _ left right
          | error thrown => exact Option.some.inj (left.symm.trans right)

theorem tryCatch
    {making other : Making α}
    (first : making.Agrees other)
    (handler : Thrown → Making α) :
    Agrees (MonadExcept.tryCatch making handler) (MonadExcept.tryCatch other handler) := by
  intro draft ended given left right
  have left := (tryCatch_apply making handler draft).symm.trans left
  have right := (tryCatch_apply other handler draft).symm.trans right
  cases early : making draft with
  | none => simp [early] at left
  | some start =>
      cases also : other draft with
      | none => simp [also] at right
      | some twin =>
          obtain rfl := first draft _ _ early also
          rw [early] at left
          rw [also] at right
          exact Option.some.inj (left.symm.trans right)

theorem foldlM
    {step further : β → α → Making β}
    (agree : ∀ state item, (step state item).Agrees (further state item))
    (items : List α)
    (start : β) :
    Agrees (items.foldlM step start) (items.foldlM further start) := by
  induction items generalizing start with
  | nil => exact refl _
  | cons item rest ih =>
      rw [List.foldlM_cons, List.foldlM_cons]
      exact (agree start item).bind ih

end Making.Agrees

namespace Meanings.Agree

variable
    {meanings others : Meanings}
    (agree : meanings.Agree others)

include agree

theorem object?_eq
    {id : ObjectId}
    {object given : Object}
    (left : meanings.object? id = some object)
    (right : others.object? id = some given) :
    object = given := by
  unfold Meanings.object? at left right
  split at left
  case h_1 objects files known =>
      split at right
      case h_1 twins more also =>
          cases agree known also
          exact Option.some.inj (left.symm.trans right)
      case h_2 => cases right
  case h_2 => cases left

theorem draft_object?_eq
    {draft : Draft}
    {file : String}
    {id : ObjectId}
    {object given : Object}
    (left : draft.object? meanings file id = some object)
    (right : draft.object? others file id = some given) :
    object = given := by
  unfold Draft.object? at left right
  split at left
  case isTrue same =>
      rw [if_pos same] at right
      exact Option.some.inj (left.symm.trans right)
  case isFalse apart =>
      rw [if_neg apart] at right
      exact agree.object?_eq left right

theorem aim_eq
    {site : Site}
    {aim : Aim}
    {meaning given : Meaning Export}
    (left : aim.meaning? site meanings = some meaning)
    (right : aim.meaning? site others = some given) :
    meaning = given := by
  unfold Aim.meaning? at left right
  cases aim with
  | name specifier => cases left
  | path reference =>
      cases found : site.findFile reference with
      | none =>
          simp only [found] at left right
          exact Option.some.inj (left.symm.trans right)
      | some file =>
          simp only [found] at left right
          obtain ⟨known, first, rfl⟩ := Option.map_eq_some_iff.mp left
          obtain ⟨also, second, rfl⟩ := Option.map_eq_some_iff.mp right
          rw [agree first second]

theorem take_agrees
    (site : Site)
    (base token : String) :
    (Making.take (site.tokenMeaning? meanings base token)).Agrees
      (Making.take (site.tokenMeaning? others base token)) := by
  intro draft ended given left right
  obtain ⟨first, known, rfl⟩ := Option.map_eq_some_iff.mp left
  obtain ⟨second, also, rfl⟩ := Option.map_eq_some_iff.mp right
  obtain ⟨meaning, early, rfl⟩ := Option.map_eq_some_iff.mp known
  obtain ⟨twin, late, rfl⟩ := Option.map_eq_some_iff.mp also
  rw [agree.aim_eq early late]

theorem scene_agrees
    (file : String)
    (value : Value) :
    (Making.scene meanings file value).Agrees (Making.scene others file value) := by
  intro draft ended given left right
  cases value with
  | module id =>
      obtain ⟨object, known, rfl⟩ := Option.map_eq_some_iff.mp left
      obtain ⟨twin, also, rfl⟩ := Option.map_eq_some_iff.mp right
      rw [agree.draft_object?_eq known also]
  | _ => exact Option.some.inj (left.symm.trans right)

theorem attributeOf_agrees
    (file : String)
    (value : Value)
    (name : String) :
    (Making.attributeOf meanings file value name).Agrees
      (Making.attributeOf others file value name) :=
  (agree.scene_agrees file value).bind fun _ => .refl _

theorem member_agrees
    (file : String)
    (value : Value)
    (name : String) :
    (Making.member meanings file value name).Agrees (Making.member others file value name) :=
  (agree.scene_agrees file value).bind fun _ => .refl _

theorem require_agrees
    (site : Site)
    (token : String) :
    (Making.require site meanings token).Agrees (Making.require site others token) :=
  (Making.Agrees.refl _).bind fun _ =>
    (agree.take_agrees site _ token).bind fun _ => .refl _

theorem runStep_agrees
    (site : Site)
    (file : String)
    (step : Step) :
    (Making.runStep site meanings file step).Agrees (Making.runStep site others file step) := by
  cases step with
  | require name token => exact (agree.require_agrees site token).bind fun _ => .refl _
  | tryRequire name token =>
      exact ((agree.require_agrees site token).tryCatch _).bind fun _ => .refl _
  | peek name owner member =>
      exact (Making.Agrees.refl _).bind fun value =>
        (agree.attributeOf_agrees file value member).bind fun _ => .refl _
  | copy name source members =>
      exact (Making.Agrees.refl _).bind fun start =>
        (Making.Agrees.foldlM (agree.member_agrees file) members start).bind fun _ => .refl _
  | _ => exact .refl _

theorem runSteps_agree
    (site : Site)
    (file : String)
    (steps : List Step) :
    (Making.runSteps site meanings file steps).Agrees
      (Making.runSteps site others file steps) := by
  induction steps with
  | nil => exact .refl _
  | cons step rest ih => exact (agree.runStep_agrees site file step).bind fun _ => ih

theorem run_agrees
    (site : Site)
    (file : String) :
    (Making.run site meanings file).Agrees (Making.run site others file) := by
  unfold Making.run
  split
  case h_1 => exact .refl _
  case h_2 => exact .refl _
  case h_3 steps read => exact agree.runSteps_agree site file steps

theorem meaningBy?_eq
    {site : Site}
    {file : String}
    {meaning given : Meaning (Array Object)}
    (left : site.meaningBy? meanings file = some meaning)
    (right : site.meaningBy? others file = some given) :
    meaning = given := by
  unfold Site.meaningBy? at left right
  split at left
  case isTrue document =>
      rw [if_pos document] at right
      exact Option.some.inj (left.symm.trans right)
  case isFalse source =>
      rw [if_neg source] at right
      unfold Site.bodyMeaning? at left right
      cases first : Making.run site meanings file (.begun file) with
      | none => simp [first] at left
      | some ended =>
          cases second : Making.run site others file (.begun file) with
          | none => simp [second] at right
          | some twin =>
              obtain rfl := agree.run_agrees site file _ _ _ first second
              rw [first] at left
              rw [second] at right
              exact Option.some.inj (left.symm.trans right)

end Meanings.Agree

/-! ## The meaning of a file -/

/-- A file has a meaning if its making has an end where some files have the meanings that they have. -/
inductive Site.Means
    (site : Site) : String → Meaning (Array Object) → Prop where
  | intro {meanings : Meanings} {file : String} {meaning : Meaning (Array Object)} :
      (∀ other given, meanings other = some given → Means site other given) →
        site.meaningBy? meanings file = some meaning → Means site file meaning

theorem Site.Means.unique
    {site : Site}
    {file : String}
    {meaning given : Meaning (Array Object)}
    (first : site.Means file meaning)
    (second : site.Means file given) :
    meaning = given := by
  -- The induction is on what is known of the files that the file requires.
  induction first generalizing given with
  | intro known made ih =>
      cases second with
      | intro also other =>
          have agree {file : String} {meaning given : Meaning (Array Object)}
              (left : _ = some meaning) (right : _ = some given) : meaning = given :=
            ih file meaning left (also file given right)
          exact Meanings.Agree.meaningBy?_eq agree made other

open scoped Classical in
/-- The meaning of a file, if it has one. -/
noncomputable def Site.meaning?
    (site : Site) : Meanings := fun file =>
  if known : ∃ meaning, site.Means file meaning then some known.choose else none

namespace Site

variable
    {site : Site}
    {file : String}
    {meaning : Meaning (Array Object)}

theorem meaning?_eq_some_iff :
    site.meaning? file = some meaning ↔ site.Means file meaning := by
  unfold meaning?
  split
  case isTrue known =>
      constructor
      · intro same
        cases same
        exact known.choose_spec
      · intro means
        rw [known.choose_spec.unique means]
  case isFalse none =>
      constructor
      · intro same
        cases same
      · intro means
        exact absurd ⟨meaning, means⟩ none

/-- What a file makes where all meanings are known is what it means. -/
theorem meaning?_of_meaningBy?
    (made : site.meaningBy? site.meaning? file = some meaning) :
    site.meaning? file = some meaning :=
  meaning?_eq_some_iff.mpr (.intro (fun _ _ known => meaning?_eq_some_iff.mp known) made)

theorem meaning?_of_document
    (document : isDocument file = true) :
    site.meaning? file = some (site.documentMeaning file) := by
  apply meaning?_of_meaningBy?
  unfold meaningBy?
  rw [if_pos document]

section Bodies

variable
    (source : isDocument file = false)
    {draft : Draft}

include source

theorem meaning?_of_run_eq_ok
    (made : Making.run site site.meaning? file (.begun file) = some (.ok (), draft)) :
    site.meaning? file = some ⟨.ok draft.own.objects, draft.files ++ [file]⟩ := by
  apply meaning?_of_meaningBy?
  unfold meaningBy? bodyMeaning?
  rw [source, made]
  rfl

theorem meaning?_of_run_eq_error
    {thrown : Thrown}
    (made : Making.run site site.meaning? file (.begun file) = some (.error thrown, draft)) :
    site.meaning? file = some ⟨.error (loadError file thrown), draft.files⟩ := by
  apply meaning?_of_meaningBy?
  unfold meaningBy? bodyMeaning?
  rw [source, made]
  rfl

end Bodies

end Site

end ConfigTokens.Module
