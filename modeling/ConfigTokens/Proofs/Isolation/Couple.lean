import ConfigTokens.Proofs.Isolation.Alike
import ConfigTokens.Proofs.Registry.Change
import ConfigTokens.Proofs.Run.Agree
/-!
# Two worlds and one registry

A couple is two worlds whose paired objects are alike and of a certain kind, and in which one registry
answers alike. Two computations match if they lead from a couple to a couple, throw the same, and log the
same texts; of the left world they change nothing but paired objects and the answers of the registry.
-/

namespace ConfigTokens.Module

/-- Two worlds with paired objects of a kind, in which a registry answers alike. -/
structure Couple
    (registry : RegistryName)
    (fits : Object → Prop) where
  pairs : Pairing
  left : World
  right : World
  left_unique {id other third : ObjectId} : pairs id other → pairs id third → other = third
  right_unique {id other third : ObjectId} : pairs id third → pairs other third → id = other
  objects {id other : ObjectId} :
    pairs id other →
      ∃ object partner,
        left.objects[id]? = some object ∧ right.objects[other]? = some partner ∧
          object.Alike pairs partner ∧ fits object
  answers (key : String) :
    Option.Rel (Export.Alike pairs) (left.answer? registry key) (right.answer? registry key)

namespace Couple

variable
    {registry : RegistryName}
    {fits : Object → Prop}

/-! ## Growth -/

/--
A couple comes from another one: pairs stay, and those that are added have new objects. The left world
keeps its other objects and the answers of the other registries, and the same texts are logged in both.
-/
structure Grows
    (start final : Couple registry fits) : Prop where
  keeps {id other : ObjectId} : start.pairs id other → final.pairs id other
  fresh {id other : ObjectId} :
    final.pairs id other → start.pairs id other ∨ start.left.objects.size ≤ id
  larger : start.left.objects.size ≤ final.left.objects.size
  frame {id : ObjectId} :
    id < start.left.objects.size → (∀ other, ¬start.pairs id other) →
      final.left.objects[id]? = start.left.objects[id]?
  others {name : RegistryName} (key : String) :
    name ≠ registry → final.left.answer? name key = start.left.answer? name key
  traced :
    ∃ texts, final.left.traced = start.left.traced ++ texts ∧
      final.right.traced = start.right.traced ++ texts

namespace Grows

theorem refl
    (couple : Couple registry fits) :
    couple.Grows couple where
  keeps paired := paired
  fresh paired := .inl paired
  larger := Nat.le_refl _
  frame _ _ := rfl
  others _ _ := rfl
  traced := ⟨#[], by simp, by simp⟩

theorem trans
    {start middle final : Couple registry fits}
    (first : start.Grows middle)
    (second : middle.Grows final) :
    start.Grows final where
  keeps paired := second.keeps (first.keeps paired)
  fresh paired := by
    rcases second.fresh paired with early | late
    · exact first.fresh early
    · exact .inr (Nat.le_trans first.larger late)
  larger := Nat.le_trans first.larger second.larger
  frame {id} made free := by
    have still : ∀ other, ¬middle.pairs id other := by
      intro other paired
      rcases first.fresh paired with early | late
      · exact free other early
      · exact absurd made (Nat.not_lt.mpr late)
    rw [second.frame (Nat.lt_of_lt_of_le made first.larger) still, first.frame made free]
  others key apart := (second.others key apart).trans (first.others key apart)
  traced := by
    obtain ⟨texts, left, right⟩ := first.traced
    obtain ⟨more, leftMore, rightMore⟩ := second.traced
    refine ⟨texts ++ more, ?_, ?_⟩
    · rw [leftMore, left, Array.append_assoc]
    · rw [rightMore, right, Array.append_assoc]

end Grows

/-! ## Reading paired objects -/

section Reading

variable
    (couple : Couple registry fits)
    {id other : ObjectId}

theorem module?_rel
    (paired : couple.pairs id other) :
    Option.Rel (ModuleObject.Alike couple.pairs) (couple.left.module? id)
      (couple.right.module? other) := by
  obtain ⟨object, partner, left, right, alike, -⟩ := couple.objects paired
  exact alike.module?_rel left right

theorem function?_eq
    (paired : couple.pairs id other) :
    couple.left.function? id = couple.right.function? other := by
  obtain ⟨object, partner, left, right, alike, -⟩ := couple.objects paired
  unfold World.function?
  rw [left, right]
  cases alike <;> rfl

theorem fits_of_function
    (paired : couple.pairs id other)
    {content : FunctionObject}
    (function : couple.left.function? id = some content) :
    fits (.function content) := by
  obtain ⟨object, partner, left, -, -, fit⟩ := couple.objects paired
  unfold World.function? at function
  rw [left] at function
  cases object with
  | function _ =>
      cases function
      exact fit
  | _ => cases function

theorem moduleAt_alike
    (paired : couple.pairs id other) :
    (couple.left.moduleAt id).Alike couple.pairs (couple.right.moduleAt other) := by
  have found := couple.module?_rel paired
  unfold World.moduleAt
  generalize couple.left.module? id = left at found
  generalize couple.right.module? other = right at found
  cases found with
  | none => exact ⟨.nil, rfl, rfl, rfl⟩
  | some alike => exact alike

theorem made
    (paired : couple.pairs id other) :
    id < couple.left.objects.size ∧ other < couple.right.objects.size := by
  obtain ⟨object, partner, left, right, -⟩ := couple.objects paired
  exact ⟨(Array.getElem?_eq_some_iff.mp left).1, (Array.getElem?_eq_some_iff.mp right).1⟩

/-- The registry answers for the same keys. -/
theorem isSome_answer?_eq
    (key : String) :
    (couple.left.answer? registry key).isSome = (couple.right.answer? registry key).isSome := by
  have found := couple.answers key
  generalize couple.left.answer? registry key = left at found
  generalize couple.right.answer? registry key = right at found
  cases found <;> rfl

end Reading

/-! ## Single changes -/

section Changes

variable
    (couple : Couple registry fits)

/-- Other worlds with the same objects and registries. -/
def quiet
    {left right : World}
    (leftObjects : left.objects = couple.left.objects)
    (leftRegistries : left.registries = couple.left.registries)
    (rightObjects : right.objects = couple.right.objects)
    (rightRegistries : right.registries = couple.right.registries) : Couple registry fits where
  pairs := couple.pairs
  left := left
  right := right
  left_unique := couple.left_unique
  right_unique := couple.right_unique
  objects paired := by
    rw [leftObjects, rightObjects]
    exact couple.objects paired
  answers key := by
    rw [World.answer?_congr leftRegistries, World.answer?_congr rightRegistries]
    exact couple.answers key

theorem grows_quiet
    {left right : World}
    (leftObjects : left.objects = couple.left.objects)
    (leftRegistries : left.registries = couple.left.registries)
    (rightObjects : right.objects = couple.right.objects)
    (rightRegistries : right.registries = couple.right.registries)
    (texts : Array String)
    (leftTraced : left.traced = couple.left.traced ++ texts)
    (rightTraced : right.traced = couple.right.traced ++ texts) :
    couple.Grows (couple.quiet leftObjects leftRegistries rightObjects rightRegistries) where
  keeps paired := paired
  fresh paired := .inl paired
  larger := Nat.le_of_eq (congrArg Array.size leftObjects).symm
  frame _ _ := by
    change left.objects[_]? = _
    rw [leftObjects]
  others key _ := World.answer?_congr leftRegistries
  traced := ⟨texts, leftTraced, rightTraced⟩

/-- A new object in both worlds. -/
def push
    {object partner : Object}
    (alike : object.Alike couple.pairs partner)
    (fit : fits object) : Couple registry fits where
  pairs id other :=
    couple.pairs id other ∨
      id = couple.left.objects.size ∧ other = couple.right.objects.size
  left := couple.left.push object
  right := couple.right.push partner
  left_unique {id other third} := by
    rintro (first | ⟨rfl, rfl⟩) (second | ⟨same, rfl⟩)
    · exact couple.left_unique first second
    · exact absurd (couple.made first).1 (same ▸ Nat.lt_irrefl _)
    · exact absurd (couple.made second).1 (Nat.lt_irrefl _)
    · rfl
  right_unique {id other third} := by
    rintro (first | ⟨rfl, rfl⟩) (second | ⟨rfl, same⟩)
    · exact couple.right_unique first second
    · exact absurd (couple.made first).2 (same ▸ Nat.lt_irrefl _)
    · exact absurd (couple.made second).2 (Nat.lt_irrefl _)
    · rfl
  objects {id other} := by
    have grown {id other : ObjectId} (paired : couple.pairs id other) :
        couple.pairs id other ∨
          id = couple.left.objects.size ∧ other = couple.right.objects.size :=
      .inl paired
    rintro (paired | ⟨rfl, rfl⟩)
    · obtain ⟨before, twin, left, right, same, own⟩ := couple.objects paired
      refine ⟨before, twin, ?_, ?_, same.mono grown, own⟩
      · exact (World.objects_push_of_lt (couple.made paired).1 object).trans left
      · exact (World.objects_push_of_lt (couple.made paired).2 partner).trans right
    · exact ⟨object, partner, Array.getElem?_push_size, Array.getElem?_push_size, alike.mono grown,
        fit⟩
  answers key := Export.Alike.mono_rel .inl (couple.answers key)

theorem grows_push
    {object partner : Object}
    (alike : object.Alike couple.pairs partner)
    (fit : fits object) :
    couple.Grows (couple.push alike fit) where
  keeps paired := .inl paired
  fresh := by
    rintro id other (paired | ⟨rfl, -⟩)
    · exact .inl paired
    · exact .inr (Nat.le_refl _)
  larger := by
    change couple.left.objects.size ≤ (couple.left.push object).objects.size
    rw [World.size_objects_push]
    exact Nat.le_succ _
  frame made _ := World.objects_push_of_lt made object
  others _ _ := rfl
  traced := ⟨#[], by simp [push, World.push], by simp [push, World.push]⟩

/-- Other objects for a pair. -/
def set
    {id other : ObjectId}
    (paired : couple.pairs id other)
    {object partner : Object}
    (alike : object.Alike couple.pairs partner)
    (fit : fits object) : Couple registry fits where
  pairs := couple.pairs
  left := couple.left.setObject id object
  right := couple.right.setObject other partner
  left_unique := couple.left_unique
  right_unique := couple.right_unique
  objects {place twin} found := by
    obtain ⟨made, madeOther⟩ := couple.made paired
    by_cases same : place = id
    · subst same
      obtain rfl := couple.left_unique paired found
      exact ⟨object, partner, Array.getElem?_setIfInBounds_self_of_lt made,
        Array.getElem?_setIfInBounds_self_of_lt madeOther, alike, fit⟩
    · have apart : twin ≠ other := by
        rintro rfl
        exact same (couple.right_unique found paired)
      obtain ⟨before, partner, left, right, still⟩ := couple.objects found
      exact ⟨before, partner, (Array.getElem?_setIfInBounds_ne (Ne.symm same)).trans left,
        (Array.getElem?_setIfInBounds_ne apart.symm).trans right, still⟩
  answers := couple.answers

theorem grows_set
    {id other : ObjectId}
    (paired : couple.pairs id other)
    {object partner : Object}
    (alike : object.Alike couple.pairs partner)
    (fit : fits object) :
    couple.Grows (couple.set paired alike fit) where
  keeps paired := paired
  fresh paired := .inl paired
  larger := Nat.le_of_eq (World.size_objects_setObject couple.left id object).symm
  frame {place} _ free := by
    have apart : id ≠ place := by
      rintro rfl
      exact free other paired
    exact Array.getElem?_setIfInBounds_ne apart
  others _ _ := rfl
  traced := ⟨#[], by simp [set, World.setObject], by simp [set, World.setObject]⟩

/-- An export for a key of the registry. -/
def enter
    (key : String)
    {answer other : Export}
    (alike : answer.Alike couple.pairs other) : Couple registry fits where
  pairs := couple.pairs
  left := couple.left.enter registry key answer
  right := couple.right.enter registry key other
  left_unique := couple.left_unique
  right_unique := couple.right_unique
  objects := couple.objects
  answers sought := by
    rw [World.answer?_enter, World.answer?_enter]
    split
    · exact .some alike
    · exact couple.answers sought

theorem grows_enter
    (key : String)
    {answer other : Export}
    (alike : answer.Alike couple.pairs other) :
    couple.Grows (couple.enter key alike) where
  keeps paired := paired
  fresh paired := .inl paired
  larger := Nat.le_refl _
  frame _ _ := rfl
  others {name} sought apart := by
    change (couple.left.enter registry key answer).answer? name sought = _
    rw [World.answer?_enter, if_neg fun same => apart same.1]
  traced := ⟨#[], by simp [enter, World.enter, World.setRegistry],
    by simp [enter, World.enter, World.setRegistry]⟩

/-- No export for a key of the registry. -/
def leave
    (key : String) : Couple registry fits where
  pairs := couple.pairs
  left := couple.left.leave registry key
  right := couple.right.leave registry key
  left_unique := couple.left_unique
  right_unique := couple.right_unique
  objects := couple.objects
  answers sought := by
    rw [World.answer?_leave, World.answer?_leave]
    split
    · exact .none
    · exact couple.answers sought

theorem grows_leave
    (key : String) :
    couple.Grows (couple.leave key) where
  keeps paired := paired
  fresh paired := .inl paired
  larger := Nat.le_refl _
  frame _ _ := rfl
  others {name} sought apart := by
    change (couple.left.leave registry key).answer? name sought = _
    rw [World.answer?_leave, if_neg fun same => apart same.1]
  traced := ⟨#[], by simp [leave, World.leave, World.setRegistry],
    by simp [leave, World.leave, World.setRegistry]⟩

end Changes

end Couple

/-! ## Computations that match -/

/-- Two computations lead from a couple to a couple, with results that are related or the same failure. -/
inductive Run.Matches
    {α β : Type}
    {registry : RegistryName}
    {fits : Object → Prop}
    (couple : Couple registry fits)
    (results : Pairing → α → β → Prop)
    (run : Run α)
    (other : Run β) : Prop where
  | ok {value : α} {answer : β} (final : Couple registry fits) :
      couple.Grows final → run couple.left = .ok value final.left →
        other couple.right = .ok answer final.right → results final.pairs value answer →
          Matches couple results run other
  | error {thrown : Thrown} (final : Couple registry fits) :
      couple.Grows final → run couple.left = .error thrown final.left →
        other couple.right = .error thrown final.right → Matches couple results run other

/-- Two computations lead from a couple to a couple, whatever their results are. -/
def Run.Follows
    {α β : Type}
    {registry : RegistryName}
    {fits : Object → Prop}
    (couple : Couple registry fits)
    (run : Run α)
    (other : Run β) : Prop :=
  ∃ final : Couple registry fits, couple.Grows final ∧ final.left = run.final couple.left ∧
    final.right = other.final couple.right

namespace Run.Matches

variable
    {α β γ δ : Type}
    {registry : RegistryName}
    {fits : Object → Prop}
    {couple : Couple registry fits}
    {results : Pairing → α → β → Prop}
    {ends : Pairing → γ → δ → Prop}

theorem pure
    {value : α}
    {answer : β}
    (related : results couple.pairs value answer) :
    Matches couple results (Pure.pure value) (Pure.pure answer) :=
  .ok couple (.refl couple) rfl rfl related

theorem throw
    (thrown : Thrown) :
    Matches couple results (MonadExcept.throw thrown) (MonadExcept.throw thrown) :=
  .error couple (.refl couple) rfl rfl

theorem bind
    {run : Run α}
    {other : Run β}
    {next : α → Run γ}
    {further : β → Run δ}
    (first : Matches couple results run other)
    (second :
      ∀ {value answer} (middle : Couple registry fits), couple.Grows middle →
        results middle.pairs value answer → Matches middle ends (next value) (further answer)) :
    Matches couple ends (run >>= next) (other >>= further) := by
  cases first with
  | ok middle grown left right related =>
      cases second middle grown related with
      | ok final later nextLeft nextRight ended =>
          exact .ok final (grown.trans later) ((bind_of_ok left).trans nextLeft)
            ((bind_of_ok right).trans nextRight) ended
      | error final later nextLeft nextRight =>
          exact .error final (grown.trans later) ((bind_of_ok left).trans nextLeft)
            ((bind_of_ok right).trans nextRight)
  | error final grown left right =>
      exact .error final grown (bind_eq_error.mpr (.inl left)) (bind_eq_error.mpr (.inl right))

theorem tryCatch
    {run : Run α}
    {other : Run β}
    {handler : Thrown → Run α}
    {further : Thrown → Run β}
    (first : Matches couple results run other)
    (second :
      ∀ thrown (middle : Couple registry fits), couple.Grows middle →
        Matches middle results (handler thrown) (further thrown)) :
    Matches couple results (MonadExcept.tryCatch run handler)
      (MonadExcept.tryCatch other further) := by
  cases first with
  | ok final grown left right related =>
      exact .ok final grown (tryCatch_eq_ok.mpr (.inl left)) (tryCatch_eq_ok.mpr (.inl right)) related
  | error middle grown left right =>
      rename_i thrown
      cases second thrown middle grown with
      | ok final later handled other related =>
          exact .ok final (grown.trans later) (tryCatch_eq_ok.mpr (.inr ⟨_, _, left, handled⟩))
            (tryCatch_eq_ok.mpr (.inr ⟨_, _, right, other⟩)) related
      | error final later handled other =>
          exact .error final (grown.trans later) (tryCatch_eq_error.mpr ⟨_, _, left, handled⟩)
            (tryCatch_eq_error.mpr ⟨_, _, right, other⟩)

/-- The worlds at the end are those of a couple. -/
theorem follows
    {run : Run α}
    {other : Run β}
    (related : Matches couple results run other) :
    Run.Follows couple run other := by
  cases related with
  | ok final grown left right ended =>
      exact ⟨final, grown, (final_of_ok left).symm, (final_of_ok right).symm⟩
  | error final grown left right =>
      exact ⟨final, grown, (final_of_error left).symm, (final_of_error right).symm⟩

/-- After two computations that read the rest decides. -/
theorem bind_of_ok
    {run : Run α}
    {other : Run β}
    {next : α → Run γ}
    {further : β → Run δ}
    {value : α}
    {answer : β}
    (left : run couple.left = .ok value couple.left)
    (right : other couple.right = .ok answer couple.right)
    (rest : Matches couple ends (next value) (further answer)) :
    Matches couple ends (run >>= next) (other >>= further) := by
  cases rest with
  | ok final grown nextLeft nextRight related =>
      exact .ok final grown ((Run.bind_of_ok left).trans nextLeft)
        ((Run.bind_of_ok right).trans nextRight) related
  | error final grown nextLeft nextRight =>
      exact .error final grown ((Run.bind_of_ok left).trans nextLeft)
        ((Run.bind_of_ok right).trans nextRight)

end Run.Matches

/-! ## Single computations -/

namespace Couple

variable
    {registry : RegistryName}
    {fits : Object → Prop}
    (couple : Couple registry fits)

/-- The results carry nothing. -/
abbrev Done
    (_ : Pairing)
    (_ _ : Unit) : Prop :=
  True

/-- The texts of two worlds stay the same. -/
theorem modify_matches
    {change further : World → World}
    (leftObjects : (change couple.left).objects = couple.left.objects)
    (leftRegistries : (change couple.left).registries = couple.left.registries)
    (rightObjects : (further couple.right).objects = couple.right.objects)
    (rightRegistries : (further couple.right).registries = couple.right.registries)
    (texts : Array String)
    (leftTraced : (change couple.left).traced = couple.left.traced ++ texts)
    (rightTraced : (further couple.right).traced = couple.right.traced ++ texts) :
    Run.Matches couple Done (modify change) (modify further) :=
  .ok (couple.quiet leftObjects leftRegistries rightObjects rightRegistries)
    (couple.grows_quiet leftObjects leftRegistries rightObjects rightRegistries texts leftTraced
      rightTraced) rfl rfl trivial

theorem notify_matches
    (event other : Event) :
    Run.Matches couple Done (Run.notify event) (Run.notify other) :=
  couple.modify_matches rfl rfl rfl rfl #[] (by simp [World.note]) (by simp [World.note])

theorem trace_matches
    (text : String) :
    Run.Matches couple Done (Run.trace text) (Run.trace text) :=
  couple.modify_matches rfl rfl rfl rfl #[text] (by simp [World.trace]) (by simp [World.trace])

theorem tabulate_matches
    (name : String)
    (id other : ObjectId) :
    Run.Matches couple Done (Run.tabulate name id) (Run.tabulate name other) :=
  couple.modify_matches rfl rfl rfl rfl #[] (by simp [World.tabulate]) (by simp [World.tabulate])

theorem untabulate_matches
    (name : String) :
    Run.Matches couple Done (Run.untabulate name) (Run.untabulate name) :=
  couple.modify_matches rfl rfl rfl rfl #[] (by simp [World.untabulate]) (by simp [World.untabulate])

theorem enter_matches
    (key : String)
    {answer other : Export}
    (alike : answer.Alike couple.pairs other) :
    Run.Matches couple Done (Run.enter registry key answer) (Run.enter registry key other) :=
  .ok (couple.enter key alike) (couple.grows_enter key alike) rfl rfl trivial

theorem leave_matches
    (key : String) :
    Run.Matches couple Done (Run.leave registry key) (Run.leave registry key) :=
  .ok (couple.leave key) (couple.grows_leave key) rfl rfl trivial

theorem allocate_matches
    {object partner : Object}
    (alike : object.Alike couple.pairs partner)
    (fit : fits object) :
    Run.Matches couple (fun pairs id other => pairs id other) (Run.allocate object)
      (Run.allocate partner) :=
  .ok (couple.push alike fit) (couple.grows_push alike fit) rfl rfl (.inr ⟨rfl, rfl⟩)

theorem setGlobal_matches
    (modules : ∀ content, fits (.module content))
    {id other : ObjectId}
    (paired : couple.pairs id other)
    (name : String)
    {value given : Value}
    (alike : value.Alike couple.pairs given) :
    Run.Matches couple Done (Run.setGlobal id name value) (Run.setGlobal other name given) := by
  have changed := Object.Alike.module ((couple.moduleAt_alike paired).put name alike)
  exact .ok (couple.set paired changed (modules _)) (couple.grows_set paired changed (modules _)) rfl
    rfl trivial

end Couple

end ConfigTokens.Module
