import ConfigTokens.Proofs.Run.Layer
/-!
# Worlds that are consistent with a site

The table of a world is consistent with a site if it has modules that are made, and if each of them
looks for submodules where the site has modules below its name. Loads keep a world consistent, since
what changes a module leaves the directory of its submodules alone.
-/

namespace ConfigTokens.Module

namespace World

/-! ## Modules and the table -/

section Frames

variable
    (world : World)

theorem moduleAt_push_of_lt
    {id : ObjectId}
    (made : id < world.objects.size)
    (object : Object) :
    (world.push object).moduleAt id = world.moduleAt id := by
  simp only [moduleAt, module?, objects_push_of_lt made]

theorem moduleAt_push_self
    (content : ModuleObject) :
    (world.push (.module content)).moduleAt world.objects.size = content := by
  simp [moduleAt, module?, push]

theorem moduleAt_setObject_of_ne
    {id other : ObjectId}
    (apart : other ≠ id)
    (object : Object) :
    (world.setObject id object).moduleAt other = world.moduleAt other := by
  have same : (world.objects.setIfInBounds id object)[other]? = world.objects[other]? :=
    Array.getElem?_setIfInBounds_ne apart.symm
  simp only [moduleAt, module?, setObject, same]

/-- A module that is changed is there if its identity was made. -/
theorem moduleAt_setObject_self
    (id : ObjectId)
    (content : ModuleObject) :
    (world.setObject id (.module content)).moduleAt id = content ∨
      (world.setObject id (.module content)).moduleAt id = world.moduleAt id := by
  by_cases made : id < world.objects.size
  · left
    simp [moduleAt, module?, setObject, made]
  · right
    simp [moduleAt, module?, setObject, made]

/-- What a change of a module leaves alone is as before in every module. -/
theorem moduleAt_setObject_agrees
    {α : Type}
    (part : ModuleObject → α)
    (id other : ObjectId)
    {content : ModuleObject}
    (same : part content = part (world.moduleAt id)) :
    part ((world.setObject id (.module content)).moduleAt other) = part (world.moduleAt other) := by
  by_cases apart : other = id
  · subst apart
    rcases world.moduleAt_setObject_self other content with new | old
    · rw [new, same]
    · rw [old]
  · rw [world.moduleAt_setObject_of_ne apart]

/-- Globals and marks are no matter to where a module looks for submodules. -/
theorem searchPath_setObject
    (id other : ObjectId)
    {content : ModuleObject}
    (same : content.searchPath = (world.moduleAt id).searchPath) :
    ((world.setObject id (.module content)).moduleAt other).searchPath =
      (world.moduleAt other).searchPath :=
  world.moduleAt_setObject_agrees (·.searchPath) id other same

theorem lookup_tabulate
    (name other : String)
    (id : ObjectId) :
    (world.tabulate name id).table.lookup other =
      if other = name then some id else world.table.lookup other := by
  split
  case isTrue same =>
      subst same
      exact Assoc.lookup_put_self _ _ _
  case isFalse different => exact Assoc.lookup_put_of_ne different

theorem lookup_untabulate
    (name other : String) :
    (world.untabulate name).table.lookup other =
      if other = name then none else world.table.lookup other := by
  split
  case isTrue same =>
      subst same
      exact Assoc.lookup_erase_self _ _
  case isFalse different => exact Assoc.lookup_erase_of_ne different

theorem lookup_withFound
    (name parent other : String)
    (target : ImportTarget) :
    (world.withFound name parent target).table.lookup other =
      if other = name then some world.objects.size else world.table.lookup other :=
  lookup_tabulate _ name other _

theorem lookup_opened
    (registry : RegistryName)
    (file name : String) :
    (world.opened registry file).table.lookup name =
      if name = synthesizedName file then some world.objects.size else world.table.lookup name :=
  world.lookup_tabulate (synthesizedName file) name world.objects.size

theorem moduleAt_opened_self
    (registry : RegistryName)
    (file : String) :
    (world.opened registry file).moduleAt world.objects.size = freshFileModule file :=
  world.moduleAt_push_self (freshFileModule file)

end Frames

/-! ## Consistency -/

/-- The modules in the table are made, and look for submodules where the site has them. -/
structure Consistent
    (world : World)
    (site : Site) : Prop where
  made : ∀ name id, world.table.lookup name = some id → id < world.objects.size
  searchable :
    ∀ name id directory, world.table.lookup name = some id →
      (world.moduleAt id).searchPath = some directory → site.Searchable name directory

theorem consistent_empty
    (site : Site) :
    empty.Consistent site where
  made name id known := by cases known
  searchable name id directory known := by cases known

namespace Consistent

variable
    {world final : World}
    {site : Site}

/-- Modules that are made later, and other globals, keep a world consistent. -/
theorem mono
    (consistent : world.Consistent site)
    (table :
      ∀ name id, final.table.lookup name = some id → world.table.lookup name = some id)
    (objects : world.objects.size ≤ final.objects.size)
    (searchPath :
      ∀ id, id < world.objects.size →
        (final.moduleAt id).searchPath = (world.moduleAt id).searchPath) :
    final.Consistent site where
  made name id known := Nat.lt_of_lt_of_le (consistent.made name id (table name id known)) objects
  searchable name id directory known searches := by
    have before := table name id known
    rw [searchPath id (consistent.made name id before)] at searches
    exact consistent.searchable name id directory before searches

theorem push
    (consistent : world.Consistent site)
    (object : Object) :
    (world.push object).Consistent site :=
  consistent.mono (fun _ _ known => known) (by simp) fun _ made => by
    rw [world.moduleAt_push_of_lt made]

theorem setObject
    (consistent : world.Consistent site)
    (id : ObjectId)
    {content : ModuleObject}
    (same : content.searchPath = (world.moduleAt id).searchPath) :
    (world.setObject id (.module content)).Consistent site :=
  consistent.mono (fun _ _ known => known) (by simp) fun other _ =>
    world.searchPath_setObject id other same

/-- A function may be changed, which is no module. -/
theorem setFunction
    (consistent : world.Consistent site)
    {id : ObjectId}
    {content : FunctionObject}
    (found : world.function? id = some content)
    (changed : FunctionObject) :
    (world.setObject id (.function changed)).Consistent site := by
  refine consistent.mono (fun _ _ known => known) (by simp) fun other _ => ?_
  by_cases apart : other = id
  · subst apart
    have before : world.module? other = none := by
      unfold World.function? at found
      unfold World.module?
      split at found
      · simp_all
      · cases found
    have after : (world.setObject other (.function changed)).module? other = none := by
      by_cases made : other < world.objects.size <;> simp [World.module?, World.setObject, made]
    rw [World.moduleAt, World.moduleAt, before, after]
  · rw [world.moduleAt_setObject_of_ne apart]

theorem withGlobal
    (consistent : world.Consistent site)
    (id : ObjectId)
    (name : String)
    (value : Value) :
    (world.withGlobal id name value).Consistent site :=
  consistent.setObject id rfl

theorem marked
    (consistent : world.Consistent site)
    (id : ObjectId)
    (initialising : Bool) :
    (world.marked id initialising).Consistent site :=
  consistent.setObject id rfl

theorem untabulate
    (consistent : world.Consistent site)
    (name : String) :
    (world.untabulate name).Consistent site := by
  refine consistent.mono (fun other id known => ?_) (Nat.le_refl _) fun _ _ => rfl
  rw [lookup_untabulate] at known
  split at known
  · cases known
  · exact known

/-- The newest module may be put into the table under a name that is searched where it says. -/
theorem tabulate
    (consistent : world.Consistent site)
    {content : ModuleObject}
    (name : String)
    (searchable :
      ∀ directory, content.searchPath = some directory → site.Searchable name directory) :
    ((world.push (.module content)).tabulate name world.objects.size).Consistent site where
  made other id known := by
    rw [lookup_tabulate] at known
    change id < (world.push (.module content)).objects.size
    rw [size_objects_push]
    split at known
    · cases known
      exact Nat.lt_succ_self _
    · exact Nat.lt_succ_of_lt (consistent.made other id known)
  searchable other id directory known searches := by
    rw [lookup_tabulate] at known
    change ((world.push (.module content)).moduleAt id).searchPath = _ at searches
    split at known
    case isTrue same =>
        cases known
        rw [world.moduleAt_push_self] at searches
        exact same ▸ searchable directory searches
    case isFalse =>
        rw [world.moduleAt_push_of_lt (consistent.made other id known)] at searches
        exact consistent.searchable other id directory known searches

theorem opened
    (consistent : world.Consistent site)
    {file : String}
    (isKey : site.IsKey file)
    (registry : RegistryName) :
    (world.opened registry file).Consistent site := by
  have tabled :
      ((world.push (.module (freshFileModule file))).tabulate (synthesizedName file)
        world.objects.size).Consistent site := by
    refine consistent.tabulate _ fun directory searches => ?_
    unfold freshFileModule at searches
    dsimp only at searches
    split at searches
    case isTrue package =>
        cases searches
        exact .package isKey package
    case isFalse => cases searches
  exact tabled.mono (fun _ _ known => known) (Nat.le_refl _) fun _ _ => rfl

theorem withFound
    (consistent : world.Consistent site)
    {parts : List String}
    {target : ImportTarget}
    (single : ∀ part ∈ parts, IsPart part)
    (finds : site.Finds site.Searchable parts target)
    (parent : String) :
    (world.withFound (nameOfParts parts) parent target).Consistent site :=
  consistent.tabulate _ fun _ searches => finds.searchable single searches

theorem discarded
    (consistent : world.Consistent site)
    (registry : RegistryName)
    (file reason : String) :
    (world.discarded registry file reason).Consistent site :=
  (consistent.untabulate (synthesizedName file)).mono (fun _ _ known => known) (Nat.le_refl _)
    fun _ _ => rfl

end Consistent

end World

end ConfigTokens.Module
