import ConfigTokens.Proofs.Glob.Walk
/-!
# Walks that stay below

A walk puts together parts of the pattern and names that directories list. So a kind of paths to which all
proper names belong, and which goes on to joined paths and to the parts of a path, is not left by a walk: if
the pattern is of that kind, all that it finds is. Nothing is said about a walk that ends with an error.

Paths that neither start at the root nor hold a parent segment are of such a kind, since no directory lists a
name that leads up.
-/

namespace ConfigTokens.Glob

open ConfigTokens.Path
open ConfigTokens.Wildcard

/-! ## Results of computations that may fail -/

/-- A computation that ends without an error has a result of a kind. -/
def Ensures
    {ε α : Type}
    (kind : α → Prop) : Except ε α → Prop
  | .ok result => kind result
  | .error _ => True

namespace Ensures

variable {ε α β : Type}

theorem bind
    {action : Except ε α}
    {next : α → Except ε β}
    {first : α → Prop}
    {second : β → Prop}
    (begins : Ensures first action)
    (goesOn : ∀ result, first result → Ensures second (next result)) :
    Ensures second (action >>= next) := by
  cases action with
  | error => exact trivial
  | ok result => exact goesOn result begins

theorem and
    {action : Except ε α}
    {first second : α → Prop}
    (one : Ensures first action)
    (other : Ensures second action) :
    Ensures (fun result => first result ∧ second result) action := by
  cases action with
  | error => exact trivial
  | ok result => exact ⟨one, other⟩

theorem imp
    {action : Except ε α}
    {first second : α → Prop}
    (held : Ensures first action)
    (goesOn : ∀ result, first result → second result) :
    Ensures second action := by
  cases action with
  | error => exact trivial
  | ok result => exact goesOn result held

theorem mapM
    {action : α → Except ε β}
    {kind : β → Prop}
    {elements : List α}
    (each : ∀ element ∈ elements, Ensures kind (action element)) :
    Ensures (∀ result ∈ ·, kind result) (elements.mapM action) := by
  induction elements with
  | nil => exact List.forall_mem_nil kind
  | cons element rest ih =>
      obtain ⟨first, others⟩ := List.forall_mem_cons.mp each
      rw [List.mapM_cons]
      refine first.bind fun result kept => ?_
      refine (ih others).bind fun results all => ?_
      exact List.forall_mem_cons.mpr ⟨kept, all⟩

theorem mapM_flatten
    {action : α → Except ε (List β)}
    {kind : β → Prop}
    {elements : List α}
    (each : ∀ element ∈ elements, Ensures (∀ result ∈ ·, kind result) (action element)) :
    Ensures (∀ result ∈ ·, kind result) (do return (← elements.mapM action).flatten) := by
  refine (mapM each).bind fun lists all result member => ?_
  obtain ⟨list, among, inside⟩ := List.mem_flatten.mp member
  exact all list among result inside

end Ensures

/-! ## Kinds of paths that a walk does not leave -/

/-- A kind of paths that holds proper names, joined paths of the kind, and the parts of paths of the kind. -/
structure KeptByWalks
    (kind : List Char → Prop) : Prop where
  nil : kind []
  name : ∀ {name}, IsProper name → '\x00' ∉ name → kind name
  join : ∀ {base path}, kind base → kind path → kind (join base path)
  directory : ∀ {path}, kind path → kind (directory path)
  baseName : ∀ {path}, kind path → kind (baseName path)

theorem KeptByWalks.beneath
    {kind : List Char → Prop}
    (kept : KeptByWalks kind)
    {name path : List Char}
    (upper : kind name)
    (lower : kind path) :
    kind (beneath name path) := by
  unfold Glob.beneath
  split
  case isTrue => exact lower
  case isFalse =>
      split
      case isTrue => exact upper
      case isFalse => exact kept.join upper lower

namespace Scope

variable {Content : Type}
variable {scope : Scope Content}
variable (named : scope.tree.WellNamed)
variable {kind : List Char → Prop}
variable (kept : KeptByWalks kind)

include named kept

theorem list_ensures
    (directoriesOnly : Bool)
    (directory : List Char) :
    Ensures (∀ name ∈ ·, kind name) (scope.list directoriesOnly directory) := by
  have listed (place : String) :
      ∀ name ∈ (scope.tree.list scope.cwd place).map String.toList, kind name := by
    intro name member
    obtain ⟨text, among, rfl⟩ := List.mem_map.mp member
    obtain ⟨proper, clean⟩ := named.list among
    exact kept.name proper clean
  unfold Scope.list
  split
  case isTrue => exact trivial
  case isFalse =>
      intro name member
      split at member
      case isTrue => exact listed _ name (List.mem_filter.mp member).1
      case isFalse => exact listed _ name member

theorem descend_ensures
    (directoriesOnly : Bool)
    (depth : Nat)
    (directory : List Char) :
    Ensures (∀ path ∈ ·, kind path) (scope.descend directoriesOnly depth directory) := by
  induction depth generalizing directory with
  | zero => exact List.forall_mem_nil kind
  | succ depth deeper =>
      unfold descend
      refine (list_ensures named kept directoriesOnly directory).bind fun names all => ?_
      refine Ensures.mapM_flatten fun name member => ?_
      have upper : kind name := all name (List.mem_filter.mp member).1
      refine (deeper (beneath directory name)).bind fun paths lower => ?_
      refine List.forall_mem_cons.mpr ⟨upper, fun path below => ?_⟩
      obtain ⟨further, among, rfl⟩ := List.mem_map.mp below
      exact kept.beneath upper (lower further among)

theorem matchBelow_ensures
    (directoriesOnly : Bool)
    (directory : List Char) :
    Ensures (∀ path ∈ ·, kind path) (scope.matchBelow directoriesOnly directory) := by
  unfold matchBelow
  refine (descend_ensures named kept directoriesOnly _ directory).bind fun paths all path member => ?_
  rcases List.mem_append.mp member with self | below
  · split at self
    · rw [List.mem_singleton.mp self]
      exact kept.nil
    · cases self
  · exact all path below

theorem matchNames_ensures
    (directoriesOnly : Bool)
    (directory pattern : List Char) :
    Ensures (∀ name ∈ ·, kind name) (scope.matchNames directoriesOnly directory pattern) := by
  rw [matchNames_eq]
  exact (list_ensures named kept directoriesOnly directory).bind fun names all name member =>
    all name ((taken_sublist pattern names).subset member)

/-- The last segment of a pattern is the only thing that it finds but for names and paths of names. -/
theorem matchLast_ensures
    (directoriesOnly : Bool)
    (directory : List Char)
    {last : List Char}
    (ofLast : kind last) :
    Ensures (∀ path ∈ ·, kind path) (scope.matchLast directoriesOnly directory last) := by
  unfold matchLast
  split
  case isTrue => exact matchBelow_ensures named kept directoriesOnly directory
  case isFalse =>
      split
      case isTrue => exact matchNames_ensures named kept directoriesOnly directory last
      case isFalse =>
          intro path member
          rw [eq_of_mem_matchLiteral member]
          exact ofLast

theorem matchEach_ensures
    (directoriesOnly : Bool)
    {last : List Char}
    (ofLast : kind last)
    {places : List (List Char)}
    (fronts : ∀ place ∈ places, kind place) :
    Ensures (∀ path ∈ ·, kind path) (scope.matchEach directoriesOnly last places) := by
  refine Ensures.mapM_flatten fun place member => ?_
  refine (matchLast_ensures named kept directoriesOnly _ ofLast).bind fun names all path inside => ?_
  obtain ⟨name, among, rfl⟩ := List.mem_map.mp inside
  exact kept.join (fronts place member) (all name among)

theorem expandFrom_ensures
    (fuel : Nat)
    (directoriesOnly : Bool)
    {pattern : List Char}
    (ofPattern : kind pattern) :
    Ensures (∀ path ∈ ·, kind path) (scope.expandFrom fuel directoriesOnly pattern) := by
  induction fuel generalizing directoriesOnly pattern with
  | zero => exact List.forall_mem_nil kind
  | succ fuel shorter =>
      have front := kept.directory ofPattern
      have last := kept.baseName ofPattern
      cases shape pattern with
      | plain literal =>
          rw [expandFrom_of_plain fuel directoriesOnly literal]
          intro path member
          split at member
          · rw [List.mem_singleton.mp member]
            exact ofPattern
          · cases member
      | alone magic none =>
          rw [expandFrom_of_alone fuel directoriesOnly magic none]
          exact matchLast_ensures named kept directoriesOnly scope.root last
      | last magic below literal =>
          rw [expandFrom_of_last fuel directoriesOnly magic below literal]
          exact matchEach_ensures named kept directoriesOnly last (List.forall_mem_singleton.mpr front)
      | special _ special =>
          rw [expandFrom_of_special fuel directoriesOnly special]
          exact (shorter true front).bind fun places fronts =>
            matchEach_ensures named kept directoriesOnly last fronts

/-- What a pattern finds is of its kind. -/
theorem expand_ensures
    {pattern : List Char}
    (ofPattern : kind pattern) :
    Ensures (∀ path ∈ ·, kind path) (scope.expand pattern) := by
  rw [expand_eq]
  exact (expandFrom_ensures named kept _ false ofPattern).bind fun found all path member =>
    all path ((withoutRoot_sublist pattern found).subset member)

end Scope

/-! ## Paths that do not start at the root -/

theorem relative_keptByWalks :
    KeptByWalks (isAbsolute · = false) where
  nil := rfl
  name := fun proper _ => not_isAbsolute_of_isName proper.1
  join := fun upper lower => by rw [isAbsolute_join, upper, lower, Bool.or_self]
  directory := fun relative => by rw [isAbsolute_eq, lead_directory, ← isAbsolute_eq, relative]
  baseName := fun _ => isAbsolute_baseName _

/-! ## Paths without a way up -/

/-- A path that neither starts at the root nor goes to a parent. -/
structure IsLower
    (path : List Char) : Prop where
  relative : isAbsolute path = false
  low : parent ∉ segments path

theorem isLower_of_isName
    {name : List Char}
    (single : IsName name)
    (down : name ≠ parent) :
    IsLower name := by
  refine ⟨not_isAbsolute_of_isName single, fun member => ?_⟩
  rw [segments_of_isName single] at member
  exact down (List.mem_singleton.mp member).symm

theorem IsLower.join
    {base path : List Char}
    (upper : IsLower base)
    (lower : IsLower path) :
    IsLower (join base path) := by
  refine ⟨relative_keptByWalks.join upper.relative lower.relative, ?_⟩
  rw [segments_join_of_relative base lower.relative, List.mem_append, not_or]
  exact ⟨upper.low, lower.low⟩

theorem IsLower.directory
    {path : List Char}
    (lower : IsLower path) :
    IsLower (directory path) := by
  refine ⟨relative_keptByWalks.directory lower.relative, fun inside => ?_⟩
  exact lower.low (segments_directory_append path ▸ List.mem_append_left _ inside)

theorem IsLower.baseName
    {path : List Char}
    (lower : IsLower path) :
    IsLower (baseName path) := by
  by_cases empty : Path.baseName path = []
  · rw [empty]
    exact ⟨rfl, List.not_mem_nil⟩
  · refine isLower_of_isName ⟨empty, slash_not_mem_baseName path⟩ fun up => ?_
    have whole := segments_directory_append path
    rw [up] at whole
    exact lower.low (whole ▸ List.mem_append_right _ List.mem_cons_self)

theorem isLower_keptByWalks :
    KeptByWalks IsLower where
  nil := ⟨rfl, List.not_mem_nil⟩
  name := fun proper _ => isLower_of_isName proper.1 proper.2.2
  join := IsLower.join
  directory := IsLower.directory
  baseName := IsLower.baseName

end ConfigTokens.Glob
