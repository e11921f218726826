import Mathlib.Data.List.Flatten
import ConfigTokens.Proofs.FileTree.Detours
import ConfigTokens.Proofs.FileTree.Cycles
import ConfigTokens.Proofs.Path.Resolved
/-!
# Resolved paths in a tree

The text of where the segments of a path lead is no longer than the path and holds no other characters, and
its names are what the names of the path spell. So where something stands at a path that goes up only from
directories without links, it stands at that text as well (`Stands.resolved`), and the text can be looked up
if the path can.
-/

namespace ConfigTokens

namespace Path

open ConfigTokens.Text

/-! ## Resolved texts are shorter -/

theorem foldl_enter_sublist
    (components place : List (List Char)) :
    (components.foldl enter place).reverse.Sublist (place.reverse ++ components) := by
  induction components generalizing place with
  | nil => rw [List.append_nil, List.foldl_nil]
  | cons component rest ih =>
      rw [List.foldl_cons, List.append_cons]
      refine (ih (enter place component)).trans (List.Sublist.append_right ?_ rest)
      unfold enter
      split
      case isTrue => exact List.sublist_append_left _ _
      case isFalse =>
          split
          case isTrue => exact (List.reverse_sublist.mpr (List.tail_sublist place)).trans (List.sublist_append_left _ _)
          case isFalse => rw [List.reverse_cons]

/-- Components that are followed leave some of them. -/
theorem resolve_sublist
    (components : List (List Char)) :
    (resolve components).Sublist components :=
  foldl_enter_sublist components []

theorem unite_sublist
    {names others : List (List Char)}
    (fewer : names.Sublist others) :
    (unite '/' names).Sublist (unite '/' others) := by
  induction fewer with
  | slnil => exact List.Sublist.refl _
  | @cons names others name _ ih =>
      by_cases alone : others = []
      · subst alone
        rw [unite_nil, List.sublist_nil] at ih
        rw [ih]
        exact List.nil_sublist _
      · rw [unite_cons_of_ne_nil '/' name alone]
        exact (ih.cons '/').trans (List.sublist_append_right _ _)
  | @cons_cons names others name fewer ih =>
      by_cases none : names = []
      · subst none
        rw [unite_singleton]
        by_cases alone : others = []
        · rw [alone, unite_singleton]
        · rw [unite_cons_of_ne_nil '/' name alone]
          exact List.sublist_append_left _ _
      · have some : others ≠ [] := by
          rintro rfl
          exact none (List.sublist_nil.mp fewer)
        rw [unite_cons_of_ne_nil '/' name none, unite_cons_of_ne_nil '/' name some]
        exact (ih.cons_cons '/').append_left name

/-- The text of where a path from the root leads has no other characters than the path. -/
theorem resolved_sublist
    {path : List Char}
    (rooted : isAbsolute path = true) :
    ('/' :: unite '/' (resolve (segments path))).Sublist path := by
  obtain ⟨rest, rfl⟩ := exists_cons_of_isAbsolute rooted
  rw [segments_cons_slash]
  refine List.Sublist.cons_cons '/' ?_
  have pieces : (resolve (segments rest)).Sublist (fields '/' rest) :=
    (resolve_sublist _).trans List.filter_sublist
  simpa only [unite_fields] using unite_sublist pieces

end Path

namespace FileTree

open ConfigTokens.Path

variable {Content : Type}
variable {tree : FileTree Content}

theorem byteLength_le
    {first second : List Char}
    (fewer : first.Sublist second) :
    byteLength (String.ofList first) ≤ byteLength (String.ofList second) := by
  unfold byteLength Text.utf8Bytes
  rw [String.toList_ofList, String.toList_ofList]
  exact (fewer.flatMap _).length_le

/-! ## Names of paths -/

theorem namesOf_ofList
    (path : List Char) :
    namesOf (String.ofList path) = (Text.fields '/' path).map String.ofList := by
  rw [namesOf, String.toList_ofList]

theorem spell_ofList
    (place : List (List Char))
    {piece : List Char}
    (filled : piece ≠ []) :
    spell (place.reverse.map String.ofList) [String.ofList piece] =
      (enter place piece).reverse.map String.ofList := by
  have empty : String.ofList piece = "" ↔ piece = [] := String.ofList_inj
  have stays : String.ofList piece = "." ↔ piece = here := String.ofList_inj
  have up : String.ofList piece = ".." ↔ piece = parent := String.ofList_inj
  rw [spell, List.foldl_cons, List.foldl_nil]
  unfold enter
  by_cases stay : piece = here
  · rw [if_pos (by simp [stays.mpr stay]), if_pos stay]
  · rw [if_neg (by simp [empty, stays, filled, stay]), if_neg stay]
    by_cases climb : piece = parent
    · rw [if_pos (up.mpr climb), if_pos climb]
      cases place with
      | nil => rfl
      | cons last before => simp
    · rw [if_neg (fun same => climb (up.mp same)), if_neg climb]
      simp

/-- The names of a path spell what its segments lead to. -/
theorem spell_fields
    (pieces place : List (List Char)) :
    spell (place.reverse.map String.ofList) (pieces.map String.ofList) =
      ((pieces.filter (· ≠ [])).foldl enter place).reverse.map String.ofList := by
  induction pieces generalizing place with
  | nil => rfl
  | cons piece rest ih =>
      have onward : spell (place.reverse.map String.ofList) ((piece :: rest).map String.ofList) =
          spell (spell (place.reverse.map String.ofList) [String.ofList piece]) (rest.map String.ofList) :=
        spell_append _ [_] _
      rw [onward]
      by_cases empty : piece = []
      · subst empty
        rw [List.filter_cons_of_neg (by simp), ← ih]
        rfl
      · rw [List.filter_cons_of_pos (by simpa using empty), List.foldl_cons, ← ih, spell_ofList place empty]

theorem spell_namesOf
    (path : List Char) :
    spell [] (namesOf (String.ofList path)) = (resolve (segments path)).map String.ofList := by
  rw [namesOf_ofList]
  exact spell_fields (Text.fields '/' path) []

/-- A walk along the text of names from the root is one along the names. -/
theorem walk_unite
    (follow : Bool)
    (links : Nat)
    {names : List (List Char)}
    (single : ∀ name ∈ names, IsName name) :
    tree.walk follow links [] (namesOf (String.ofList ('/' :: Text.unite '/' names))) =
      tree.walk follow links [] (names.map String.ofList) := by
  have root : tree.entry? [] = some .directory := rfl
  have first : namesOf (String.ofList ('/' :: Text.unite '/' names)) =
      "" :: (Text.fields '/' (Text.unite '/' names)).map String.ofList := by
    have cut := Text.fields_append_cons '/' [] (Text.unite '/' names)
    rw [namesOf_ofList, ← List.nil_append ('/' :: _), cut]
    rfl
  rw [first, walk_stay root (.inl rfl)]
  by_cases none : names = []
  · subst none
    exact walk_stay root (.inl rfl)
  · rw [Text.fields_unite none fun name member => (single name member).2]

/-- The names of a path that do not stay. -/
theorem filter_namesOf
    (path : List Char) :
    (namesOf (String.ofList path)).filter (fun name => !(name = "" || name = ".")) =
      ((segments path).filter (· ≠ here)).map String.ofList := by
  rw [namesOf_ofList, segments, List.filter_map, List.filter_filter]
  congr 1
  refine List.filter_congr fun piece _ => ?_
  have empty : String.ofList piece = "" ↔ piece = [] := String.ofList_inj
  have stays : String.ofList piece = "." ↔ piece = here := String.ofList_inj
  simp [empty, stays, Bool.and_comm]

/-! ## Paths at which something stands -/

/-- Something stands at a path from the root, be it that the path is too long to be looked up. -/
structure Stands
    (tree : FileTree Content)
    (path : List Char) : Prop where
  clean : '\x00' ∉ path
  way : ∃ found, tree.Way false linkLimit [] (namesOf (String.ofList path)) found

theorem find_eq_walk
    {follow : Bool}
    {path : List Char}
    (rooted : isAbsolute path = true)
    (clean : '\x00' ∉ path)
    (short : byteLength (String.ofList path) < 4096)
    (cwd : List String) :
    tree.find follow cwd (String.ofList path) =
      tree.walk follow linkLimit [] (namesOf (String.ofList path)) := by
  obtain ⟨rest, rfl⟩ := exists_cons_of_isAbsolute rooted
  unfold find
  rw [if_neg (by simpa using clean), if_neg (Nat.not_le.mpr short), if_pos (by simp [isRooted])]

theorem way_of_find
    {follow : Bool}
    {path : List Char}
    (rooted : isAbsolute path = true)
    {cwd : List String}
    {found : List String × Entry Content}
    (there : tree.find follow cwd (String.ofList path) = .ok found) :
    '\x00' ∉ path ∧ tree.Way follow linkLimit [] (namesOf (String.ofList path)) found := by
  obtain ⟨rest, rfl⟩ := exists_cons_of_isAbsolute rooted
  have walked := (walk_of_find there).2
  rw [if_pos (by simp [isRooted]), walk_eq_ok_iff] at walked
  refine ⟨fun inside => ?_, walked⟩
  unfold find at there
  rw [if_pos (by simpa using inside)] at there
  cases there

theorem stands_of_isPresent
    {path : List Char}
    (rooted : isAbsolute path = true)
    {cwd : List String}
    (present : tree.isPresent cwd (String.ofList path) = true) :
    tree.Stands path := by
  unfold isPresent at present
  split at present
  case h_1 found there =>
      obtain ⟨clean, way⟩ := way_of_find rooted there
      exact ⟨clean, found, way⟩
  case h_2 => cases present

theorem Stands.isPresent
    {path : List Char}
    (stands : tree.Stands path)
    (rooted : isAbsolute path = true)
    (short : byteLength (String.ofList path) < 4096)
    (cwd : List String) :
    tree.isPresent cwd (String.ofList path) = true := by
  obtain ⟨found, way⟩ := stands.way
  rw [FileTree.isPresent, find_eq_walk rooted stands.clean short, walk_eq_ok_iff.mpr way]

/-- A directory is reached by any names with the same steps. -/
theorem Way.respell
    {links : Nat}
    {last : List String}
    {path other : List Char}
    (way : tree.Way true links [] (namesOf (String.ofList path)) (last, .directory))
    (same : (segments path).filter (· ≠ here) = (segments other).filter (· ≠ here)) :
    tree.Way true links [] (namesOf (String.ofList other)) (last, .directory) := by
  obtain ⟨found, unfollowed⟩ := way.unfollowed
  have straight := (unfollowed.drop (.filter _)).1
  rw [walk_eq_ok_iff.mpr way, filter_namesOf, same, ← filter_namesOf, walk_eq_ok_iff] at straight
  exact straight.putBack (.filter _)

theorem stands_of_directory
    {path other : List Char}
    {last : List String}
    (clean : '\x00' ∉ other)
    (way : tree.Way true linkLimit [] (namesOf (String.ofList path)) (last, .directory))
    (same : (segments path).filter (· ≠ here) = (segments other).filter (· ≠ here)) :
    tree.Stands other :=
  ⟨clean, (way.respell same).unfollowed⟩

/-! ## Names in a directory -/

/-- No name in a tree is too long to be looked up. -/
def ShortNamed
    (tree : FileTree Content) : Prop :=
  ∀ entry ∈ tree.entries, ∀ name ∈ entry.1, byteLength name ≤ 255

/-- The names in a directory of proper and short names are looked up. -/
theorem isStep_of_mem_names
    (named : tree.WellNamed)
    (short : tree.ShortNamed)
    {place : List String}
    {name : String}
    (member : name ∈ tree.names place) :
    IsStep name := by
  obtain ⟨entry, inside, way⟩ := mem_names.mp member
  have among : name ∈ entry.1 := way ▸ List.mem_append_right place (List.mem_singleton_self name)
  obtain ⟨⟨⟨filled, -⟩, stays, up⟩, -⟩ := named entry inside name among
  refine ⟨?_, fun same => up (congrArg String.toList same), short entry inside name among⟩
  rintro (same | same)
  · exact filled (congrArg String.toList same)
  · exact stays (congrArg String.toList same)

/-- Something stands where a directory lists a name. -/
theorem exists_way_of_mem_names
    {place : List String}
    {name : String}
    (here : tree.entry? place = some .directory)
    (step : IsStep name)
    (member : name ∈ tree.names place)
    (links : Nat) :
    ∃ found, tree.Way false links place [name] found := by
  obtain ⟨entry, inside, way⟩ := mem_names.mp member
  have there : ∃ entry, tree.entry? (place ++ [name]) = some entry := by
    unfold entry?
    rw [if_neg (by simp), ← Option.isSome_iff_exists, List.lookup_isSome_iff]
    exact ⟨entry, inside, by simpa using way.symm⟩
  obtain ⟨entry, present⟩ := there
  cases entry with
  | link target => exact ⟨_, .last here step present rfl⟩
  | directory => exact ⟨_, .down here step present nofun (.stop present)⟩
  | file content => exact ⟨_, .down here step present nofun (.stop present)⟩

/-- Something stands at a path to a directory with a name in it. -/
theorem stands_join
    {path name : List Char}
    {place : List String}
    (filled : path ≠ [])
    (way : tree.Way true linkLimit [] (namesOf (String.ofList path)) (place, .directory))
    (single : IsName name)
    (clean : '\x00' ∉ join path name)
    (step : IsStep (String.ofList name))
    (member : String.ofList name ∈ tree.names place) :
    tree.Stands (join path name) := by
  obtain ⟨-, names, last, ofPath, ends, ofJoin⟩ := namesOf_join filled single
  -- A slash at the end of the path makes no difference.
  have straight : tree.Way true linkLimit [] names (place, .directory) := by
    rw [ofPath] at way
    rcases ends with rfl | rfl
    · rwa [List.append_nil] at way
    · obtain ⟨found, unfollowed⟩ := way.unfollowed
      have dropped := Drops.append names (.drop (.inl rfl) .nil)
      rw [List.append_nil] at dropped
      rw [← walk_eq_ok_iff, (unfollowed.drop dropped).1, walk_eq_ok_iff]
      exact way
  obtain ⟨left, onward⟩ := straight.append
  have here : tree.entry? place = some .directory := entry?_of_walk (walk_eq_ok_iff.mpr way)
  obtain ⟨found, below⟩ := exists_way_of_mem_names here step member left
  refine ⟨clean, found, ?_⟩
  rw [ofJoin, ← walk_eq_ok_iff, onward false _ (List.cons_ne_nil _ _), walk_eq_ok_iff]
  exact below

/-! ## Resolved paths -/

/--
Where a path goes up only from directories without links, something stands at the text of where it leads, and
that is what stands at the path.
-/
theorem Stands.resolved
    {path : List Char}
    (stands : tree.Stands path)
    (rooted : isAbsolute path = true)
    (climbs : tree.ClimbsUnlinked (namesOf (String.ofList path))) :
    tree.Stands ('/' :: Text.unite '/' (resolve (segments path))) ∧
      tree.walk true linkLimit [] (namesOf (String.ofList ('/' :: Text.unite '/' (resolve (segments path))))) =
        tree.walk true linkLimit [] (namesOf (String.ofList path)) := by
  have single : ∀ name ∈ resolve (segments path), IsName name := fun name member =>
    (isProper_of_mem_resolve (fun _ => isName_of_mem_segments) member).1
  obtain ⟨found, way⟩ := stands.way
  obtain ⟨same, found, spelled⟩ := way.spelled climbs
  rw [spell_namesOf] at same spelled
  refine ⟨⟨fun inside => stands.clean ((resolved_sublist rooted).subset inside), found, ?_⟩, ?_⟩
  · rw [← walk_eq_ok_iff, walk_unite false linkLimit single, walk_eq_ok_iff]
    exact spelled
  · rw [walk_unite true linkLimit single, same]

namespace Stands

variable {path : List Char}

/-- What a path denotes is denoted by the text of where it leads. -/
theorem find_resolved
    (stands : tree.Stands path)
    (rooted : isAbsolute path = true)
    (climbs : tree.ClimbsUnlinked (namesOf (String.ofList path)))
    (short : byteLength (String.ofList path) < 4096)
    (cwd : List String) :
    tree.isPresent cwd (String.ofList ('/' :: Text.unite '/' (resolve (segments path)))) = true ∧
      tree.find true cwd (String.ofList ('/' :: Text.unite '/' (resolve (segments path)))) =
        tree.find true cwd (String.ofList path) := by
  obtain ⟨resolved, same⟩ := stands.resolved rooted climbs
  have shorter := Nat.lt_of_le_of_lt (byteLength_le (resolved_sublist rooted)) short
  refine ⟨resolved.isPresent (isAbsolute_cons _) shorter cwd, ?_⟩
  rw [find_eq_walk (isAbsolute_cons _) resolved.clean shorter, same, find_eq_walk rooted stands.clean short]

/-- If a path leads to a directory, then a path with the same steps denotes it. -/
theorem isDirectory_of_resolved
    (stands : tree.Stands path)
    (rooted : isAbsolute path = true)
    (climbs : tree.ClimbsUnlinked (namesOf (String.ofList path)))
    {other : List Char}
    (start : isAbsolute other = true)
    (steps : (segments path).filter (· ≠ here) = (segments other).filter (· ≠ here))
    (short : byteLength (String.ofList other) < 4096)
    {cwd : List String}
    (is : tree.isDirectory cwd (String.ofList ('/' :: Text.unite '/' (resolve (segments path)))) = true) :
    tree.isDirectory cwd (String.ofList other) = true := by
  have clean : '\x00' ∉ other := by
    intro inside
    obtain ⟨segment, among, within⟩ := exists_mem_segments inside (by decide)
    have moves : segment ≠ here := by
      rintro rfl
      revert within
      decide
    have kept : segment ∈ (segments path).filter (· ≠ here) :=
      steps ▸ List.mem_filter.mpr ⟨among, decide_eq_true moves⟩
    exact stands.clean (mem_of_mem_segments (List.mem_filter.mp kept).1 within)
  obtain ⟨-, same⟩ := stands.resolved rooted climbs
  unfold isDirectory at is ⊢
  split at is
  case h_1 last found =>
      obtain ⟨-, way⟩ := way_of_find (isAbsolute_cons _) found
      rw [← walk_eq_ok_iff, same, walk_eq_ok_iff] at way
      rw [find_eq_walk start clean short, walk_eq_ok_iff.mpr (way.respell steps)]
  case h_2 => cases is

end Stands

end FileTree

end ConfigTokens
