import Mathlib.Data.List.Perm.Subperm
import Mathlib.Logic.Relation
import ConfigTokens.Proofs.FileTree.Descent
import ConfigTokens.Proofs.FileTree.Names
/-!
# Trees without cycles

A link can lead to a directory above it, and then there is no end to what lies below. In a tree without
cycles no directory is reached again below itself. So the directories that are passed on the way to one
of them are all different, and there are no more of them than the tree has. Trees in which no link leads
to a directory have no cycles.
-/

namespace ConfigTokens.FileTree

variable
    {Content : Type}
    {tree : FileTree Content}

/-! ## Directories below directories -/

/-- A name in a directory leads to another one, be it through links. -/
def Leads
    (tree : FileTree Content)
    (place below : List String) : Prop :=
  ∃ name ∈ tree.names place, ∃ links, tree.walk true links place [name] = .ok (below, .directory)

/-- No directory is reached again below itself. -/
def Acyclic
    (tree : FileTree Content) : Prop :=
  ∀ place, ¬Relation.TransGen tree.Leads place place

theorem WellNamed.of_mem_names
    (named : tree.WellNamed)
    {place : List String}
    {name : String}
    (member : name ∈ tree.names place) :
    IsEntryName name := by
  obtain ⟨entry, inside, way⟩ := mem_names.mp member
  exact named entry inside name (way ▸ List.mem_append_right place (List.mem_singleton_self name))

theorem WellNamed.isName_of_mem_names
    (named : tree.WellNamed)
    {place : List String}
    {name : List Char}
    (member : String.ofList name ∈ tree.names place) :
    Path.IsName name := by
  have single := (named.of_mem_names member).1.1
  rwa [String.toList_ofList] at single

theorem spell_singleton
    (place : List String)
    {name : String}
    (proper : IsEntryName name) :
    spell place [name] = place ++ [name] := by
  obtain ⟨⟨⟨filled, -⟩, stays, up⟩, -⟩ := proper
  have some : name ≠ "" := fun same => filled (congrArg String.toList same)
  have moves : name ≠ "." := fun same => stays (congrArg String.toList same)
  have down : name ≠ ".." := fun same => up (congrArg String.toList same)
  unfold spell
  rw [List.foldl_cons, if_neg (by simp [some, moves]), if_neg down, List.foldl_nil]

/-- There are no cycles if each step leads further down. -/
theorem acyclic_of_deeper
    (deeper : ∀ place below, tree.Leads place below → place.length < below.length) :
    tree.Acyclic := by
  intro place cycle
  have further {below : List String} (path : Relation.TransGen tree.Leads place below) :
      place.length < below.length := by
    induction path with
    | single leads => exact deeper _ _ leads
    | tail _ leads ih => exact Nat.lt_trans ih (deeper _ _ leads)
  exact Nat.lt_irrefl place.length (further cycle)

/-- Without links to directories each step leads further down. -/
theorem acyclic_of_linksNoDirectory
    (named : tree.WellNamed)
    (plain : tree.LinksNoDirectory) :
    tree.Acyclic := by
  refine acyclic_of_deeper fun place below ⟨name, member, links, walked⟩ => ?_
  rw [walk_eq_spell plain walked, spell_singleton place (named.of_mem_names member), List.length_append]
  exact Nat.lt_succ_self place.length

/-! ## Places of directories -/

/-- The places at which a directory can stand. -/
def places
    (tree : FileTree Content) : List (List String) :=
  [] :: tree.entries.map Prod.fst

theorem length_places :
    tree.places.length = tree.entries.length + 1 := by
  rw [places, List.length_cons, List.length_map]

theorem mem_places_of_find
    {cwd place : List String}
    {path : String}
    (found : tree.find true cwd path = .ok (place, .directory)) :
    place ∈ tree.places := by
  have there : tree.entry? place = some .directory := entry?_of_walk (walk_of_find found).2
  unfold entry? at there
  split at there
  case isTrue root => exact root ▸ List.mem_cons_self
  case isFalse =>
      obtain ⟨before, after, parts, -⟩ := List.lookup_eq_some_iff.mp there
      rw [places, parts]
      simp

/-! ## Joined paths -/

/-- A walk along a name that stays ends where it starts. -/
theorem walk_of_stays
    {links : Nat}
    {place found : List String}
    {name : String}
    (stays : name = "" ∨ name = ".")
    (walked : tree.walk true links place [name] = .ok (found, .directory)) :
    found = place := by
  rw [walk] at walked
  split at walked
  case h_1 => cases walked
  case h_2 => cases walked
  case h_3 => cases walked
  case h_4 there =>
      rw [if_pos (by simpa using stays), walk, there] at walked
      cases walked
      rfl

/-- The names of a directory and of what is joined to it differ only in their ends. -/
theorem namesOf_join
    {directory name : List Char}
    (some : directory ≠ [])
    (single : Path.IsName name) :
    isRooted (String.ofList (Path.join directory name)) = isRooted (String.ofList directory) ∧
      ∃ names last,
        namesOf (String.ofList directory) = names ++ last ∧ (last = [] ∨ last = [""]) ∧
          namesOf (String.ofList (Path.join directory name)) = names ++ [String.ofList name] := by
  have rooted (rest : List Char) :
      isRooted (String.ofList (directory ++ rest)) = isRooted (String.ofList directory) := by
    rw [String.ofList_append]
    exact isRooted_append (by simpa using some) (String.ofList rest)
  have cut (front : List Char) :
      namesOf (String.ofList (front ++ '/' :: name)) =
        namesOf (String.ofList front) ++ [String.ofList name] := by
    simp only [namesOf, String.toList_ofList, Text.fields_append_cons,
      Text.fields_of_not_mem single.2, List.map_append, List.map_singleton]
  unfold Path.join
  rw [if_neg (by simp [Path.not_isAbsolute_of_isName single])]
  split
  case isTrue closed =>
      have slash : directory.getLast? = Option.some '/' := by simpa [some] using closed
      obtain ⟨front, rfl⟩ := List.getLast?_eq_some_iff.mp slash
      refine ⟨rooted name, namesOf (String.ofList front), [""], ?_, .inr rfl, ?_⟩
      · simp [namesOf, Text.fields_append_cons]
      · rw [List.append_assoc, List.singleton_append]
        exact cut front
  case isFalse =>
      exact ⟨rooted ('/' :: name), namesOf (String.ofList directory), [], (List.append_nil _).symm,
        .inl rfl, cut directory⟩

/-- A directory leads to the directory that a path with one more of its names denotes. -/
theorem leads_of_find_join
    (named : tree.WellNamed)
    {cwd above below : List String}
    {directory name : List Char}
    (listed : String.ofList name ∈ tree.names above)
    (upper :
      tree.find true cwd (String.ofList (if directory = [] then Path.here else directory)) =
        .ok (above, .directory))
    (lower : tree.find true cwd (String.ofList (Path.join directory name)) = .ok (below, .directory)) :
    tree.Leads above below := by
  refine ⟨String.ofList name, listed, ?_⟩
  have single := named.isName_of_mem_names listed
  have first := (walk_of_find upper).2
  have second := (walk_of_find lower).2
  by_cases empty : directory = []
  · -- Without a path the directory is the working directory.
    subst empty
    have stays : above = cwd := walk_of_stays (.inr rfl) first
    have joined : Path.join [] name = name := by
      simp [Path.join, Path.not_isAbsolute_of_isName single]
    have relative : isRooted (String.ofList name) = false := by
      simpa [isRooted] using fun slash => single.2 (List.mem_of_head? slash)
    have alone : namesOf (String.ofList name) = [String.ofList name] := by
      simp [namesOf, Text.fields_of_not_mem single.2]
    rw [joined, relative, alone] at second
    exact ⟨linkLimit, stays ▸ second⟩
  · obtain ⟨rooted, names, last, base, ends, whole⟩ := namesOf_join empty single
    rw [if_neg empty, base] at first
    rw [rooted, whole] at second
    obtain ⟨middle, left, reached, onward⟩ := walk_of_append second
    have same : above = middle := by
      rcases ends with rfl | rfl
      · rw [List.append_nil, reached] at first
        cases first
        rfl
      · obtain ⟨place, rest, again, stays⟩ := walk_of_append first
        rw [reached] at again
        cases again
        exact walk_of_stays (.inl rfl) stays
    exact ⟨left, same ▸ onward⟩

end ConfigTokens.FileTree
