import ConfigTokens.FileTree.Lookup
/-!
# Descending in a tree

In a tree in which no link leads to a directory, a path text that denotes a directory denotes the one
that its names spell, and no link is followed on the way. So a directory and one more name denote the
directory with that name in it, if they denote a directory at all. A path text that spells out a place
below directories denotes what stands there.
-/

namespace ConfigTokens.FileTree

variable
    {Content : Type}
    {tree : FileTree Content}

/-- The names of a tree are not empty and have no slash in them. -/
def IsProper
    (tree : FileTree Content) : Prop :=
  ∀ entry ∈ tree.entries, ∀ name ∈ entry.1, name ≠ "" ∧ '/' ∉ name.toList

/-- No link of a tree leads to a directory, however many more links are followed for it. -/
def LinksNoDirectory
    (tree : FileTree Content) : Prop :=
  ∀ place name target links found,
    tree.entry? (place ++ [name]) = some (.link target) →
      tree.walk true links (if isRooted target then [] else place) (namesOf target) ≠
        .ok (found, .directory)

/-- Links that are not there lead nowhere. -/
theorem linksNoDirectory_of_no_link
    (linkless : ∀ entry ∈ tree.entries, ∀ target, entry.2 ≠ .link target) :
    tree.LinksNoDirectory := by
  intro place name target links found there
  unfold entry? at there
  rw [if_neg (by simp)] at there
  obtain ⟨before, after, parts, -⟩ := List.lookup_eq_some_iff.mp there
  exact absurd rfl (linkless (place ++ [name], .link target) (by simp [parts]) target)

/-- The place that names spell from a place on. -/
def spell
    (place : List String)
    (names : List String) : List String :=
  names.foldl
    (fun place name =>
      if name = "" || name = "." then place
      else if name = ".." then place.dropLast
      else place ++ [name])
    place

@[simp]
theorem spell_nil
    (place : List String) :
    spell place [] = place := rfl

theorem spell_append
    (place names more : List String) :
    spell place (names ++ more) = spell (spell place names) more :=
  List.foldl_append

/-- A walk that goes on has come to a directory, and goes on from there with the links that are left. -/
theorem walk_of_append
    {links : Nat}
    {place names rest found : List String}
    (walked : tree.walk true links place (names ++ rest) = .ok (found, .directory)) :
    ∃ middle left,
      tree.walk true links place names = .ok (middle, .directory) ∧
        tree.walk true left middle rest = .ok (found, .directory) := by
  fun_induction walk tree true links place names with
  | case1 links place entry here =>
      refine ⟨place, links, ?_, walked⟩
      cases rest with
      | nil =>
          simp only [List.nil_append, walk, here] at walked
          cases walked
          rfl
      | cons name more =>
          -- Only a directory has names below it.
          simp only [List.nil_append, walk, here] at walked
          cases entry with
          | directory => rfl
          | file content => cases walked
          | link target => cases walked
  | case2 links place nothing =>
      cases rest with
      | nil => simp [walk, nothing] at walked
      | cons name more => simp [walk, nothing] at walked
  | case6 links place name more here stays ih =>
      rw [List.cons_append, walk] at walked
      simp only [here, stays, if_true] at walked
      exact ih walked
  | case7 links place more here moves ih =>
      rw [List.cons_append, walk] at walked
      simp only [here, moves, if_true] at walked
      exact ih walked
  | case12 place name more here moves down short target present further links ih =>
      rw [List.cons_append, walk] at walked
      simp only [here, moves, down, short, if_false, present] at walked
      simp only [Bool.not_true, Bool.and_false, Bool.false_eq_true, if_false] at walked
      rw [← List.append_assoc] at walked
      exact ih walked
  | case13 links place name more here moves down short entry apart present ih =>
      rw [List.cons_append, walk] at walked
      simp only [here, moves, down, short, if_false, present] at walked
      exact ih (by cases entry <;> simp_all)
  | case9 links place name more here moves down short nothing =>
      rw [List.cons_append, walk] at walked
      simp [here, moves, down, short, nothing] at walked
  | case11 place name more here moves down short target present further =>
      rw [List.cons_append, walk] at walked
      simp [here, moves, down, short, present] at walked
  | _ => simp_all [walk]

/-- A walk to a directory follows no link. -/
theorem walk_eq_spell
    (plain : tree.LinksNoDirectory)
    {links : Nat}
    {place names found : List String}
    (walked : tree.walk true links place names = .ok (found, .directory)) :
    found = spell place names := by
  fun_induction walk tree true links place names with
  | case1 links place entry here =>
      cases walked
      rfl
  | case6 links place name rest here stays ih =>
      simp only [spell, List.foldl_cons, stays, if_true]
      exact ih walked
  | case7 links place rest here moves ih =>
      simp only [spell, List.foldl_cons, moves, if_true]
      exact ih walked
  | case12 place name rest here moves down short target present further links ih =>
      obtain ⟨middle, -, led, -⟩ := walk_of_append walked
      exact absurd led (plain place name target links middle present)
  | case13 links place name rest here moves down short entry apart present ih =>
      simp only [spell, List.foldl_cons, moves, down, if_false]
      exact ih walked
  | _ => cases walked

/-- What is found is found by a walk. -/
theorem walk_of_find
    {follow : Bool}
    {cwd : List String}
    {path : String}
    {result : List String × Entry Content}
    (found : tree.find follow cwd path = .ok result) :
    path ≠ "" ∧
      tree.walk follow linkLimit (if isRooted path then [] else cwd) (namesOf path) = .ok result := by
  unfold find at found
  split at found
  case isTrue => cases found
  case isFalse legal =>
      split at found
      case isTrue => cases found
      case isFalse => exact ⟨fun empty => legal (by simp [empty]), found⟩

/-- A walk ends where the tree has an entry. -/
theorem entry?_of_walk
    {tree : FileTree Content}
    {follow : Bool}
    {links : Nat}
    {place names found : List String}
    {entry : Entry Content}
    (walked : tree.walk follow links place names = .ok (found, entry)) :
    tree.entry? found = some entry := by
  fun_induction walk tree follow links place names with
  | case1 links place here present =>
      cases walked
      exact present
  | case6 links place name rest here stays ih => exact ih walked
  | case7 links place rest here moves ih => exact ih walked
  | case10 links place name rest here moves down short target present last =>
      cases walked
      exact present
  | case12 place name rest here moves down short target present further links ih => exact ih walked
  | case13 links place name rest here moves down short entry present apart ih => exact ih walked
  | _ => cases walked

/-- A file that is found is an entry of the tree. -/
theorem mem_entries_of_find_file
    {follow : Bool}
    {cwd place : List String}
    {path : String}
    {content : Content}
    (found : tree.find follow cwd path = .ok (place, .file content)) :
    (place, .file content) ∈ tree.entries := by
  have there : tree.entry? place = some (.file content) := entry?_of_walk (walk_of_find found).2
  unfold entry? at there
  split at there
  case isTrue => cases there
  case isFalse =>
      obtain ⟨before, after, parts, -⟩ := List.lookup_eq_some_iff.mp there
      rw [parts]
      exact List.mem_append_right before List.mem_cons_self

/-- The names in a directory are those of the entries in it. -/
theorem mem_names
    {place : List String}
    {name : String} :
    name ∈ tree.names place ↔ ∃ entry ∈ tree.entries, entry.1 = place ++ [name] := by
  simp only [names, List.mem_filterMap]
  constructor
  · rintro ⟨entry, member, last⟩
    split at last
    case isTrue inside =>
        obtain ⟨front, shape⟩ := List.getLast?_eq_some_iff.mp last
        rw [shape, List.dropLast_concat] at inside
        exact ⟨entry, member, inside ▸ shape⟩
    case isFalse => cases last
  · rintro ⟨entry, member, shape⟩
    exact ⟨entry, member, by simp [shape]⟩

/-- A name in a directory that a path denotes has an entry in it. -/
theorem exists_entry_of_mem_list
    {cwd : List String}
    {directory name : String}
    (member : name ∈ tree.list cwd directory) :
    ∃ place, tree.find true cwd directory = .ok (place, .directory) ∧
      ∃ entry ∈ tree.entries, entry.1 = place ++ [name] := by
  unfold list at member
  split at member
  case h_1 place found => exact ⟨place, found, mem_names.mp member⟩
  case h_2 => cases member

/-- Paths that denote the same directory, or none, list the same. -/
theorem list_congr
    {cwd : List String}
    {one other : String}
    (same : ∀ place,
      tree.find true cwd one = .ok (place, .directory) ↔ tree.find true cwd other = .ok (place, .directory)) :
    tree.list cwd one = tree.list cwd other := by
  unfold list
  split
  case h_1 place found => rw [(same place).mp found]
  case h_2 none =>
      split
      case h_1 place found => exact absurd ((same place).mpr found) (none place)
      case h_2 => rfl

/-! ## Descending by names -/

/-- The names in a path with one more name at its end. -/
theorem namesOf_below
    (directory : String)
    {name : String}
    (single : '/' ∉ name.toList) :
    namesOf (directory ++ "/" ++ name) = namesOf directory ++ [name] := by
  have text : (directory ++ "/" ++ name).toList = directory.toList ++ '/' :: name.toList := by simp
  unfold namesOf
  rw [text, Text.fields_append_cons, Text.fields_of_not_mem single]
  simp

theorem isRooted_append
    {path : String}
    (nonempty : path ≠ "")
    (rest : String) :
    isRooted (path ++ rest) = isRooted path := by
  have first : path.toList ≠ [] := fun empty => nonempty (String.toList_injective empty)
  obtain ⟨c, more, text⟩ := List.exists_cons_of_ne_nil first
  simp [isRooted, text]

/-- A directory that is found by one more name lies in the directory above. -/
theorem find_below
    (plain : tree.LinksNoDirectory)
    {cwd above place : List String}
    {directory name : String}
    (single : '/' ∉ name.toList)
    (nonempty : name ≠ "")
    (moves : name ≠ "." ∧ name ≠ "..")
    (upper : tree.find true cwd directory = .ok (above, .directory))
    (lower : tree.find true cwd (directory ++ "/" ++ name) = .ok (place, .directory)) :
    place = above ++ [name] := by
  obtain ⟨named, first⟩ := walk_of_find upper
  have second := (walk_of_find lower).2
  rw [String.append_assoc, isRooted_append named, ← String.append_assoc, namesOf_below directory single] at second
  have start := walk_eq_spell plain first
  have whole := walk_eq_spell plain second
  rw [spell_append, ← start] at whole
  simpa [spell, nonempty, moves] using whole

/-! ## Names that are spelled out -/

/-- A path text spells out a place below the root in names that can be looked up. -/
structure Spells
    (path : String)
    (place : List String) : Prop where
  rooted : isRooted path = true
  names : namesOf path = "" :: place
  legal : ¬(path = "" || path.toList.contains '\x00') ∧ byteLength path < 4096
  proper : ∀ name ∈ place, name ≠ "" ∧ name ≠ "." ∧ name ≠ ".." ∧ byteLength name ≤ 255

/-- A walk through directories ends at the place that its names spell out. -/
theorem walk_of_directories
    {follow : Bool}
    (links : Nat)
    (place : List String)
    {names : List String}
    (proper : ∀ name ∈ names, name ≠ "" ∧ name ≠ "." ∧ name ≠ ".." ∧ byteLength name ≤ 255)
    (above : ∀ count < names.length, tree.entry? (place ++ names.take count) = some .directory)
    (plain : ∀ target, tree.entry? (place ++ names) ≠ some (.link target)) :
    tree.walk follow links place names =
      (tree.entry? (place ++ names)).elim (.error .notFound) fun entry =>
        .ok (place ++ names, entry) := by
  induction names generalizing place with
  | nil =>
      rw [walk, List.append_nil]
      cases tree.entry? place <;> rfl
  | cons name rest ih =>
      obtain ⟨⟨named, here, up, short⟩, others⟩ := List.forall_mem_cons.mp proper
      have directory : tree.entry? place = some .directory := by
        simpa using above 0 (Nat.succ_pos _)
      have deeper :
          ∀ count < rest.length,
            tree.entry? ((place ++ [name]) ++ rest.take count) = some .directory := by
        intro count less
        simpa using above (count + 1) (Nat.succ_lt_succ less)
      rw [List.append_cons place name rest] at plain ⊢
      have onward := ih (place ++ [name]) others deeper plain
      rw [walk, directory]
      simp only [named, here, up, Nat.not_lt.mpr short, decide_false, Bool.or_false,
        Bool.false_eq_true, if_false]
      cases rest with
      | nil =>
          rw [List.append_nil] at plain onward
          cases there : tree.entry? (place ++ [name]) with
          | none => simp [there]
          | some entry =>
              cases entry with
              | link target => exact absurd there (plain target)
              | directory => exact onward.trans (by rw [List.append_nil])
              | file content => exact onward.trans (by rw [List.append_nil])
      | cons next more =>
          have below : tree.entry? (place ++ [name]) = some .directory := by
            simpa using deeper 0 (Nat.succ_pos _)
          rw [below]
          exact onward

/-- A path text that spells out a place below directories denotes what stands there. -/
theorem find_of_spells
    {follow : Bool}
    {cwd place : List String}
    {path : String}
    (spells : Spells path place)
    (above : ∀ count < place.length, tree.entry? (place.take count) = some .directory)
    (plain : ∀ target, tree.entry? place ≠ some (.link target)) :
    tree.find follow cwd path =
      (tree.entry? place).elim (.error .notFound) fun entry => .ok (place, entry) := by
  have walked : tree.walk follow linkLimit [] place = _ :=
    walk_of_directories linkLimit [] spells.proper above plain
  unfold find
  rw [if_neg spells.legal.1, if_neg (Nat.not_le.mpr spells.legal.2), if_pos spells.rooted, spells.names]
  have start : tree.walk follow linkLimit [] ("" :: place) = tree.walk follow linkLimit [] place := by
    rw [walk]
    rfl
  exact start.trans walked

theorem find_of_entry
    {follow : Bool}
    {cwd place : List String}
    {path : String}
    {entry : Entry Content}
    (spells : Spells path place)
    (above : ∀ count < place.length, tree.entry? (place.take count) = some .directory)
    (there : tree.entry? place = some entry)
    (plain : ∀ target, entry ≠ .link target) :
    tree.find follow cwd path = .ok (place, entry) := by
  have linkless : ∀ target, tree.entry? place ≠ some (.link target) := by
    intro target link
    exact plain target (Option.some.inj (there.symm.trans link))
  rw [find_of_spells spells above linkless, there]
  rfl

theorem isFile_of_absent
    {cwd place : List String}
    {path : String}
    (spells : Spells path place)
    (above : ∀ count < place.length, tree.entry? (place.take count) = some .directory)
    (absent : tree.entry? place = none) :
    tree.isFile cwd path = false := by
  have linkless : ∀ target, tree.entry? place ≠ some (.link target) := by simp [absent]
  unfold isFile
  rw [find_of_spells spells above linkless, absent]
  rfl

end ConfigTokens.FileTree
