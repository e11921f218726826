import ConfigTokens.Proofs.FileTree.Descent
import ConfigTokens.Proofs.Import.Name
/-!
# Names that can be imported

Below a name modules are looked for in one directory: below the name of a package file in its
directory, and below an imported name in the directory that the import has found. `Site.Searchable` says
which directories can stand for a name, and `Site.Finds` which names an import can find.

In a tree in which no link leads to a directory, such a directory lies below that of a file of the tree,
or below the one for imports by name, and the name spells the way. So a site has finitely many files and
finitely many names that can be found, and their number is bounded by the number of entries.
-/

namespace ConfigTokens.Module

open ConfigTokens.Path

namespace Site

/-- The path of a file without links, as a registry keeps it. -/
def IsKey
    (site : Site)
    (key : String) : Prop :=
  ∃ path file, site.findFile path = some file ∧ site.key file = key

/-- An import finds a name by its parts; `searched` says where modules are looked for below a name. -/
inductive Finds
    (site : Site)
    (searched : String → String → Prop) : List String → ImportTarget → Prop where
  /-- A name without another one above it. -/
  | top {last : String} {above : List String} {target : ImportTarget} :
      nameOfParts above = "" →
        site.findImport site.importRoot last = some target →
          Finds site searched (last :: above) target
  | nested {last directory : String} {above : List String} {target : ImportTarget} :
      nameOfParts above ≠ "" →
        searched (nameOfParts above) directory →
          site.findImport directory last = some target →
            Finds site searched (last :: above) target

/-- Modules below a name are looked for in a directory. -/
inductive Searchable
    (site : Site) : String → String → Prop where
  | package {file : String} :
      site.IsKey file → isPackageFile file = true →
        Searchable site (synthesizedName file) (directoryText file)
  | top {last directory : String} {above : List String} {target : ImportTarget} :
      (∀ part ∈ last :: above, IsPart part) →
        nameOfParts above = "" →
          site.findImport site.importRoot last = some target →
            target.searchPath = some directory →
              Searchable site (nameOfParts (last :: above)) directory
  | nested {last upper directory : String} {above : List String} {target : ImportTarget} :
      (∀ part ∈ last :: above, IsPart part) →
        nameOfParts above ≠ "" →
          Searchable site (nameOfParts above) upper →
            site.findImport upper last = some target →
              target.searchPath = some directory →
                Searchable site (nameOfParts (last :: above)) directory

variable
    {site : Site}

theorem Finds.searchable
    {parts : List String}
    {target : ImportTarget}
    {directory : String}
    (finds : site.Finds site.Searchable parts target)
    (single : ∀ part ∈ parts, IsPart part)
    (searches : target.searchPath = some directory) :
    site.Searchable (nameOfParts parts) directory := by
  cases finds with
  | top root found => exact .top single root found searches
  | nested inner upper found => exact .nested single inner upper found searches

/-! ## What an import finds in a directory -/

/-- What is found in a directory has an entry there. -/
theorem exists_entry_of_findImport
    {directory name : String}
    {target : ImportTarget}
    (found : site.findImport directory name = some target) :
    ∃ place, site.tree.find true site.cwd directory = .ok (place, .directory) ∧
      ∃ entry ∈ site.tree.entries,
        entry.1 = place ++ [name] ∨ entry.1 = place ++ [name ++ ".py"] := by
  have listed :
      name ∈ site.tree.list site.cwd directory ∨
        name ++ ".py" ∈ site.tree.list site.cwd directory := by
    unfold findImport at found
    dsimp only at found
    split at found
    case isTrue here => exact .inl (by simp at here; exact here.1)
    case isFalse =>
        split at found
        case isTrue here => exact .inr (by simp at here; exact here.1)
        case isFalse =>
            split at found
            case isTrue here => exact .inl (by simp at here; exact here.1)
            case isFalse => cases found
  rcases listed with member | member
  · obtain ⟨place, upper, entry, inside, shape⟩ := FileTree.exists_entry_of_mem_list member
    exact ⟨place, upper, entry, inside, .inl shape⟩
  · obtain ⟨place, upper, entry, inside, shape⟩ := FileTree.exists_entry_of_mem_list member
    exact ⟨place, upper, entry, inside, .inr shape⟩

/-- Modules below what is found are looked for in a directory that has an entry as well. -/
theorem exists_entry_of_searchPath
    {directory name lower : String}
    {target : ImportTarget}
    (found : site.findImport directory name = some target)
    (searches : target.searchPath = some lower) :
    lower = directory ++ "/" ++ name ∧
      ∃ place, site.tree.find true site.cwd directory = .ok (place, .directory) ∧
        ∃ entry ∈ site.tree.entries, entry.1 = place ++ [name] := by
  have listed :
      lower = directory ++ "/" ++ name ∧ name ∈ site.tree.list site.cwd directory := by
    unfold findImport at found
    dsimp only at found
    split at found
    case isTrue here =>
        cases found
        cases searches
        exact ⟨rfl, by simp at here; exact here.1⟩
    case isFalse =>
        split at found
        case isTrue =>
            cases found
            cases searches
        case isFalse =>
            split at found
            case isTrue here =>
                cases found
                cases searches
                exact ⟨rfl, by simp at here; exact here.1⟩
            case isFalse => cases found
  exact ⟨listed.1, FileTree.exists_entry_of_mem_list listed.2⟩

/-- A directory in which modules are looked for lies, by its name, in the one above. -/
theorem find_of_searchPath
    (proper : site.tree.IsProper)
    (plain : site.tree.LinksNoDirectory)
    {directory name lower : String}
    {target : ImportTarget}
    (single : IsPart name)
    (found : site.findImport directory name = some target)
    (searches : target.searchPath = some lower) :
    ∃ above, site.tree.find true site.cwd directory = .ok (above, .directory) ∧
      ∀ place, site.tree.find true site.cwd lower = .ok (place, .directory) →
        place = above ++ [name] := by
  obtain ⟨rfl, above, upper, entry, inside, shape⟩ := exists_entry_of_searchPath found searches
  obtain ⟨nonempty, slashless⟩ := proper entry inside name (by simp [shape])
  have moves : name ≠ "." ∧ name ≠ ".." := by
    constructor
    · rintro rfl
      exact single (by decide)
    · rintro rfl
      exact single (by decide)
  exact ⟨above, upper, fun place => FileTree.find_below plain slashless nonempty moves upper⟩

/-! ## Roots -/

/--
Where a name can begin: the parts that it begins with, the first one first, and the directory below
them. Names begin at the directory for imports by name, or with the name of a file.
-/
def roots
    (site : Site) : List (List String × String) :=
  ([], site.importRoot) :: ([""], site.importRoot) ::
    site.tree.entries.map fun entry =>
      let file := FileTree.pathText entry.1
      ([synthesizedName file], directoryText file)

/-- The key of a file is the path of an entry. -/
theorem exists_entry_of_isKey
    {file : String}
    (isKey : site.IsKey file) :
    ∃ entry ∈ site.tree.entries, file = FileTree.pathText entry.1 := by
  obtain ⟨path, chosen, found, rfl⟩ := isKey
  have present : site.tree.isFile site.cwd chosen = true := isFile_of_findFile found
  unfold FileTree.isFile at present
  split at present
  case h_1 place content walked =>
      refine ⟨_, FileTree.mem_entries_of_find_file walked, ?_⟩
      simp [key, FileTree.realPath?, walked]
  case h_2 => cases present

/-- The name and the directory lie the same way below a root. -/
def LiesBelow
    (site : Site)
    (root : List String × String)
    (name directory : String) : Prop :=
  ∃ way : List String, (∀ part ∈ way, IsPart part) ∧ name = ".".intercalate (root.1 ++ way) ∧
    ∀ place, site.tree.find true site.cwd directory = .ok (place, .directory) →
      ∃ start, site.tree.find true site.cwd root.2 = .ok (start, .directory) ∧ place = start ++ way

/-- A directory in which modules below a name are looked for lies below a root, and the name tells how. -/
theorem Searchable.exists_root
    (proper : site.tree.IsProper)
    (plain : site.tree.LinksNoDirectory)
    {name directory : String}
    (searchable : site.Searchable name directory) :
    ∃ root ∈ site.roots, site.LiesBelow root name directory := by
  induction searchable with
  | package isKey package =>
      rename_i file
      obtain ⟨entry, inside, rfl⟩ := exists_entry_of_isKey isKey
      let file := FileTree.pathText entry.1
      refine ⟨([synthesizedName file], directoryText file), ?_, [], by simp, by simp [file],
        fun place found => ⟨place, found, by simp⟩⟩
      exact List.mem_cons_of_mem _ (List.mem_cons_of_mem _ (List.mem_map.mpr ⟨entry, inside, rfl⟩))
  | top single root found searches =>
      rename_i last lower above target
      have alone : IsPart last := single last List.mem_cons_self
      obtain ⟨start, upper, below⟩ := find_of_searchPath proper plain alone found searches
      refine ⟨(above, site.importRoot), ?_, [last], by simpa using alone, ?_, fun place lower =>
        ⟨start, upper, below place lower⟩⟩
      · rcases eq_of_nameOfParts_eq_empty root with rfl | rfl
        · exact List.mem_cons_self
        · exact List.mem_cons_of_mem _ List.mem_cons_self
      · rcases eq_of_nameOfParts_eq_empty root with rfl | rfl
        · simp
        · simp [nameOfParts]
  | nested single inner upper found searches ih =>
      rename_i last middle lower above target
      have alone : IsPart last := single last List.mem_cons_self
      obtain ⟨root, member, way, parts, named, lies⟩ := ih
      obtain ⟨start, higher, below⟩ := find_of_searchPath proper plain alone found searches
      refine ⟨root, member, way ++ [last], ?_, ?_, ?_⟩
      · exact List.forall_mem_append.mpr ⟨parts, by simpa using alone⟩
      · rw [nameOfParts_cons_of_spelled inner named last, List.append_assoc]
      · intro place found
        obtain ⟨origin, first, rfl⟩ := lies start higher
        refine ⟨origin, first, ?_⟩
        rw [below place found, List.append_assoc]

/-! ## Finitely many names -/

/-- The place that a path denotes. -/
def place
    (site : Site)
    (path : String) : List String :=
  match site.tree.find true site.cwd path with
  | .ok (place, _) => place
  | .error _ => []

/-- A name in a directory as the part of a name for imports. -/
def partOfEntry
    (name : String) : String :=
  (nameParts name).getLastD ""

theorem partOfEntry_of_isPart
    {name : String}
    (single : IsPart name) :
    partOfEntry name = name := by
  simp [partOfEntry, nameParts_of_isPart single]

theorem partOfEntry_plain
    {name : String}
    (single : IsPart name) :
    partOfEntry (name ++ ".py") = name := by
  have cut : name ++ ".py" = name ++ "." ++ "py" := by
    rw [String.append_assoc]
    rfl
  unfold partOfEntry
  rw [cut, nameParts_below, nameParts_of_isPart single]
  simp

/-- The name of an entry below a root. -/
def nameBelow
    (site : Site)
    (root : List String × String)
    (entry : List String) : String :=
  ".".intercalate (root.1 ++ (entry.drop (site.place root.2).length).map partOfEntry)

/-- The names of all entries below all roots. -/
def importNames
    (site : Site) : List String :=
  site.roots.flatMap fun root => site.tree.entries.map fun entry => site.nameBelow root entry.1

/-- The paths of all entries. -/
def keys
    (site : Site) : List String :=
  site.tree.entries.map fun entry => FileTree.pathText entry.1

theorem length_keys
    (site : Site) :
    site.keys.length = site.tree.entries.length := by
  simp [keys]

theorem length_importNames
    (site : Site) :
    site.importNames.length =
      (site.tree.entries.length + 2) * site.tree.entries.length := by
  have roots : site.roots.length = site.tree.entries.length + 2 := by simp [Site.roots]
  simp [importNames, List.length_flatMap, List.map_const', roots]

theorem mem_keys_of_isKey
    {file : String}
    (isKey : site.IsKey file) :
    file ∈ site.keys := by
  obtain ⟨entry, inside, rfl⟩ := exists_entry_of_isKey isKey
  exact List.mem_map.mpr ⟨entry, inside, rfl⟩

theorem mem_importNames
    {root : List String × String}
    (member : root ∈ site.roots)
    {entry : List String × Entry Content}
    (inside : entry ∈ site.tree.entries) :
    site.nameBelow root entry.1 ∈ site.importNames :=
  List.mem_flatMap.mpr ⟨root, member, List.mem_map.mpr ⟨entry, inside, rfl⟩⟩

/-- The name of an entry that lies a way below a root. -/
theorem nameBelow_of_find
    {root : List String × String}
    {start way : List String}
    {last entryName : String}
    (found : site.tree.find true site.cwd root.2 = .ok (start, .directory))
    (parts : ∀ part ∈ way, IsPart part)
    (named : partOfEntry entryName = last) :
    site.nameBelow root (start ++ way ++ [entryName]) = ".".intercalate (root.1 ++ way ++ [last]) := by
  have place : site.place root.2 = start := by simp [place, found]
  have same : way.map partOfEntry = way :=
    List.map_congr_left (fun part member => partOfEntry_of_isPart (parts part member)) |>.trans
      (List.map_id' way)
  simp [nameBelow, place, List.append_assoc, same, named]

/-- An import finds finitely many names. -/
theorem Finds.mem_importNames
    (proper : site.tree.IsProper)
    (plain : site.tree.LinksNoDirectory)
    {parts : List String}
    {target : ImportTarget}
    (finds : site.Finds site.Searchable parts target)
    (single : ∀ part ∈ parts, IsPart part) :
    nameOfParts parts ∈ site.importNames := by
  -- The entry that was found lies below a root, and the name spells the way to it.
  have spelled
      {root : List String × String} (member : root ∈ site.roots)
      {directory last : String} (alone : IsPart last)
      (found : site.findImport directory last = some target)
      {way : List String} (each : ∀ part ∈ way, IsPart part)
      (lies : ∀ place, site.tree.find true site.cwd directory = .ok (place, .directory) →
        ∃ start, site.tree.find true site.cwd root.2 = .ok (start, .directory) ∧
          place = start ++ way) :
      ".".intercalate (root.1 ++ way ++ [last]) ∈ site.importNames := by
    obtain ⟨place, upper, entry, inside, shape⟩ := exists_entry_of_findImport found
    obtain ⟨start, first, rfl⟩ := lies place upper
    rcases shape with shape | shape
    · rw [← nameBelow_of_find first each (partOfEntry_of_isPart alone), ← shape]
      exact Site.mem_importNames member inside
    · rw [← nameBelow_of_find first each (partOfEntry_plain alone), ← shape]
      exact Site.mem_importNames member inside
  cases finds with
  | top root found =>
      rename_i last above
      have alone : IsPart last := single last List.mem_cons_self
      have whole (member : (above, site.importRoot) ∈ site.roots) :
          ".".intercalate (above ++ [] ++ [last]) ∈ site.importNames :=
        spelled member alone found (by simp) fun place upper => ⟨place, upper, by simp⟩
      rcases eq_of_nameOfParts_eq_empty root with rfl | rfl
      · simpa using whole List.mem_cons_self
      · simpa [nameOfParts] using whole (List.mem_cons_of_mem _ List.mem_cons_self)
  | nested inner upper found =>
      rename_i last directory above
      obtain ⟨root, member, way, each, named, lies⟩ := upper.exists_root proper plain
      rw [nameOfParts_cons_of_spelled inner named last]
      exact spelled member (single last List.mem_cons_self) found each lies

end Site

end ConfigTokens.Module
