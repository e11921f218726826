import ConfigTokens.Proofs.Nesting.Consistent
import Mathlib.Data.List.Perm.Subperm
/-!
# How deep bodies nest

A body under way keeps its key in the registry, or its name in the table, so that no other body begins
for the same file or under the same name. Since a site has finitely many files and finitely many names,
`Stage.Stands.size_lt` bounds the bodies that are under way at once by `Site.bodies`, whatever the limit of
the interpreter is.

Where modules are imported by name, two hypotheses on the tree are needed. A link to a directory gives the
modules in it ever longer names. A module that could be imported under the name that is made for a file
would lose that name when the file fails, and could begin once more while its body is under way.
-/

namespace ConfigTokens.Module

/--
A bound on the bodies that are under way at once. A body runs for a file, or for a file under the name that a
package gives it, and none starts again while it runs.
-/
def Site.bodies
    (site : Site) : Nat :=
  (site.tree.entries.length + 2) * (site.tree.entries.length + 2)

/--
The names in the tree are proper, no link leads to a directory, and no module is imported under a name
that is made for a file.
-/
structure Site.Regular
    (site : Site) : Prop where
  proper : site.tree.IsProper
  plain : site.tree.LinksNoDirectory
  apart : ∀ file, site.IsKey file → site.findImport site.importRoot (synthesizedName file) = none

/-- A name that an import finds is made for no file. -/
theorem Site.Regular.ne_synthesizedName
    {site : Site}
    (regular : site.Regular)
    {parts : List String}
    {target : ImportTarget}
    (finds : site.Finds site.Searchable parts target)
    {file : String}
    (isKey : site.IsKey file) :
    nameOfParts parts ≠ synthesizedName file := by
  have dotless := isPart_synthesizedName file
  -- A name with a part above the last one has a dot.
  have dotted {last next : String} {rest : List String} :
      nameOfParts (last :: next :: rest) ≠ synthesizedName file := by
    intro same
    rw [nameOfParts_cons (List.cons_ne_nil next rest)] at same
    exact dotless (by simp [← same])
  cases finds with
  | top root found =>
      rename_i last above
      cases above with
      | nil =>
          rw [nameOfParts_singleton]
          rintro rfl
          rw [regular.apart file isKey] at found
          cases found
      | cons next rest => exact dotted
  | nested inner upper found =>
      rename_i last directory above
      cases above with
      | nil => exact absurd nameOfParts_nil inner
      | cons next rest => exact dotted

/-- At a stage the bodies under way are those of different files and names, which the world knows. -/
structure Stage.Stands
    (stage : Stage)
    (site : Site)
    (world : World) : Prop where
  consistent : world.Consistent site
  files : stage.files.Nodup
  names : stage.names.Nodup
  answered :
    ∀ file ∈ stage.files, site.IsKey file ∧ (world.answer? site.registry file).isSome = true
  tabled :
    ∀ name ∈ stage.names, name ∈ site.importNames ∧
      (∀ file, site.IsKey file → name ≠ synthesizedName file) ∧
        (world.table.lookup name).isSome = true

namespace Stage.Stands

variable
    {stage : Stage}
    {site : Site}
    {world final : World}

/-- Fewer bodies are under way than the bound says. -/
theorem size_lt
    (stands : stage.Stands site world) :
    stage.size < site.bodies := by
  have files : stage.files.length ≤ site.keys.length :=
    (List.Nodup.subperm stands.files fun file member =>
      Site.mem_keys_of_isKey (stands.answered file member).1).length_le
  have names : stage.names.length ≤ site.importNames.length :=
    (List.Nodup.subperm stands.names fun name member => (stands.tabled name member).1).length_le
  rw [site.length_keys] at files
  rw [site.length_importNames] at names
  unfold Stage.size Site.bodies
  rw [Nat.mul_add]
  omega

theorem outside
    (consistent : world.Consistent site) :
    Stage.outside.Stands site world where
  consistent := consistent
  files := List.nodup_nil
  names := List.nodup_nil
  answered _ member := by cases member
  tabled _ member := by cases member

/-- What adds answers and names, and keeps the world consistent, leaves the stage as it is. -/
theorem mono
    (stands : stage.Stands site world)
    (consistent : final.Consistent site)
    (answers :
      ∀ file ∈ stage.files, (world.answer? site.registry file).isSome = true →
        (final.answer? site.registry file).isSome = true)
    (table :
      ∀ name ∈ stage.names, (world.table.lookup name).isSome = true →
        (final.table.lookup name).isSome = true) :
    stage.Stands site final where
  consistent := consistent
  files := stands.files
  names := stands.names
  answered file member :=
    ⟨(stands.answered file member).1, answers file member (stands.answered file member).2⟩
  tabled name member :=
    ⟨(stands.tabled name member).1, (stands.tabled name member).2.1,
      table name member (stands.tabled name member).2.2⟩

theorem same
    (stands : stage.Stands site world)
    (consistent : final.Consistent site)
    (registries : final.registries = world.registries)
    (table : final.table = world.table) :
    stage.Stands site final := by
  refine stands.mono consistent (fun file _ known => ?_) (fun name _ known => ?_)
  · rw [World.answer?_congr registries]
    exact known
  · rw [table]
    exact known

theorem isSome_lookup_tabulate
    {name other : String}
    {id : ObjectId}
    (known : (world.table.lookup other).isSome = true) :
    ((world.tabulate name id).table.lookup other).isSome = true := by
  rw [World.lookup_tabulate]
  split
  · rfl
  · exact known

theorem openFile
    (stands : stage.Stands site world)
    {file : String}
    (isKey : site.IsKey file)
    (absent : world.answer? site.registry file = none) :
    (stage.openFile file world.objects.size).Stands site (world.opened site.registry file) := by
  have answers (other : String) (known : (world.answer? site.registry other).isSome = true) :
      ((world.opened site.registry file).answer? site.registry other).isSome = true := by
    rw [World.answer?_opened]
    split
    · rfl
    · exact known
  have before : stage.Stands site (world.opened site.registry file) :=
    stands.mono (stands.consistent.opened isKey _) (fun other _ => answers other)
      fun name _ known => isSome_lookup_tabulate known
  refine ⟨before.consistent, List.nodup_cons.mpr ⟨fun member => ?_, stands.files⟩, before.names,
    List.forall_mem_cons.mpr ⟨⟨isKey, ?_⟩, before.answered⟩, before.tabled⟩
  · -- The registry has an answer for each file whose body is under way.
    have known := (stands.answered file member).2
    rw [absent] at known
    cases known
  · rw [World.answer?_opened, if_pos ⟨rfl, rfl⟩]
    rfl

theorem closeFile
    {file : String}
    {id : ObjectId}
    (stands : (stage.openFile file id).Stands site world) :
    stage.Stands site world where
  consistent := stands.consistent
  files := (List.nodup_cons.mp stands.files).2
  names := stands.names
  answered other member := stands.answered other (List.mem_cons_of_mem _ member)
  tabled := stands.tabled

theorem discardFile
    {file : String}
    {id : ObjectId}
    (stands : (stage.openFile file id).Stands site world)
    (reason : String) :
    stage.Stands site (world.discarded site.registry file reason) := by
  have isKey : site.IsKey file := (stands.answered file List.mem_cons_self).1
  refine stands.closeFile.mono (stands.consistent.discarded _ _ _) (fun other member known => ?_)
    fun name member known => ?_
  · rw [World.answer?_discarded, if_neg]
    · exact known
    · rintro ⟨-, rfl⟩
      exact (List.nodup_cons.mp stands.files).1 member
  · change ((world.untabulate (synthesizedName file)).table.lookup name).isSome = true
    rw [World.lookup_untabulate, if_neg ((stands.tabled name member).2.1 file isKey)]
    exact known

theorem found
    (stands : stage.Stands site world)
    {parts : List String}
    {target : ImportTarget}
    (single : ∀ part ∈ parts, IsPart part)
    (finds : site.Finds site.Searchable parts target)
    (parent : String) :
    stage.Stands site (world.withFound (nameOfParts parts) parent target) :=
  stands.mono (stands.consistent.withFound single finds parent) (fun _ _ known => known)
    fun _ _ known => isSome_lookup_tabulate known

theorem openImport
    (regular : site.Regular)
    (stands : stage.Stands site world)
    {parts : List String}
    {target : ImportTarget}
    (single : ∀ part ∈ parts, IsPart part)
    (finds : site.Finds site.Searchable parts target)
    (parent : String)
    (absent : world.table.lookup (nameOfParts parts) = none) :
    (stage.openImport (nameOfParts parts) world.objects.size).Stands site
      (world.withFound (nameOfParts parts) parent target) := by
  have before := stands.found single finds parent
  refine ⟨before.consistent, before.files, List.nodup_cons.mpr ⟨fun member => ?_, stands.names⟩,
    before.answered, List.forall_mem_cons.mpr ⟨⟨?_, ?_, ?_⟩, before.tabled⟩⟩
  · -- The table has each name under which a body is under way.
    have known := (stands.tabled _ member).2.2
    rw [absent] at known
    cases known
  · exact finds.mem_importNames regular.proper regular.plain single
  · exact fun file isKey => regular.ne_synthesizedName finds isKey
  · unfold World.withFound
    rw [World.lookup_tabulate, if_pos rfl]
    rfl

theorem closeImport
    {name : String}
    {id : ObjectId}
    (stands : (stage.openImport name id).Stands site world) :
    stage.Stands site world where
  consistent := stands.consistent
  files := stands.files
  names := (List.nodup_cons.mp stands.names).2
  answered := stands.answered
  tabled other member := stands.tabled other (List.mem_cons_of_mem _ member)

theorem failImport
    {name : String}
    {id : ObjectId}
    (stands : (stage.openImport name id).Stands site world) :
    stage.Stands site (world.untabulate name) := by
  refine stands.closeImport.mono (stands.consistent.untabulate name) (fun _ _ known => known)
    fun other member known => ?_
  rw [World.lookup_untabulate, if_neg]
  · exact known
  · rintro rfl
    exact (List.nodup_cons.mp stands.names).1 member

end Stage.Stands

/-- The regime of stages that stand. Names may be imported if the site is regular. -/
def Regime.stands
    (site : Site) : Regime site where
  holds stage world := stage.Stands site world
  imports _ := site.Regular
  searched := site.Searchable
  above regular _ := regular
  push object stands := stands.same (stands.consistent.push object) rfl rfl
  trace _ stands := stands.same ⟨stands.consistent.made, stands.consistent.searchable⟩ rfl rfl
  note _ _ stands := stands.same ⟨stands.consistent.made, stands.consistent.searchable⟩ rfl rfl
  assign _ _ _ stands := stands.same (stands.consistent.withGlobal _ _ _) rfl rfl
  mark _ _ stands := stands.same (stands.consistent.marked _ _) rfl rfl
  search stands tabled searches := stands.consistent.searchable _ _ _ tabled searches
  bind _ _ stands _ _ := stands.same (stands.consistent.withGlobal _ _ _) rfl rfl
  enter {stage world} name id stands := by
    refine stands.mono ⟨stands.consistent.made, stands.consistent.searchable⟩
      (fun file _ known => ?_) fun _ _ known => known
    rw [World.answer?_enter]
    split
    · rfl
    · exact known
  document {stage world file} content isKey stands absent := by
    have made : (world.withDocument site.registry file content).Consistent site :=
      ⟨(stands.consistent.push (.document content)).made,
        (stands.consistent.push (.document content)).searchable⟩
    refine stands.mono made (fun other _ known => ?_) fun _ _ known => known
    rw [World.answer?_withDocument]
    split
    · rfl
    · exact known
  openFile isKey stands absent := stands.openFile isKey absent
  closeFile _ _ stands := stands.closeFile
  discardFile reason _ _ stands := stands.discardFile reason
  found parent single _ finds stands _ := stands.found single finds parent
  openImport parent single regular finds stands absent :=
    stands.openImport regular single finds parent absent
  closeImport _ stands := stands.closeImport
  failImport _ stands := stands.failImport

end ConfigTokens.Module
