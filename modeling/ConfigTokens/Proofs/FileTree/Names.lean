import Mathlib.Data.List.Nodup
import ConfigTokens.Proofs.FileTree.Descent
import ConfigTokens.Proofs.Path.Segments
/-!
# Names in a tree

The names in a tree are proper: each is a single segment that leads into a directory, and holds no null
character. Trees are grown from paths of such names, so that they keep to them, and no other name is ever
listed. Nor is a name listed twice, since growing puts an entry in place of another one at its path.
-/

namespace ConfigTokens.FileTree

variable {Content : Type}

/-- What is kept by putting entries at a path and above it is kept by growing a tree there. -/
theorem insert_keeps
    {kept : FileTree Content → Prop}
    {path : List String}
    (puts : ∀ tree way entry, way <+: path → kept tree → kept (tree.put way entry))
    {tree : FileTree Content}
    (start : kept tree)
    (entry : Entry Content) :
    kept (tree.insert path entry) := by
  have above : ∀ way ∈ ancestors path, way <+: path := by
    intro way member
    obtain ⟨count, -, rfl⟩ := List.mem_map.mp member
    exact List.take_prefix count path
  unfold FileTree.insert
  refine puts _ path entry List.prefix_rfl ?_
  generalize ancestors path = ways at above
  induction ways generalizing tree with
  | nil => exact start
  | cons way rest ih =>
      obtain ⟨first, others⟩ := List.forall_mem_cons.mp above
      rw [List.foldl_cons]
      refine ih ?_ others
      split
      case isTrue => exact puts tree way .directory first start
      case isFalse => exact start

/-! ## Proper names -/

/-- A name that something in a directory can have. -/
def IsEntryName
    (name : String) : Prop :=
  Path.IsProper name.toList ∧ '\x00' ∉ name.toList

instance (name : String) : Decidable (IsEntryName name) :=
  inferInstanceAs (Decidable (((_ ∧ _) ∧ _ ∧ _) ∧ _))

/-- Every entry is reached by proper names. -/
def WellNamed
    (tree : FileTree Content) : Prop :=
  ∀ entry ∈ tree.entries, ∀ name ∈ entry.1, IsEntryName name

theorem wellNamed_empty :
    (empty : FileTree Content).WellNamed :=
  fun _ member => absurd member List.not_mem_nil

namespace WellNamed

variable {tree : FileTree Content}

theorem put
    (named : tree.WellNamed)
    {path : List String}
    (proper : ∀ name ∈ path, IsEntryName name)
    (entry : Entry Content) :
    (tree.put path entry).WellNamed := by
  intro known member
  rcases List.mem_append.mp member with old | new
  · exact named known (List.mem_filter.mp old).1
  · rw [List.mem_singleton.mp new]
    exact proper

/-- Growing a tree at a path of proper names keeps its names proper. -/
theorem insert
    (named : tree.WellNamed)
    {path : List String}
    (proper : ∀ name ∈ path, IsEntryName name)
    (entry : Entry Content) :
    (tree.insert path entry).WellNamed :=
  insert_keeps (fun _ _ entry above named => named.put (fun name member => proper name (above.subset member)) entry)
    named entry

theorem remove
    (named : tree.WellNamed)
    (path : List String) :
    (tree.remove path).WellNamed :=
  fun known member => named known (List.mem_filter.mp member).1

/-- Only proper names are listed. -/
theorem list
    (named : tree.WellNamed)
    {cwd : List String}
    {directory name : String}
    (member : name ∈ tree.list cwd directory) :
    IsEntryName name := by
  obtain ⟨place, -, entry, inside, way⟩ := exists_entry_of_mem_list member
  refine named entry inside name ?_
  rw [way]
  exact List.mem_append_right place (List.mem_singleton_self name)

end WellNamed

/-! ## Distinct paths -/

/-- No two entries stand at the same path. -/
def Distinct
    (tree : FileTree Content) : Prop :=
  (tree.entries.map Prod.fst).Nodup

theorem distinct_empty :
    (empty : FileTree Content).Distinct :=
  List.nodup_nil

namespace Distinct

variable {tree : FileTree Content}

theorem put
    (distinct : tree.Distinct)
    (path : List String)
    (entry : Entry Content) :
    (tree.put path entry).Distinct := by
  unfold Distinct FileTree.put
  rw [List.map_append, List.map_singleton]
  refine List.Nodup.append (distinct.sublist (List.filter_sublist.map _)) (List.nodup_singleton path) ?_
  rw [List.disjoint_singleton]
  intro again
  obtain ⟨known, member, same⟩ := List.mem_map.mp again
  exact of_decide_eq_true (List.mem_filter.mp member).2 same

theorem insert
    (distinct : tree.Distinct)
    (path : List String)
    (entry : Entry Content) :
    (tree.insert path entry).Distinct :=
  insert_keeps (fun _ way entry _ distinct => distinct.put way entry) distinct entry

theorem remove
    (distinct : tree.Distinct)
    (path : List String) :
    (tree.remove path).Distinct :=
  distinct.sublist (List.filter_sublist.map _)

/-- No name is in a directory twice. -/
theorem names
    (distinct : tree.Distinct)
    (place : List String) :
    (tree.names place).Nodup := by
  have byPath :
      tree.names place =
        (tree.entries.map Prod.fst).filterMap fun path =>
          if path.dropLast = place then path.getLast? else none := by
    rw [List.filterMap_map]
    rfl
  rw [byPath]
  refine distinct.filterMap fun one other name first second => ?_
  simp only [Option.mem_def, Option.ite_none_right_eq_some] at first second
  obtain ⟨upper, last⟩ := first
  obtain ⟨above, also⟩ := second
  rw [← List.dropLast_append_getLast? name last, ← List.dropLast_append_getLast? name also, upper, above]

theorem list
    (distinct : tree.Distinct)
    (cwd : List String)
    (directory : String) :
    (tree.list cwd directory).Nodup := by
  unfold FileTree.list
  split
  case h_1 place _ => exact distinct.names place
  case h_2 => exact List.nodup_nil

end Distinct

end ConfigTokens.FileTree
