import ConfigTokens.Path.Anchor
import ConfigTokens.Proofs.FileTree.Detours
import ConfigTokens.Proofs.Path.Segments
/-!
# The last name of a path

A file that is found without following a link at the end of its path stands under the last name of the path, be
there links among the directories on the way. So the path of its place has the same last segment.
-/

namespace ConfigTokens.FileTree

variable
    {Content : Type}
    {tree : FileTree Content}

/-! ## Ways to a file -/

namespace Way

variable {links : Nat}
variable {place names last : List String}
variable {content : Content}

/-- What is found without following a link at the end, and is no link, is found by following links as well. -/
theorem followed
    {entry : Entry Content}
    (way : tree.Way false links place names (last, entry))
    (plain : ∀ target, entry ≠ .link target) :
    tree.Way true links place names (last, entry) := by
  generalize ends : (last, entry) = found at way
  induction way with
  | stop present =>
      cases ends
      exact .stop present
  | stay here stays _ ih => exact .stay here stays (ih ends)
  | up here _ ih => exact .up here (ih ends)
  | down here step present kept _ ih => exact .down here step present kept (ih ends)
  | through here step present _ _ ih => exact .through here step present (.inr rfl) (ih ends)
  | last here step present _ =>
      cases ends
      exact absurd rfl (plain _)

/-- Nothing lies below a file. -/
theorem names_of_file
    {follow : Bool}
    {found : List String × Entry Content}
    (way : tree.Way follow links place names found)
    (present : tree.entry? place = some (.file content)) :
    names = [] ∧ found = (place, .file content) := by
  cases way with
  | stop standing =>
      cases standing.symm.trans present
      exact ⟨rfl, rfl⟩
  | stay here _ _ => cases here.symm.trans present
  | up here _ => cases here.symm.trans present
  | down here _ _ _ _ => cases here.symm.trans present
  | through here _ _ _ _ => cases here.symm.trans present
  | last here _ _ _ => cases here.symm.trans present

/-- A file that is found without following a link at the end stands under the last name. -/
theorem getLast?_of_file
    (way : tree.Way false links place names (last, .file content))
    (straight : tree.Straight place) :
    ∃ name, names.getLast? = some name ∧ last.getLast? = some name := by
  generalize ends : (last, Entry.file content) = found at way
  induction way with
  | stop present =>
      cases ends
      cases present.symm.trans straight.directory
  | stay here stays _ ih =>
      rcases ih straight ends with ⟨name, ofNames, ofLast⟩
      exact ⟨name, by rw [List.getLast?_cons, ofNames, Option.getD_some], ofLast⟩
  | up here _ ih =>
      rcases ih straight.dropLast ends with ⟨name, ofNames, ofLast⟩
      exact ⟨name, by rw [List.getLast?_cons, ofNames, Option.getD_some], ofLast⟩
  | @down _ place rest name entry _ here step present plain onward ih =>
      cases entry with
      | link target => exact absurd rfl (plain target)
      | directory =>
          rcases ih (straight.down step present) ends with ⟨name, ofNames, ofLast⟩
          exact ⟨name, by rw [List.getLast?_cons, ofNames, Option.getD_some], ofLast⟩
      | file other =>
          rcases onward.names_of_file present with ⟨rfl, stands⟩
          cases ends.trans stands
          exact ⟨name, rfl, List.getLast?_concat⟩
  | @through _ place rest name target _ here step present goesOn _ ih =>
      -- A link that is followed is not at the end, so the last name is one of those behind it.
      have more : rest ≠ [] := goesOn.resolve_right Bool.false_ne_true
      have from_ : tree.Straight (if isRooted target then [] else place) := by
        split
        · exact .root
        · exact straight
      rcases ih from_ ends with ⟨last, ofNames, ofLast⟩
      rw [List.getLast?_append, List.getLast?_eq_some_getLast more, Option.some_or,
        ← List.getLast?_eq_some_getLast more] at ofNames
      exact ⟨last, by rw [List.getLast?_cons, ofNames, Option.getD_some], ofLast⟩
  | last here step present _ => cases ends

end Way

/-! ## The last segment of a path -/

theorem getLast?_namesOf
    (path : String) :
    (namesOf path).getLast? = some (Path.baseNameText path) := by
  unfold namesOf Path.baseNameText Path.baseName Path.cutLast
  cases cut : Text.beforeLast '/' path.toList with
  | some parts =>
      rcases parts with ⟨front, back⟩
      rcases Text.beforeLast_eq_some_iff.mp cut with ⟨whole, clean⟩
      rw [whole, Text.fields_append_cons, Text.fields_of_not_mem clean, List.map_append]
      exact List.getLast?_concat
  | none =>
      rw [Text.fields_of_not_mem (Text.beforeLast_eq_none_iff.mp cut)]
      rfl

/-- The path of a place ends with the last name. -/
theorem baseNameText_pathText
    {place : List String}
    {name : String}
    (ends : place.getLast? = some name)
    (slashless : '/' ∉ name.toList) :
    Path.baseNameText (pathText place) = name := by
  obtain ⟨above, rfl⟩ := List.getLast?_eq_some_iff.mp ends
  obtain ⟨front, whole⟩ : ∃ front, (pathText (above ++ [name])).toList = front ++ '/' :: name.toList := by
    by_cases top : above = []
    · subst top
      exact ⟨[], by simp [pathText]⟩
    · refine ⟨'/' :: ("/".intercalate above).toList, ?_⟩
      rw [pathText, String.intercalate_append_of_ne_nil top (List.cons_ne_nil name []),
        String.intercalate_singleton]
      simp
  have cut := Text.beforeLast_eq_some_iff.mpr ⟨whole, slashless⟩
  unfold Path.baseNameText Path.baseName Path.cutLast
  rw [cut]
  exact String.ofList_toList

/-! ## Paths that end with no link -/

section

variable {cwd place : List String}
variable {path : String}

/-- A path that denotes something is walked along, whether or not a link at the end is followed. -/
theorem find_eq_walk_of_find
    {follow : Bool}
    {found : List String × Entry Content}
    (there : tree.find follow cwd path = .ok found)
    (other : Bool) :
    tree.find other cwd path =
      tree.walk other linkLimit (if isRooted path then [] else cwd) (namesOf path) := by
  unfold find at there ⊢
  split at there
  case isTrue => cases there
  case isFalse legal =>
      split at there
      case isTrue => cases there
      case isFalse short => rw [if_neg legal, if_neg short]

/-- What a path denotes without following a link at the end, and is no link, it denotes. -/
theorem find_followed
    {entry : Entry Content}
    (found : tree.find false cwd path = .ok (place, entry))
    (plain : ∀ target, entry ≠ .link target) :
    tree.find true cwd path = .ok (place, entry) := by
  have way := walk_eq_ok_iff.mp (walk_of_find found).2
  rw [find_eq_walk_of_find found]
  exact walk_eq_ok_iff.mpr (way.followed plain)

/-- A path is a symbolic link, be there one on the way to it or not. -/
def IsLink
    (tree : FileTree Content)
    (cwd : List String)
    (path : String) : Prop :=
  ∃ place target, tree.find false cwd path = .ok (place, .link target)

/-- A path that denotes something and is no link denotes it without following a link at the end. -/
theorem find_unfollowed
    {found : List String × Entry Content}
    (there : tree.find true cwd path = .ok found)
    (plain : ¬tree.IsLink cwd path) :
    tree.find false cwd path = .ok found := by
  rcases (walk_eq_ok_iff.mp (walk_of_find there).2).unfollowed with ⟨⟨place, entry⟩, way⟩
  have other : tree.find false cwd path = .ok (place, entry) :=
    (find_eq_walk_of_find there false).trans (walk_eq_ok_iff.mpr way)
  have kept : ∀ target, entry ≠ .link target := by
    rintro target rfl
    exact plain ⟨place, target, other⟩
  cases (find_followed other kept).symm.trans there
  exact other

/-- The path without links of a file has the last segment of a path to it that is no link. -/
theorem baseNameText_of_find
    {content : Content}
    (straight : tree.Straight cwd)
    (found : tree.find true cwd path = .ok (place, .file content))
    (plain : ¬tree.IsLink cwd path) :
    Path.baseNameText (pathText place) = Path.baseNameText path := by
  have start : tree.Straight (if isRooted path then [] else cwd) := by
    split
    · exact .root
    · exact straight
  have way := walk_eq_ok_iff.mp (walk_of_find (find_unfollowed found plain)).2
  rcases way.getLast?_of_file start with ⟨name, ofPath, ofPlace⟩
  cases ofPath.symm.trans (getLast?_namesOf path)
  have slashless : '/' ∉ (Path.baseNameText path).toList := by
    unfold Path.baseNameText
    rw [String.toList_ofList]
    exact Path.slash_not_mem_baseName path.toList
  exact baseNameText_pathText ofPlace slashless

end

end ConfigTokens.FileTree
