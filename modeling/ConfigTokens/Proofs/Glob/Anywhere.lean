import ConfigTokens.Proofs.Glob.Bounds
import ConfigTokens.Proofs.Glob.Standing
import ConfigTokens.Proofs.Path.Composed
/-!
# Searches from a rooted directory

A path from the root denotes the same in every working directory. A walk in a directory from the root looks up
no other paths, and neither do the test for directories and the anchoring of what is answered. So a search in
such a directory gives the same from every working directory (`search_elsewhere`).
-/

namespace ConfigTokens

namespace FileTree

variable {Content : Type}

/-- A path from the root is found wherever one stands. -/
theorem find_elsewhere
    (tree : FileTree Content)
    (follow : Bool)
    (cwd later : List String)
    {path : String}
    (rooted : isRooted path = true) :
    tree.find follow later path = tree.find follow cwd path := by
  unfold find
  rw [if_pos rooted, if_pos rooted]

theorem isRooted_eq
    (path : String) :
    isRooted path = Path.isAbsolute path.toList := by
  unfold isRooted Path.isAbsolute
  split
  · next rest shape =>
    rw [shape]
    rfl
  · next other =>
    cases shape : path.toList with
    | nil => rfl
    | cons first rest =>
        rw [List.head?_cons, decide_eq_false_iff_not, Option.some.injEq]
        rintro rfl
        exact other rest shape

end FileTree

namespace Glob

open ConfigTokens.Path
open ConfigTokens.Wildcard

namespace Scope

variable {Content : Type}

/-- The scope in another working directory. -/
def elsewhere
    (scope : Scope Content)
    (cwd : List String) : Scope Content :=
  { scope with cwd }

variable (scope : Scope Content)
variable (cwd : List String)

section

variable {path : List Char}
variable (rooted : isAbsolute path = true)

include rooted

theorem find_elsewhere
    (follow : Bool) :
    scope.tree.find follow cwd (String.ofList path) =
      scope.tree.find follow scope.cwd (String.ofList path) :=
  scope.tree.find_elsewhere follow scope.cwd cwd (by rwa [FileTree.isRooted_eq, String.toList_ofList])

theorem isDirectory_elsewhere :
    (scope.elsewhere cwd).isDirectory path = scope.isDirectory path := by
  unfold isDirectory FileTree.isDirectory elsewhere
  rw [scope.find_elsewhere cwd rooted]

theorem isPresent_elsewhere :
    (scope.elsewhere cwd).isPresent path = scope.isPresent path := by
  unfold isPresent FileTree.isPresent elsewhere
  rw [scope.find_elsewhere cwd rooted]

theorem list_elsewhere
    (directoriesOnly : Bool) :
    (scope.elsewhere cwd).list directoriesOnly path = scope.list directoriesOnly path := by
  have names : (scope.elsewhere cwd).tree.list (scope.elsewhere cwd).cwd (String.ofList path) =
      scope.tree.list scope.cwd (String.ofList path) := by
    unfold FileTree.list elsewhere
    rw [scope.find_elsewhere cwd rooted]
  have directories (name : List Char) :
      (scope.elsewhere cwd).isDirectory (join path name) = scope.isDirectory (join path name) :=
    scope.isDirectory_elsewhere cwd (by rw [isAbsolute_join, rooted, Bool.true_or])
  unfold list
  dsimp only
  rw [if_neg (ne_nil_of_isAbsolute rooted), names]
  simp only [directories]

theorem matchNames_elsewhere
    (directoriesOnly : Bool)
    (pattern : List Char) :
    (scope.elsewhere cwd).matchNames directoriesOnly path pattern =
      scope.matchNames directoriesOnly path pattern := by
  unfold matchNames
  rw [scope.list_elsewhere cwd rooted]
  rfl

theorem matchLiteral_elsewhere
    (name : List Char) :
    (scope.elsewhere cwd).matchLiteral path name = scope.matchLiteral path name := by
  unfold matchLiteral
  rw [scope.isDirectory_elsewhere cwd rooted, scope.isPresent_elsewhere cwd (isAbsolute_beneath rooted name)]

end

theorem descend_elsewhere
    (directoriesOnly : Bool)
    (depth : Nat)
    {path : List Char}
    (rooted : isAbsolute path = true) :
    (scope.elsewhere cwd).descend directoriesOnly depth path = scope.descend directoriesOnly depth path := by
  induction depth generalizing path with
  | zero => rfl
  | succ depth ih =>
      unfold descend
      rw [scope.list_elsewhere cwd rooted]
      simp only [fun name => ih (isAbsolute_beneath rooted name)]
      rfl

/-- What the last segment of a pattern finds in a directory from the root. -/
theorem matchLast_elsewhere
    (directoriesOnly : Bool)
    {path : List Char}
    (rooted : isAbsolute path = true)
    (last : List Char) :
    (scope.elsewhere cwd).matchLast directoriesOnly path last = scope.matchLast directoriesOnly path last := by
  unfold matchLast matchBelow
  rw [scope.matchNames_elsewhere cwd rooted, scope.matchLiteral_elsewhere cwd rooted,
    scope.isDirectory_elsewhere cwd rooted, scope.descend_elsewhere cwd _ _ rooted]
  rfl

section

variable {scope : Scope Content}
variable (rooted : isAbsolute scope.root = true)

include rooted

theorem matchEach_elsewhere
    (directoriesOnly : Bool)
    (last : List Char)
    (places : List (List Char)) :
    (scope.elsewhere cwd).matchEach directoriesOnly last places =
      scope.matchEach directoriesOnly last places := by
  have same (place : List Char) :
      (scope.elsewhere cwd).matchLast directoriesOnly (beneath scope.root place) last =
        scope.matchLast directoriesOnly (beneath scope.root place) last :=
    scope.matchLast_elsewhere cwd directoriesOnly (isAbsolute_beneath rooted place) last
  unfold matchEach
  have root : (scope.elsewhere cwd).root = scope.root := rfl
  simp only [root, same]

theorem holds_elsewhere
    (pattern : List Char) :
    (scope.elsewhere cwd).Holds pattern ↔ scope.Holds pattern := by
  have root : (scope.elsewhere cwd).root = scope.root := rfl
  unfold Holds
  rw [root, scope.isDirectory_elsewhere cwd (isAbsolute_beneath rooted _),
    scope.isPresent_elsewhere cwd (isAbsolute_beneath rooted pattern)]

/-- The induction is on the fuel, and goes by the shape of the pattern. -/
theorem expandFrom_elsewhere
    (fuel : Nat)
    (directoriesOnly : Bool)
    (pattern : List Char) :
    (scope.elsewhere cwd).expandFrom fuel directoriesOnly pattern =
      scope.expandFrom fuel directoriesOnly pattern := by
  induction fuel generalizing directoriesOnly pattern with
  | zero => rfl
  | succ fuel shorter =>
      cases shape pattern with
      | plain literal =>
          rw [expandFrom_of_plain _ _ literal, expandFrom_of_plain _ _ literal,
            if_congr (holds_elsewhere cwd rooted pattern) rfl rfl]
      | alone magic alone =>
          rw [expandFrom_of_alone _ _ magic alone, expandFrom_of_alone _ _ magic alone]
          exact scope.matchLast_elsewhere cwd directoriesOnly rooted _
      | last magic below literal =>
          rw [expandFrom_of_last _ _ magic below literal, expandFrom_of_last _ _ magic below literal,
            matchEach_elsewhere cwd rooted]
      | special _ front =>
          rw [expandFrom_of_special _ _ front, expandFrom_of_special _ _ front, shorter]
          exact bind_congr fun places => matchEach_elsewhere cwd rooted _ _ places

theorem expand_elsewhere
    (pattern : List Char) :
    (scope.elsewhere cwd).expand pattern = scope.expand pattern := by
  unfold expand
  rw [expandFrom_elsewhere cwd rooted]

end

end Scope

/-- A search in a directory from the root gives the same from every working directory. -/
theorem search_elsewhere
    {Content : Type}
    (scope : Scope Content)
    (rooted : isAbsolute scope.root = true)
    (cwd : List String)
    (exclusions : Exclusions)
    (pattern : String) :
    search (scope.elsewhere cwd) exclusions pattern = search scope exclusions pattern := by
  have root : (scope.elsewhere cwd).root = scope.root := rfl
  have directories (path : List Char) :
      (scope.elsewhere cwd).isDirectory (join scope.root path) = scope.isDirectory (join scope.root path) :=
    scope.isDirectory_elsewhere cwd (by rw [isAbsolute_join, rooted, Bool.true_or])
  have anchored (path : List Char) :
      anchor (FileTree.pathText (scope.elsewhere cwd).cwd).toList scope.root path =
        anchor (FileTree.pathText scope.cwd).toList scope.root path :=
    anchor_of_rooted_base _ _ rooted path
  unfold search
  rw [Scope.expand_elsewhere cwd rooted, root]
  simp only [directories, anchored]

end Glob

end ConfigTokens
