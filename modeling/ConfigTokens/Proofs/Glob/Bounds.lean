import ConfigTokens.Proofs.FileTree.Cycles
import ConfigTokens.Proofs.Glob.Walk
/-!
# The bounds of a walk

A walk is bounded in two ways: by the segments of the pattern, and by how far a descent goes down. Neither
bound leaves anything out. Each step of the walk goes on with a shorter pattern, and in a tree without
cycles a descent passes only different directories, of which there are no more than the tree has. In a
tree with cycles, where a directory is found again below itself, the second bound may cut a descent short.
-/

namespace ConfigTokens.Path

/-- A directory that is more than slashes is shorter than what lies in it. -/
theorem length_directory_lt
    {path : List Char}
    {c : Char}
    (inside : c ∈ directory path)
    (other : c ≠ '/') :
    (directory path).length < path.length := by
  have whole : (cutLast path).1.length ≤ path.length := by
    rw [← congrArg List.length (cutLast_append path), List.length_append]
    exact Nat.le_add_right _ _
  have closed : (cutLast path).1 ≠ [] → (cutLast path).1.getLast? = some '/' := by
    unfold cutLast
    split <;> simp
  unfold directory at inside ⊢
  dsimp only at inside ⊢
  split
  case isTrue slashes =>
      rw [if_pos slashes] at inside
      exact absurd (eq_of_beq (List.all_eq_true.mp slashes c inside)) other
  case isFalse some =>
      have filled : (cutLast path).1 ≠ [] := by
        intro empty
        exact some (by rw [empty]; rfl)
      obtain ⟨front, shape⟩ := List.getLast?_eq_some_iff.mp (closed filled)
      rw [shape] at whole ⊢
      rw [List.length_append] at whole
      have shorter := (List.dropWhile_sublist (p := (· == '/')) (l := front.reverse)).length_le
      rw [List.length_reverse] at shorter
      simp only [List.reverse_append, List.reverse_singleton, List.singleton_append,
        List.dropWhile_cons, beq_self_eq_true, if_true, List.length_reverse]
      exact Nat.lt_of_le_of_lt shorter whole

end ConfigTokens.Path

namespace ConfigTokens.Glob

open ConfigTokens.Path
open ConfigTokens.Wildcard

/-- Steps that agree on every element agree on a list. -/
theorem mapM_congr
    {ε α β : Type}
    {first second : α → Except ε β}
    {elements : List α}
    (same : ∀ element ∈ elements, first element = second element) :
    elements.mapM first = elements.mapM second := by
  induction elements with
  | nil => rfl
  | cons element rest ih =>
      obtain ⟨here, others⟩ := List.forall_mem_cons.mp same
      rw [List.mapM_cons, List.mapM_cons, here, ih others]

/-- Steps that end well on every element give their results one after the other. -/
theorem mapM_flatten_of_ok
    {ε α β : Type}
    {action : α → Except ε (List β)}
    {results : α → List β}
    {elements : List α}
    (each : ∀ element ∈ elements, action element = .ok (results element)) :
    (do return (← elements.mapM action).flatten) = (.ok (elements.flatMap results) : Except ε (List β)) := by
  have pure : elements.mapM action = elements.mapM fun element => pure (results element) := mapM_congr each
  rw [pure, List.mapM_pure]
  rfl

namespace Scope

variable {Content : Type}
variable {scope : Scope Content}

/-! ## Segments of the pattern -/

/-- The directory of a pattern is shorter than the pattern, if it has special characters in it. -/
theorem length_directory_lt_of_isMagic
    {pattern : List Char}
    (magic : isMagic (directory pattern) = true) :
    (directory pattern).length < pattern.length := by
  obtain ⟨c, inside, special⟩ := List.any_eq_true.mp magic
  refine length_directory_lt inside ?_
  rintro rfl
  cases special

/-- More fuel than the pattern has characters changes nothing. -/
theorem expandFrom_of_length_lt
    (directoriesOnly : Bool)
    {pattern : List Char}
    {fuel more : Nat}
    (enough : pattern.length < fuel)
    (further : pattern.length < more) :
    scope.expandFrom more directoriesOnly pattern =
      scope.expandFrom fuel directoriesOnly pattern := by
  induction fuel generalizing more directoriesOnly pattern with
  | zero => exact absurd enough (Nat.not_lt_zero _)
  | succ fuel ih =>
      cases more with
      | zero => exact absurd further (Nat.not_lt_zero _)
      | succ more =>
          cases shape pattern with
          | plain literal => rw [expandFrom_of_plain _ _ literal, expandFrom_of_plain _ _ literal]
          | alone magic none => rw [expandFrom_of_alone _ _ magic none, expandFrom_of_alone _ _ magic none]
          | last magic below literal =>
              rw [expandFrom_of_last _ _ magic below literal, expandFrom_of_last _ _ magic below literal]
          | special _ front =>
              have shorter := length_directory_lt_of_isMagic front
              have left : (directory pattern).length < fuel := by omega
              have right : (directory pattern).length < more := by omega
              rw [expandFrom_of_special _ _ front, expandFrom_of_special _ _ front, ih true left right]

theorem matchEach_of_matched
    {directoriesOnly : Bool}
    {last : List Char}
    {places : List (List Char)}
    {names : List Char → List (List Char)}
    (matched : ∀ place ∈ places,
      scope.matchLast directoriesOnly (beneath scope.root place) last = .ok (names place)) :
    scope.matchEach directoriesOnly last places =
      .ok (places.flatMap fun place => (names place).map (join place)) := by
  refine mapM_flatten_of_ok fun place member => ?_
  rw [matched place member]
  rfl

/-- The last segment is matched in each place that the rest of a pattern finds. -/
theorem expandFrom_of_front
    {fuel : Nat}
    {directoriesOnly : Bool}
    {pattern : List Char}
    {places : List (List Char)}
    {names : List Char → List (List Char)}
    (special : isMagic (directory pattern) = true)
    (fronts : scope.expandFrom fuel true (directory pattern) = .ok places)
    (matched : ∀ place ∈ places,
      scope.matchLast directoriesOnly (beneath scope.root place) (baseName pattern) = .ok (names place)) :
    scope.expandFrom (fuel + 1) directoriesOnly pattern =
      .ok (places.flatMap fun place => (names place).map (join place)) := by
  rw [expandFrom_of_special fuel directoriesOnly special, fronts]
  exact matchEach_of_matched matched

/-! ## Descents -/

/-- A path denotes a directory; no path means the working directory. -/
def Denotes
    (scope : Scope Content)
    (directory : List Char)
    (place : List String) : Prop :=
  scope.tree.find true scope.cwd (String.ofList (if directory = [] then here else directory)) =
    .ok (place, .directory)

/-- Only a directory lists names. -/
theorem exists_denotes_of_list
    {directoriesOnly : Bool}
    {directory name : List Char}
    {names : List (List Char)}
    (listed : scope.list directoriesOnly directory = .ok names)
    (member : name ∈ names) :
    ∃ place, scope.Denotes directory place ∧ String.ofList name ∈ scope.tree.names place := by
  have among :
      name ∈ (scope.tree.list scope.cwd
        (String.ofList (if directory = [] then here else directory))).map String.toList := by
    unfold Scope.list at listed
    split at listed
    case isTrue => cases listed
    case isFalse =>
        cases listed
        split at member
        case isTrue => exact (List.mem_filter.mp member).1
        case isFalse => exact member
  obtain ⟨text, inside, rfl⟩ := List.mem_map.mp among
  obtain ⟨place, found, entry, known, way⟩ := FileTree.exists_entry_of_mem_list inside
  exact ⟨place, found, String.ofList_toList ▸ FileTree.mem_names.mpr ⟨entry, known, way⟩⟩

/-- Only proper names are listed. -/
theorem isProper_of_list
    (named : scope.tree.WellNamed)
    {directoriesOnly : Bool}
    {directory name : List Char}
    {names : List (List Char)}
    (listed : scope.list directoriesOnly directory = .ok names)
    (member : name ∈ names) :
    IsProper name := by
  obtain ⟨place, -, inside⟩ := exists_denotes_of_list listed member
  have proper := (named.of_mem_names inside).1
  rwa [String.toList_ofList] at proper

/-- A directory lists its names, and only those of directories just if all of them are. -/
theorem list_of_denotes
    (directoriesOnly : Bool)
    {directory : List Char}
    {place : List String}
    (clean : '\x00' ∉ directory)
    (denotes : scope.Denotes directory place)
    (directories : directoriesOnly = true → ∀ name ∈ (scope.tree.names place).map String.toList,
      scope.isDirectory (join (if directory = [] then here else directory) name) = true) :
    scope.list directoriesOnly directory = .ok ((scope.tree.names place).map String.toList) := by
  have listed : scope.tree.list scope.cwd (String.ofList (if directory = [] then here else directory)) =
      scope.tree.names place := by
    rw [FileTree.list, denotes]
  unfold Scope.list
  rw [if_neg (by simpa using clean)]
  dsimp only
  rw [listed]
  split
  case isTrue only => rw [List.filter_eq_self.mpr (directories only)]
  case isFalse => rfl

/-- What is no directory lists nothing. -/
theorem list_of_not_denotes
    (directoriesOnly : Bool)
    {directory : List Char}
    (clean : '\x00' ∉ directory)
    (other : ∀ place, ¬scope.Denotes directory place) :
    scope.list directoriesOnly directory = .ok [] := by
  have listed : scope.tree.list scope.cwd (String.ofList (if directory = [] then here else directory)) =
      [] := by
    unfold FileTree.list
    split
    case h_1 place found => exact absurd found (other place)
    case h_2 => rfl
  unfold Scope.list
  rw [if_neg (by simpa using clean)]
  dsimp only
  rw [listed]
  split <;> rfl

theorem isDirectory_iff
    {directory : List Char}
    (filled : directory ≠ []) :
    scope.isDirectory directory = true ↔ ∃ place, scope.Denotes directory place := by
  unfold Scope.isDirectory FileTree.isDirectory Denotes
  rw [if_neg filled]
  split
  case h_1 place found => exact ⟨fun _ => ⟨place, found⟩, fun _ => rfl⟩
  case h_2 other => exact ⟨nofun, fun ⟨place, found⟩ => absurd found (other place)⟩

theorem Denotes.isDirectory
    {directory : List Char}
    {place : List String}
    (denotes : scope.Denotes directory place)
    (filled : directory ≠ []) :
    scope.isDirectory directory = true :=
  (isDirectory_iff filled).mpr ⟨place, denotes⟩

/-- Directories that have been passed on the way to one: they are different, and each leads to it. -/
structure Passed
    (scope : Scope Content)
    (passed : List (List String))
    (directory : List Char) : Prop where
  distinct : passed.Nodup
  places : ∀ place ∈ passed, place ∈ scope.tree.places
  lead : ∀ place ∈ passed, ∀ last, scope.Denotes directory last →
    Relation.TransGen scope.tree.Leads place last

namespace Passed

variable {passed : List (List String)}
variable {directory : List Char}

theorem nil :
    scope.Passed [] directory :=
  ⟨List.nodup_nil, List.forall_mem_nil _, List.forall_mem_nil _⟩

/-- A directory is passed by stepping to a name in it. -/
theorem beneath
    (way : scope.Passed passed directory)
    (named : scope.tree.WellNamed)
    (acyclic : scope.tree.Acyclic)
    {place : List String}
    (denotes : scope.Denotes directory place)
    {name : List Char}
    (listed : String.ofList name ∈ scope.tree.names place) :
    scope.Passed (place :: passed) (Glob.beneath directory name) := by
  have single := named.isName_of_mem_names listed
  have step {last : List String} (lower : scope.Denotes (Glob.beneath directory name) last) :
      scope.tree.Leads place last := by
    have joined : Glob.beneath directory name = join directory name := by
      unfold Glob.beneath
      split
      case isTrue empty => simp [empty, join, not_isAbsolute_of_isName single]
      case isFalse => rw [if_neg single.1]
    have filled : join directory name ≠ [] := by
      intro empty
      have segment := segments_join_of_isName directory single
      rw [empty] at segment
      simp at segment
    unfold Denotes at lower
    rw [joined, if_neg filled] at lower
    exact FileTree.leads_of_find_join named listed denotes lower
  refine ⟨List.nodup_cons.mpr ⟨fun again => ?_, way.distinct⟩, ?_, ?_⟩
  · exact acyclic place (way.lead place again place denotes)
  · exact List.forall_mem_cons.mpr ⟨FileTree.mem_places_of_find denotes, way.places⟩
  · refine List.forall_mem_cons.mpr ⟨fun last lower => .single (step lower), ?_⟩
    exact fun earlier among last lower => (way.lead earlier among place denotes).tail (step lower)

/-- No more directories are passed than the tree has. -/
theorem length_le
    (way : scope.Passed passed directory)
    (acyclic : scope.tree.Acyclic)
    {place : List String}
    (denotes : scope.Denotes directory place) :
    passed.length ≤ scope.tree.entries.length := by
  have fresh : place ∉ passed := fun again =>
    acyclic place (way.lead place again place denotes)
  have distinct : (place :: passed).Nodup := List.nodup_cons.mpr ⟨fresh, way.distinct⟩
  have inside : ∀ known ∈ place :: passed, known ∈ scope.tree.places :=
    List.forall_mem_cons.mpr ⟨FileTree.mem_places_of_find denotes, way.places⟩
  have fewer := (List.Nodup.subperm distinct inside).length_le
  rw [FileTree.length_places, List.length_cons] at fewer
  exact Nat.le_of_succ_le_succ fewer

end Passed

/-- Where nothing is listed there is nothing to descend to. -/
theorem descend_of_list_nil
    {directoriesOnly : Bool}
    {directory : List Char}
    (listed : scope.list directoriesOnly directory = .ok [])
    (depth : Nat) :
    scope.descend directoriesOnly depth directory = .ok [] := by
  cases depth with
  | zero => rfl
  | succ depth =>
      unfold descend
      rw [listed]
      rfl

/-- In a directory of names that have nothing below them, a descent finds those names that are wanted. -/
theorem descend_of_leaves
    {directoriesOnly : Bool}
    {directory : List Char}
    {names : List (List Char)}
    (listed : scope.list directoriesOnly directory = .ok names)
    (leaves : ∀ name ∈ names, scope.list directoriesOnly (Glob.beneath directory name) = .ok [])
    (depth : Nat) :
    scope.descend directoriesOnly (depth + 1) directory =
      .ok (names.filter fun name => scope.hidden || !isHidden name) := by
  have each :
      ∀ name ∈ names.filter fun name => scope.hidden || !isHidden name,
        (do
          let paths ← scope.descend directoriesOnly depth (Glob.beneath directory name)
          return name :: paths.map (Glob.beneath name)) =
          (pure [name] : Except Fault (List (List Char))) := by
    intro name member
    rw [descend_of_list_nil (leaves name (List.mem_filter.mp member).1)]
    rfl
  unfold descend
  rw [listed]
  dsimp only [bind, Except.bind] at each ⊢
  rw [mapM_congr each, List.mapM_pure]
  exact congrArg Except.ok (List.flatMap_singleton' _)

/-- A descent that may still pass as many directories as are left finds all that lies below. -/
theorem descend_add
    (named : scope.tree.WellNamed)
    (acyclic : scope.tree.Acyclic)
    (directoriesOnly : Bool)
    {directory : List Char}
    (clean : '\x00' ∉ directory)
    {passed : List (List String)}
    (way : scope.Passed passed directory)
    {depth : Nat}
    (enough : scope.tree.entries.length + 1 ≤ passed.length + depth)
    (more : Nat) :
    scope.descend directoriesOnly (depth + more) directory =
      scope.descend directoriesOnly depth directory := by
  obtain ⟨names, listed, proper⟩ := list_yields named directoriesOnly clean
  induction depth generalizing directory passed names with
  | zero =>
      -- All directories have been passed, so that this one lists nothing.
      have nothing : names = [] := by
        refine List.eq_nil_iff_forall_not_mem.mpr fun name member => ?_
        obtain ⟨place, denotes, -⟩ := exists_denotes_of_list listed member
        have fewer := way.length_le acyclic denotes
        omega
      subst nothing
      rw [descend_of_list_nil listed, descend_of_list_nil listed]
  | succ depth ih =>
      have deeper :
          ∀ name ∈ names,
            scope.descend directoriesOnly (depth + more) (Glob.beneath directory name) =
              scope.descend directoriesOnly depth (Glob.beneath directory name) := by
        intro name member
        obtain ⟨place, denotes, inside⟩ := exists_denotes_of_list listed member
        have below : '\x00' ∉ Glob.beneath directory name :=
          null_not_mem_beneath clean (proper name member).2.clean
        obtain ⟨further, given, kinds⟩ := list_yields named directoriesOnly below
        have left : scope.tree.entries.length + 1 ≤ (place :: passed).length + depth := by
          rw [List.length_cons]
          omega
        exact ih below (way.beneath named acyclic denotes inside) left further given kinds
      rw [Nat.succ_add]
      unfold descend
      rw [listed]
      dsimp only [bind, Except.bind]
      have visible :
          ∀ name ∈ names.filter fun name => scope.hidden || !isHidden name, name ∈ names :=
        fun name member => (List.mem_filter.mp member).1
      rw [mapM_congr fun name member => by rw [deeper name (visible name member)]]

/-- In a tree without cycles a descent within its bound finds all that a deeper one finds. -/
theorem descend_of_bound
    (named : scope.tree.WellNamed)
    (acyclic : scope.tree.Acyclic)
    (directoriesOnly : Bool)
    {directory : List Char}
    (clean : '\x00' ∉ directory)
    (more : Nat) :
    scope.descend directoriesOnly (scope.tree.entries.length + 1 + more) directory =
      scope.descend directoriesOnly (scope.tree.entries.length + 1) directory := by
  have enough :
      scope.tree.entries.length + 1 ≤ ([] : List (List String)).length +
        (scope.tree.entries.length + 1) :=
    Nat.le_add_left _ _
  exact descend_add named acyclic directoriesOnly clean .nil enough more

end Scope

end ConfigTokens.Glob
