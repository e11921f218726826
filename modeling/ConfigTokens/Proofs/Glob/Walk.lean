import ConfigTokens.Glob.Walk
import ConfigTokens.Proofs.FileTree.Names
import ConfigTokens.Proofs.Wildcard.Covers
/-!
# What a walk finds

The walk for a pattern and the matching of segments go different ways: the walk works on the last segment
within the directories that the rest of the pattern matches, and tells literal text, names with wildcards
and the pattern for any number of segments apart. Yet each path that it finds is covered by the segments
of the pattern. A path that is found holds no segment that stays, if the pattern holds none, since no
directory lists such a name.

How a walk takes a pattern apart is said once: by its shape it finds itself, or what its last segment matches
in the root, in the directory that the rest names, or in each directory that the rest finds. Whatever is proved
of a walk goes by these cases.

The walk ends with an error only if it reads a directory with a null character in its path. It reads none
if the root and the pattern are free of them.
-/

namespace ConfigTokens.Glob

open ConfigTokens.Path
open ConfigTokens.Wildcard

/-! ## Computations that end well -/

/-- A computation ends without an error, with a result of a kind. -/
def Yields
    {ε α : Type}
    (action : Except ε α)
    (kind : α → Prop) : Prop :=
  ∃ result, action = .ok result ∧ kind result

namespace Yields

variable {ε α β : Type}

theorem ok
    {result : α}
    {kind : α → Prop}
    (kept : kind result) :
    Yields (.ok result : Except ε α) kind :=
  ⟨result, rfl, kept⟩

theorem bind
    {action : Except ε α}
    {next : α → Except ε β}
    {first : α → Prop}
    {second : β → Prop}
    (begins : Yields action first)
    (goesOn : ∀ result, first result → Yields (next result) second) :
    Yields (action >>= next) second := by
  obtain ⟨result, rfl, kept⟩ := begins
  exact goesOn result kept

/-- If it is so for each element, all of them together give a list of results of the kind. -/
theorem mapM
    {action : α → Except ε β}
    {kind : β → Prop}
    {elements : List α}
    (each : ∀ element ∈ elements, Yields (action element) kind) :
    Yields (elements.mapM action) (∀ result ∈ ·, kind result) := by
  induction elements with
  | nil => exact ok (List.forall_mem_nil kind)
  | cons element rest ih =>
      obtain ⟨first, others⟩ := List.forall_mem_cons.mp each
      rw [List.mapM_cons]
      refine first.bind fun result kept => ?_
      refine (ih others).bind fun results all => ?_
      exact ok (List.forall_mem_cons.mpr ⟨kept, all⟩)

theorem mapM_flatten
    {action : α → Except ε (List β)}
    {kind : β → Prop}
    {elements : List α}
    (each : ∀ element ∈ elements, Yields (action element) (∀ result ∈ ·, kind result)) :
    Yields (do return (← elements.mapM action).flatten) (∀ result ∈ ·, kind result) := by
  refine (mapM each).bind fun lists all => ?_
  refine ok fun result member => ?_
  obtain ⟨list, among, inside⟩ := List.mem_flatten.mp member
  exact all list among result inside

end Yields

/-! ## Paths below a directory -/

/-- A path that leads from a directory to something below it or to itself. -/
structure IsInner
    (path : List Char) : Prop where
  clean : '\x00' ∉ path
  stays : here ∉ segments path
  relative : isAbsolute path = false

theorem isInner_nil :
    IsInner [] :=
  ⟨List.not_mem_nil, List.not_mem_nil, rfl⟩

theorem isInner_of_isName
    {name : List Char}
    (single : IsName name)
    (stays : name ≠ here)
    (clean : '\x00' ∉ name) :
    IsInner name := by
  refine ⟨clean, fun member => ?_, not_isAbsolute_of_isName single⟩
  rw [segments_of_isName single] at member
  exact stays (List.mem_singleton.mp member).symm

theorem null_not_mem_join
    {base path : List Char}
    (baseClean : '\x00' ∉ base)
    (pathClean : '\x00' ∉ path) :
    '\x00' ∉ join base path := by
  unfold join
  split
  case isTrue => exact pathClean
  case isFalse => split <;> simp [baseClean, pathClean]

theorem null_not_mem_beneath
    {directory name : List Char}
    (directoryClean : '\x00' ∉ directory)
    (nameClean : '\x00' ∉ name) :
    '\x00' ∉ beneath directory name := by
  unfold beneath
  split
  case isTrue => exact nameClean
  case isFalse =>
      split
      case isTrue => exact directoryClean
      case isFalse => exact null_not_mem_join directoryClean nameClean

/-- A path below a name leads further down. -/
theorem IsInner.beneath
    {name path : List Char}
    (upper : IsInner name)
    (lower : IsInner path) :
    IsInner (beneath name path) := by
  refine ⟨null_not_mem_beneath upper.clean lower.clean, ?_, ?_⟩
  · unfold Glob.beneath
    split
    case isTrue => exact lower.stays
    case isFalse =>
        split
        case isTrue => exact upper.stays
        case isFalse =>
            rw [segments_join_of_relative name lower.relative, List.mem_append, not_or]
            exact ⟨upper.stays, lower.stays⟩
  · unfold Glob.beneath
    split
    case isTrue => exact lower.relative
    case isFalse =>
        split
        case isTrue => exact upper.relative
        case isFalse => rw [isAbsolute_join, upper.relative, lower.relative, Bool.or_self]

namespace Scope

variable {Content : Type}
variable {scope : Scope Content}

/-! ## Reading directories -/

/-- A directory whose path is clean can be listed, and its names lead into it. -/
theorem list_yields
    (named : scope.tree.WellNamed)
    (directoriesOnly : Bool)
    {directory : List Char}
    (clean : '\x00' ∉ directory) :
    Yields (scope.list directoriesOnly directory) (∀ name ∈ ·, IsName name ∧ IsInner name) := by
  have listed (place : String) :
      ∀ name ∈ (scope.tree.list scope.cwd place).map String.toList, IsName name ∧ IsInner name := by
    intro name member
    obtain ⟨text, among, rfl⟩ := List.mem_map.mp member
    obtain ⟨⟨single, stays, -⟩, pure⟩ := named.list among
    exact ⟨single, isInner_of_isName single stays pure⟩
  unfold Scope.list
  rw [if_neg (by simpa using clean)]
  refine .ok fun name member => ?_
  split at member
  case isTrue => exact listed _ name (List.mem_filter.mp member).1
  case isFalse => exact listed _ name member

/-- The descent from a clean directory lists paths that lead below it. -/
theorem descend_yields
    (named : scope.tree.WellNamed)
    (directoriesOnly : Bool)
    (depth : Nat)
    {directory : List Char}
    (clean : '\x00' ∉ directory) :
    Yields (scope.descend directoriesOnly depth directory) (∀ path ∈ ·, IsInner path) := by
  induction depth generalizing directory with
  | zero => exact .ok (List.forall_mem_nil IsInner)
  | succ depth deeper =>
      unfold descend
      refine (list_yields named directoriesOnly clean).bind fun names proper => ?_
      refine Yields.mapM_flatten fun name member => ?_
      have inner : IsInner name := (proper name (List.mem_filter.mp member).1).2
      refine (deeper (null_not_mem_beneath clean inner.clean)).bind fun paths all => ?_
      refine .ok (List.forall_mem_cons.mpr ⟨inner, fun path below => ?_⟩)
      obtain ⟨further, among, rfl⟩ := List.mem_map.mp below
      exact inner.beneath (all further among)

/-! ## The last segment of a pattern -/

theorem matchBelow_yields
    (named : scope.tree.WellNamed)
    (directoriesOnly : Bool)
    {directory : List Char}
    (clean : '\x00' ∉ directory) :
    Yields (scope.matchBelow directoriesOnly directory) (∀ path ∈ ·, IsInner path) := by
  unfold matchBelow
  refine (descend_yields named directoriesOnly _ clean).bind fun paths inner => ?_
  refine .ok fun path member => ?_
  rcases List.mem_append.mp member with self | below
  · split at self
    · rw [List.mem_singleton.mp self]
      exact isInner_nil
    · cases self
  · exact inner path below

/-- What a pattern of one segment takes of the names in a directory. -/
def taken
    (scope : Scope Content)
    (pattern : List Char)
    (names : List (List Char)) : List (List Char) :=
  (if scope.hidden || !isHidden pattern then names.filter fun name => scope.hidden || !isHidden name
    else names).filter (accepts pattern)

theorem taken_sublist
    (pattern : List Char)
    (names : List (List Char)) :
    (scope.taken pattern names).Sublist names := by
  refine List.filter_sublist.trans ?_
  split
  case isTrue => exact List.filter_sublist
  case isFalse => exact List.Sublist.refl names

theorem accepts_of_mem_taken
    {pattern name : List Char}
    {names : List (List Char)}
    (member : name ∈ scope.taken pattern names) :
    accepts pattern name = true :=
  (List.mem_filter.mp member).2

theorem matchNames_eq
    (directoriesOnly : Bool)
    (directory pattern : List Char) :
    scope.matchNames directoriesOnly directory pattern = (do
      let names ← scope.list directoriesOnly directory
      .ok (scope.taken pattern names)) := rfl

theorem matchNames_yields
    (named : scope.tree.WellNamed)
    (directoriesOnly : Bool)
    {directory : List Char}
    (clean : '\x00' ∉ directory)
    (pattern : List Char) :
    Yields (scope.matchNames directoriesOnly directory pattern)
      (∀ name ∈ ·, (IsName name ∧ IsInner name) ∧ accepts pattern name = true) := by
  rw [matchNames_eq]
  exact (list_yields named directoriesOnly clean).bind fun names proper =>
    .ok fun name member =>
      ⟨proper name ((taken_sublist pattern names).subset member), accepts_of_mem_taken member⟩

theorem eq_of_mem_matchLiteral
    {directory name path : List Char}
    (member : path ∈ scope.matchLiteral directory name) :
    path = name := by
  unfold matchLiteral at member
  split at member
  all_goals
    split at member
    · exact List.mem_singleton.mp member
    · cases member

/-- What the last segment of a pattern finds in a clean directory leads below it and is covered. -/
theorem matchLast_yields
    (named : scope.tree.WellNamed)
    (directoriesOnly : Bool)
    {directory last : List Char}
    (clean : '\x00' ∉ directory)
    (lastClean : '\x00' ∉ last)
    (single : '/' ∉ last)
    (stays : last ≠ here) :
    Yields (scope.matchLast directoriesOnly directory last)
      (∀ path ∈ ·, IsInner path ∧ Covers (segments last) (segments path)) := by
  unfold matchLast
  split
  case isTrue any =>
      subst any
      obtain ⟨paths, given, inner⟩ := matchBelow_yields named directoriesOnly clean
      exact ⟨paths, given, fun path member => ⟨inner path member, covers_anySegments (segments path)⟩⟩
  case isFalse other =>
      split
      case isTrue magic =>
          have filled : last ≠ [] := by
            rintro rfl
            cases magic
          obtain ⟨names, given, fit⟩ := matchNames_yields named directoriesOnly clean last
          refine ⟨names, given, fun name member => ?_⟩
          obtain ⟨⟨alone, inner⟩, accepted⟩ := fit name member
          rw [segments_of_isName ⟨filled, single⟩, segments_of_isName alone]
          exact ⟨inner, covers_singleton accepted⟩
      case isFalse literal =>
          have plain : isMagic last = false := Bool.eq_false_iff.mpr literal
          refine .ok fun path member => ?_
          rw [eq_of_mem_matchLiteral member]
          by_cases empty : last = []
          · subst empty
            exact ⟨isInner_nil, .nil⟩
          · rw [segments_of_isName ⟨empty, single⟩]
            exact ⟨isInner_of_isName ⟨empty, single⟩ stays lastClean,
              covers_singleton (accepts_self plain)⟩

end Scope

/-! ## Whole patterns -/

/-- A path as a walk for a pattern can find it. -/
structure Fits
    (pattern path : List Char) : Prop where
  clean : '\x00' ∉ path
  stays : here ∉ segments path
  covered : Covers (segments pattern) (segments path)
  /-- A pattern without segments finds nothing but itself. -/
  bare : segments pattern = [] → path = pattern

theorem fits_self
    {pattern : List Char}
    (plain : isMagic pattern = false)
    (clean : '\x00' ∉ pattern)
    (stays : here ∉ segments pattern) :
    Fits pattern pattern := by
  refine ⟨clean, stays, covers_self fun segment member => ?_, fun _ => rfl⟩
  refine List.any_eq_false.mpr fun c inside => ?_
  exact List.any_eq_false.mp plain c (mem_of_mem_segments member inside)

/-- A pattern with special characters has segments. -/
theorem segments_ne_nil_of_isMagic
    {pattern : List Char}
    (magic : isMagic pattern = true) :
    segments pattern ≠ [] := by
  obtain ⟨c, inside, special⟩ := List.any_eq_true.mp magic
  have other : c ≠ '/' := by
    rintro rfl
    cases special
  obtain ⟨segment, member, -⟩ := exists_mem_segments inside other
  exact List.ne_nil_of_mem member

/-- What the last segment finds in a directory that the rest of the pattern finds fits the pattern. -/
theorem Fits.join
    {pattern place name : List Char}
    (magic : isMagic pattern = true)
    (front : Fits (directory pattern) place)
    (inner : IsInner name)
    (covered : Covers (segments (baseName pattern)) (segments name)) :
    Fits pattern (join place name) := by
  have parts := segments_join_of_relative place inner.relative
  refine ⟨null_not_mem_join front.clean inner.clean, ?_, ?_, fun none => ?_⟩
  · rw [parts, List.mem_append, not_or]
    exact ⟨front.stays, inner.stays⟩
  · rw [parts, ← segments_directory_append pattern]
    exact front.covered.append covered
  · exact absurd none (segments_ne_nil_of_isMagic magic)

/-- How a walk takes a pattern apart: by its last segment, if there are special characters. -/
inductive Shape (pattern : List Char) : Prop where
  | plain : isMagic pattern = false → Shape pattern
  /-- There is nothing in front of the last segment. -/
  | alone : isMagic pattern = true → directory pattern = [] → Shape pattern
  /-- The special characters are in the last segment. -/
  | last : isMagic pattern = true → directory pattern ≠ [] → isMagic (directory pattern) = false → Shape pattern
  /-- There are special characters in front of the last segment. -/
  | special : isMagic pattern = true → isMagic (directory pattern) = true → Shape pattern

theorem isMagic_of_directory
    {pattern : List Char}
    (front : isMagic (directory pattern) = true) :
    isMagic pattern = true := by
  obtain ⟨c, inside, special⟩ := List.any_eq_true.mp front
  exact List.any_eq_true.mpr ⟨c, mem_of_mem_directory inside, special⟩

theorem shape
    (pattern : List Char) :
    Shape pattern := by
  by_cases front : isMagic (directory pattern) = true
  · exact .special (isMagic_of_directory front) front
  · by_cases magic : isMagic pattern = true
    · by_cases alone : directory pattern = []
      · exact .alone magic alone
      · exact .last magic alone (Bool.eq_false_iff.mpr front)
    · exact .plain (Bool.eq_false_iff.mpr magic)

namespace Scope

variable {Content : Type}
variable {scope : Scope Content}

/-- Something stands where a pattern without special characters says, a directory if it ends in a slash. -/
def Holds
    (scope : Scope Content)
    (pattern : List Char) : Prop :=
  if baseName pattern = [] then scope.isDirectory (beneath scope.root (directory pattern)) = true
  else scope.isPresent (beneath scope.root pattern) = true

instance (pattern : List Char) : Decidable (scope.Holds pattern) :=
  inferInstanceAs (Decidable (if baseName pattern = [] then _ = true else _ = true))

/-- The paths that a last segment matches in places one after the other. -/
def matchEach
    (scope : Scope Content)
    (directoriesOnly : Bool)
    (last : List Char)
    (places : List (List Char)) : Except Fault (List (List Char)) := do
  let found ← places.mapM fun place => do
    let names ← scope.matchLast directoriesOnly (Glob.beneath scope.root place) last
    return names.map (Path.join place)
  return found.flatten

theorem matchEach_singleton
    (directoriesOnly : Bool)
    (last place : List Char) :
    scope.matchEach directoriesOnly last [place] =
      List.map (join place) <$> scope.matchLast directoriesOnly (beneath scope.root place) last := by
  unfold matchEach
  rw [List.mapM_cons, List.mapM_nil]
  cases scope.matchLast directoriesOnly (beneath scope.root place) last with
  | error fault => rfl
  | ok names => exact congrArg Except.ok List.flatten_singleton

/-- A pattern without special characters finds itself or nothing. -/
theorem expandFrom_of_plain
    (fuel : Nat)
    (directoriesOnly : Bool)
    {pattern : List Char}
    (plain : isMagic pattern = false) :
    scope.expandFrom (fuel + 1) directoriesOnly pattern =
      .ok (if scope.Holds pattern then [pattern] else []) := by
  unfold expandFrom Holds
  dsimp only
  rw [if_pos (by simp [plain])]
  split <;> rfl

/-- A pattern of one segment with special characters is matched in the root. -/
theorem expandFrom_of_alone
    (fuel : Nat)
    (directoriesOnly : Bool)
    {pattern : List Char}
    (magic : isMagic pattern = true)
    (alone : directory pattern = []) :
    scope.expandFrom (fuel + 1) directoriesOnly pattern =
      scope.matchLast directoriesOnly scope.root (baseName pattern) := by
  unfold expandFrom
  dsimp only
  rw [if_neg (by simp [magic]), if_pos alone]

/-- If only the last segment has special characters, it is matched in the directory that the rest names. -/
theorem expandFrom_of_last
    (fuel : Nat)
    (directoriesOnly : Bool)
    {pattern : List Char}
    (magic : isMagic pattern = true)
    (below : directory pattern ≠ [])
    (plain : isMagic (directory pattern) = false) :
    scope.expandFrom (fuel + 1) directoriesOnly pattern =
      scope.matchEach directoriesOnly (baseName pattern) [directory pattern] := by
  unfold expandFrom
  dsimp only
  rw [if_neg (by simp [magic]), if_neg below, if_neg (by simp [plain])]
  rfl

/-- The last segment is matched in each directory that the rest of a pattern finds. -/
theorem expandFrom_of_special
    (fuel : Nat)
    (directoriesOnly : Bool)
    {pattern : List Char}
    (special : isMagic (directory pattern) = true) :
    scope.expandFrom (fuel + 1) directoriesOnly pattern =
      scope.expandFrom fuel true (directory pattern) >>=
        scope.matchEach directoriesOnly (baseName pattern) := by
  have magic := isMagic_of_directory special
  have filled : directory pattern ≠ [] := by
    intro empty
    rw [empty] at special
    cases special
  conv => lhs; unfold expandFrom
  dsimp only
  rw [if_neg (by simp [magic]), if_neg filled, if_pos special]
  rfl

/-- What the last segment finds in places that fit the rest of the pattern fits the pattern. -/
theorem matchEach_yields
    (named : scope.tree.WellNamed)
    (rootClean : '\x00' ∉ scope.root)
    (directoriesOnly : Bool)
    {pattern : List Char}
    (magic : isMagic pattern = true)
    (lastClean : '\x00' ∉ baseName pattern)
    (lastStays : baseName pattern ≠ here)
    {places : List (List Char)}
    (fronts : ∀ place ∈ places, Fits (directory pattern) place) :
    Yields (scope.matchEach directoriesOnly (baseName pattern) places) (∀ path ∈ ·, Fits pattern path) := by
  refine Yields.mapM_flatten fun place member => ?_
  have front := fronts place member
  have clean := null_not_mem_beneath rootClean front.clean
  have single := slash_not_mem_baseName pattern
  refine (matchLast_yields named directoriesOnly clean lastClean single lastStays).bind
    fun names inner => ?_
  refine .ok fun path inside => ?_
  obtain ⟨name, among, rfl⟩ := List.mem_map.mp inside
  obtain ⟨below, covered⟩ := inner name among
  exact front.join magic below covered

/-- The walk for a clean pattern below a clean root ends well, and what it finds fits the pattern. -/
theorem expandFrom_yields
    (named : scope.tree.WellNamed)
    (rootClean : '\x00' ∉ scope.root)
    (fuel : Nat)
    (directoriesOnly : Bool)
    {pattern : List Char}
    (clean : '\x00' ∉ pattern)
    (stays : here ∉ segments pattern) :
    Yields (scope.expandFrom fuel directoriesOnly pattern) (∀ path ∈ ·, Fits pattern path) := by
  induction fuel generalizing directoriesOnly pattern with
  | zero => exact .ok (List.forall_mem_nil (Fits pattern))
  | succ fuel shorter =>
      have whole := segments_directory_append pattern
      have lastClean : '\x00' ∉ baseName pattern := fun inside =>
        clean ((baseName_isSuffix pattern).subset inside)
      have lastStays : baseName pattern ≠ here := by
        intro same
        rw [same] at whole
        exact stays (whole ▸ List.mem_append_right _ List.mem_cons_self)
      have frontClean : '\x00' ∉ directory pattern := fun inside =>
        clean (mem_of_mem_directory inside)
      have frontStays : here ∉ segments (directory pattern) := fun inside =>
        stays (whole ▸ List.mem_append_left _ inside)
      cases shape pattern with
      | plain literal =>
          rw [expandFrom_of_plain fuel directoriesOnly literal]
          refine .ok fun path member => ?_
          split at member
          · rw [List.mem_singleton.mp member]
            exact fits_self literal clean stays
          · cases member
      | alone magic none =>
          rw [expandFrom_of_alone fuel directoriesOnly magic none]
          obtain ⟨found, given, inner⟩ :=
            matchLast_yields named directoriesOnly rootClean lastClean
              (slash_not_mem_baseName pattern) lastStays
          refine ⟨found, given, fun path member => ?_⟩
          obtain ⟨below, covered⟩ := inner path member
          rw [none, segments_nil, List.nil_append] at whole
          exact ⟨below.clean, below.stays, whole ▸ covered,
            fun none => absurd none (segments_ne_nil_of_isMagic magic)⟩
      | last magic below literal =>
          rw [expandFrom_of_last fuel directoriesOnly magic below literal]
          exact matchEach_yields named rootClean directoriesOnly magic lastClean lastStays
            (List.forall_mem_singleton.mpr (fits_self literal frontClean frontStays))
      | special magic front =>
          rw [expandFrom_of_special fuel directoriesOnly front]
          exact (shorter true frontClean frontStays).bind fun places fronts =>
            matchEach_yields named rootClean directoriesOnly magic lastClean lastStays fronts

/-- What is found, less the root if a pattern leaves that out: an empty one, or one that begins with two
stars. -/
def withoutRoot
    (pattern : List Char)
    (found : List (List Char)) : List (List Char) :=
  if pattern = [] || pattern.take 2 = anySegments then
    match found with
    | [] :: rest => rest
    | _ => found
  else found

theorem withoutRoot_of_unlike
    {pattern : List Char}
    (filled : pattern ≠ [])
    (unlike : pattern.take 2 ≠ anySegments)
    (found : List (List Char)) :
    withoutRoot pattern found = found := by
  simp [withoutRoot, filled, unlike]

/-- At most the root is left out, which is found first. -/
theorem withoutRoot_cases
    (pattern : List Char)
    (found : List (List Char)) :
    withoutRoot pattern found = found ∨ found = [] :: withoutRoot pattern found := by
  unfold withoutRoot
  split
  case isTrue =>
      split
      case h_1 rest => exact .inr rfl
      case h_2 => exact .inl rfl
  case isFalse => exact .inl rfl

theorem withoutRoot_sublist
    (pattern : List Char)
    (found : List (List Char)) :
    (withoutRoot pattern found).Sublist found := by
  rcases withoutRoot_cases pattern found with same | also
  · rw [same]
  · have fewer := List.sublist_cons_self [] (withoutRoot pattern found)
    rwa [← also] at fewer

/-- A pattern finds what the walk for it finds, but for the root. -/
theorem expand_eq
    (pattern : List Char) :
    scope.expand pattern = (do
      let found ← scope.expandFrom (pattern.length + 1) false pattern
      .ok (withoutRoot pattern found)) := by
  unfold expand
  refine congrArg (scope.expandFrom (pattern.length + 1) false pattern >>= ·) (funext fun found => ?_)
  unfold withoutRoot
  split
  · match found with
    | [] => rfl
    | [] :: rest => rfl
    | (c :: name) :: rest => rfl
  · rfl

/-- Only a pattern that begins with two stars, or the empty one, leaves the root out. -/
theorem expand_eq_expandFrom
    {pattern : List Char}
    (filled : pattern ≠ [])
    (unlike : pattern.take 2 ≠ anySegments) :
    scope.expand pattern = scope.expandFrom (pattern.length + 1) false pattern := by
  rw [expand_eq]
  simp only [withoutRoot_of_unlike filled unlike]
  exact bind_pure _

/-- The empty pattern finds nothing. -/
theorem expand_nil :
    scope.expand [] = .ok [] := by
  rw [expand_eq, expandFrom_of_plain _ _ rfl]
  split <;> rfl

/-- All that a clean pattern finds below a clean root fits the pattern. -/
theorem expand_yields
    (named : scope.tree.WellNamed)
    (rootClean : '\x00' ∉ scope.root)
    {pattern : List Char}
    (clean : '\x00' ∉ pattern)
    (stays : here ∉ segments pattern) :
    Yields (scope.expand pattern) (∀ path ∈ ·, Fits pattern path) := by
  rw [expand_eq]
  exact (expandFrom_yields named rootClean _ false clean stays).bind fun found fits =>
    .ok fun path member => fits path ((withoutRoot_sublist pattern found).subset member)

end Scope

end ConfigTokens.Glob
