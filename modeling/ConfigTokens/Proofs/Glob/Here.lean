import Mathlib.Data.List.TakeWhile
import ConfigTokens.Proofs.Glob.Standing
/-!
# Walks behind a segment that stays

In front of the pattern that is searched for, a segment that stays only respells what is found: the walk finds
what it finds below that segment, with the segment in front (`Scope.expandFrom_join_here`). The walk is compared
with one whose root ends in the segment, since with two characters more a path may be too long to be looked up.
-/

namespace ConfigTokens

namespace Path

/-- What stands before the last slash of a path is what stood there, behind a segment that stays. -/
theorem cutLast_join_here
    {path : List Char}
    (relative : isAbsolute path = false) :
    cutLast (join here path) = (here ++ '/' :: (cutLast path).1, (cutLast path).2) := by
  have shape : join here path = here ++ '/' :: path := by
    rw [join_eq_append here relative]
    rfl
  rw [shape]
  unfold cutLast
  cases cut : Text.beforeLast '/' path with
  | some parts =>
      obtain ⟨front, back⟩ := parts
      obtain ⟨rfl, single⟩ := Text.beforeLast_eq_some_iff.mp cut
      have whole : Text.beforeLast '/' (here ++ '/' :: (front ++ '/' :: back)) =
          some (here ++ '/' :: front, back) :=
        Text.beforeLast_eq_some_iff.mpr ⟨by simp, single⟩
      rw [whole]
      simp
  | none =>
      have whole : Text.beforeLast '/' (here ++ '/' :: path) = some (here, path) :=
        Text.beforeLast_eq_some_iff.mpr ⟨rfl, Text.beforeLast_eq_none_iff.mp cut⟩
      rw [whole]

theorem baseName_join_here
    {path : List Char}
    (relative : isAbsolute path = false) :
    baseName (join here path) = baseName path := by
  rw [baseName, cutLast_join_here relative]
  rfl

/-- The directory of a path behind a segment that stays is that of the path, behind the segment. -/
theorem directory_join_here
    {path : List Char}
    (relative : isAbsolute path = false) :
    directory (join here path) = if directory path = [] then here else join here (directory path) := by
  have start : isAbsolute (directory path) = false := by
    rw [isAbsolute_eq, lead_directory, ← isAbsolute_eq, relative]
  by_cases none : (cutLast path).1 = []
  · have empty : directory path = [] := by rw [directory, none]; rfl
    rw [if_pos empty, directory, cutLast_join_here relative, none]
    rfl
  · obtain ⟨c, rest, shape⟩ := List.exists_cons_of_ne_nil none
    have other : c ≠ '/' := by
      rintro rfl
      rw [← cutLast_append path, shape] at relative
      cases relative
    have special : ¬(cutLast path).1.all (· == '/') = true := by simp [shape, other]
    have stripped : directory path = ((cutLast path).1.reverse.dropWhile (· == '/')).reverse :=
      if_neg special
    have kept : (cutLast path).1.reverse.dropWhile (· == '/') ≠ [] := by
      intro empty
      rw [List.dropWhile_eq_nil_iff] at empty
      exact special (List.all_eq_true.mpr fun c member => empty c (List.mem_reverse.mpr member))
    have filled : directory path ≠ [] := by
      rw [stripped]
      simpa using kept
    rw [if_neg filled, join_eq_append here start, directory, cutLast_join_here relative]
    dsimp only
    rw [if_neg (by simp [here]), stripped, List.reverse_append, List.reverse_cons, List.append_assoc,
      List.dropWhile_append, if_neg (by simpa using kept)]
    simp [here, gap]

end Path

namespace Glob

open ConfigTokens.Path
open ConfigTokens.Wildcard

theorem isMagic_join_here
    {path : List Char}
    (relative : isAbsolute path = false) :
    isMagic (join here path) = isMagic path := by
  rw [join_eq_append here relative]
  rfl

/-- Steps that are renamed element by element give renamed results. -/
theorem mapM_flatten_map
    {ε α β γ : Type}
    {first : β → Except ε (List γ)}
    {second : α → Except ε (List γ)}
    {rename : α → β}
    {change : γ → γ}
    {elements : List α}
    (same : ∀ element ∈ elements, first (rename element) = List.map change <$> second element) :
    (do
      let found ← (elements.map rename).mapM first
      return found.flatten) =
      List.map change <$> (do
        let found ← elements.mapM second
        return found.flatten) := by
  have each :
      (elements.map rename).mapM first = List.map (List.map change) <$> elements.mapM second := by
    induction elements with
    | nil => rfl
    | cons element rest ih =>
        obtain ⟨here, others⟩ := List.forall_mem_cons.mp same
        rw [List.map_cons, List.mapM_cons, List.mapM_cons, here, ih others]
        simp
  rw [each]
  simp [List.map_flatten]

namespace Scope

variable {Content : Type}
variable {scope : Scope Content}

/-! ## Two spellings of a directory -/

/-- Two paths to a directory that look up the same. -/
structure Alike
    (scope : Scope Content)
    (one other : List Char) : Prop where
  filled : one ≠ [] ∧ other ≠ []
  clean : '\x00' ∈ one ↔ '\x00' ∈ other
  denotes : ∀ place, scope.Denotes one place ↔ scope.Denotes other place
  join : ∀ name, isAbsolute name = false → join one name = join other name

namespace Alike

variable {one other : List Char}

theorem refl
    (filled : one ≠ []) :
    scope.Alike one one :=
  ⟨⟨filled, filled⟩, Iff.rfl, fun _ => Iff.rfl, fun _ _ => rfl⟩

theorem isDirectory
    (alike : scope.Alike one other) :
    scope.isDirectory one = scope.isDirectory other := by
  have same : scope.isDirectory one = true ↔ scope.isDirectory other = true := by
    rw [isDirectory_iff alike.filled.1, isDirectory_iff alike.filled.2]
    exact exists_congr alike.denotes
  exact Bool.eq_iff_iff.mpr same

theorem list
    (alike : scope.Alike one other)
    (named : scope.tree.WellNamed)
    (directoriesOnly : Bool) :
    scope.list directoriesOnly one = scope.list directoriesOnly other := by
  have listed :
      scope.tree.list scope.cwd (String.ofList one) = scope.tree.list scope.cwd (String.ofList other) := by
    have same := alike.denotes
    unfold Denotes at same
    rw [if_neg alike.filled.1, if_neg alike.filled.2] at same
    exact FileTree.list_congr same
  have shape {path : List Char} (filled : path ≠ []) :
      scope.list directoriesOnly path =
        if '\x00' ∈ path then .error .embeddedNull
        else
          let names := (scope.tree.list scope.cwd (String.ofList path)).map String.toList
          .ok (if directoriesOnly then names.filter fun name => scope.isDirectory (Path.join path name)
            else names) := by
    simp [Scope.list, filled]
  rw [shape alike.filled.1, shape alike.filled.2, listed, if_congr alike.clean rfl rfl]
  have directories :
      ∀ name ∈ (scope.tree.list scope.cwd (String.ofList other)).map String.toList,
        scope.isDirectory (Path.join one name) = scope.isDirectory (Path.join other name) := by
    intro name member
    obtain ⟨text, inside, rfl⟩ := List.mem_map.mp member
    rw [alike.join text.toList (not_isAbsolute_of_isName (named.list inside).1.1)]
  dsimp only
  rw [List.filter_congr directories]

/-- The names in a directory lead to the same places. -/
theorem beneath
    (alike : scope.Alike one other)
    {name : List Char}
    (single : IsName name) :
    Glob.beneath one name = Glob.beneath other name := by
  rw [beneath_eq_join alike.filled.1 single.1, beneath_eq_join alike.filled.2 single.1,
    alike.join name (not_isAbsolute_of_isName single)]

theorem descend
    (alike : scope.Alike one other)
    (named : scope.tree.WellNamed)
    (directoriesOnly : Bool)
    (depth : Nat) :
    scope.descend directoriesOnly depth one = scope.descend directoriesOnly depth other := by
  cases depth with
  | zero => rfl
  | succ depth =>
      unfold Scope.descend
      rw [alike.list named]
      cases listed : scope.list directoriesOnly other with
      | error => rfl
      | ok names =>
          refine congrArg
            (fun action : Except Fault (List (List (List Char))) => action >>= fun below => pure below.flatten)
            (mapM_congr fun name member => ?_)
          have proper := isProper_of_list named listed (List.mem_filter.mp member).1
          rw [alike.beneath proper.1]

/-- The last segment of a pattern finds the same. -/
theorem matchLast
    (alike : scope.Alike one other)
    (named : scope.tree.WellNamed)
    (directoriesOnly : Bool)
    {last : List Char}
    (single : '/' ∉ last) :
    scope.matchLast directoriesOnly one last = scope.matchLast directoriesOnly other last := by
  unfold Scope.matchLast matchBelow matchNames matchLiteral
  rw [alike.descend named, alike.list named, alike.isDirectory, decide_eq_false alike.filled.1,
    decide_eq_false alike.filled.2]
  by_cases none : last = []
  · rw [if_pos none, if_pos none]
  · rw [if_neg none, if_neg none, alike.beneath ⟨none, single⟩]

end Alike

/-- A directory is denoted by any path with the same steps that can be looked up. -/
theorem Denotes.respelled
    {path other : List Char}
    {place : List String}
    (denotes : scope.Denotes path place)
    (rooted : isAbsolute path = true)
    (start : isAbsolute other = true)
    (clean : '\x00' ∉ path → '\x00' ∉ other)
    (short : FileTree.byteLength (String.ofList other) < 4096)
    (same : steps path = steps other) :
    scope.Denotes other place := by
  obtain ⟨pure, way⟩ := way_of_denotes rooted denotes
  unfold Denotes
  rw [if_neg (ne_nil_of_isAbsolute start), FileTree.find_eq_walk start (clean pure) short,
    FileTree.walk_eq_ok_iff]
  exact way.respell same

/-! ## The walk for a pattern behind a segment that stays -/

/-- The same walk, below the root and a segment that stays. -/
def stay
    (scope : Scope Content) : Scope Content :=
  { scope with root := join scope.root here }

theorem descend_stay
    (directoriesOnly : Bool)
    (depth : Nat)
    (directory : List Char) :
    scope.stay.descend directoriesOnly depth directory = scope.descend directoriesOnly depth directory := by
  induction depth generalizing directory with
  | zero => rfl
  | succ depth ih =>
      unfold descend
      simp only [ih]
      rfl

theorem matchLast_stay
    (directoriesOnly : Bool)
    (directory last : List Char) :
    scope.stay.matchLast directoriesOnly directory last =
      scope.matchLast directoriesOnly directory last := by
  unfold matchLast matchBelow
  rw [descend_stay]
  rfl

section

variable (named : scope.tree.WellNamed)
variable (rooted : isAbsolute scope.root = true)
variable (short : FileTree.byteLength (String.ofList (join (join scope.root here) [])) < 4096)

include rooted short

/-- A slash behind the segment that stays makes no difference, if it does not make the path too long. -/
theorem alike_slash :
    scope.Alike (join (join scope.root here) []) (join scope.root here) := by
  have start : isAbsolute (join scope.root here) = true := by rw [isAbsolute_join, rooted]; rfl
  have below := ne_nil_of_isAbsolute start
  have closed : isAbsolute (join (join scope.root here) []) = true := by rw [isAbsolute_join, start]; rfl
  have longer : join (join scope.root here) [] = join scope.root here ++ gap (join scope.root here) := by
    rw [join_eq_append _ rfl, List.append_nil]
  have shorter : FileTree.byteLength (String.ofList (join scope.root here)) < 4096 :=
    Nat.lt_of_le_of_lt (FileTree.byteLength_le (longer ▸ List.sublist_append_left _ _)) short
  have same : steps (join (join scope.root here) []) = steps (join scope.root here) := by
    rw [steps_join _ rfl]
    exact List.append_nil _
  have clean : '\x00' ∈ join (join scope.root here) [] ↔ '\x00' ∈ join scope.root here := by
    rw [longer, List.mem_append]
    refine or_iff_left fun inside => ?_
    unfold gap at inside
    split at inside <;> simp at inside
  refine ⟨⟨ne_nil_of_isAbsolute closed, below⟩, clean, fun place => ⟨fun denotes => ?_, fun denotes => ?_⟩, ?_⟩
  · exact denotes.respelled closed start (mt clean.mpr) shorter same
  · exact denotes.respelled start closed (mt clean.mp) short same.symm
  · intro name relative
    rw [join_join _ [] relative]
    congr 1
    simp [join, relative]

/-- Below the root and a segment that stays, paths are looked up as they are behind such a segment below the
root. -/
theorem alike_beneath
    {path : List Char}
    (relative : isAbsolute path = false) :
    scope.Alike (beneath scope.root (join here path)) (beneath scope.stay.root path) := by
  have filled := ne_nil_of_isAbsolute rooted
  have below : join scope.root here ≠ [] := join_ne_nil filled rfl
  have shown : join here path ≠ [] := join_ne_nil (by decide) relative
  have joined : beneath scope.root (join here path) = join (join scope.root here) path := by
    rw [beneath_eq_join filled shown, join_join scope.root here relative]
  rw [joined]
  by_cases none : path = []
  · subst none
    have root : beneath scope.stay.root [] = join scope.root here := (if_neg below).trans (if_pos rfl)
    rw [root]
    exact alike_slash rooted short
  · have same : beneath scope.stay.root path = join (join scope.root here) path := beneath_eq_join below none
    rw [same]
    exact .refl (join_ne_nil below relative)

/-- The directory of a pattern behind a segment that stays is looked up as below that segment. -/
theorem alike_directory
    {path : List Char}
    (relative : isAbsolute path = false) :
    scope.Alike (beneath scope.root (Path.directory (join here path)))
      (beneath scope.stay.root (Path.directory path)) := by
  rw [directory_join_here relative]
  split
  case isTrue none =>
      have filled := ne_nil_of_isAbsolute rooted
      have below : join scope.root here ≠ [] := join_ne_nil filled rfl
      have root : beneath scope.stay.root [] = join scope.root here := (if_neg below).trans (if_pos rfl)
      rw [none, root, beneath_eq_join filled (by decide)]
      exact .refl below
  case isFalse => exact alike_beneath rooted short (relative_keptByWalks.directory relative)

/-- What a pattern without special characters says stands behind a segment that stays as below that segment. -/
theorem holds_join_here
    {pattern : List Char}
    (relative : isAbsolute pattern = false)
    (filled : pattern ≠ []) :
    scope.Holds (join here pattern) ↔ scope.stay.Holds pattern := by
  have root := ne_nil_of_isAbsolute rooted
  have below : join scope.root here ≠ [] := join_ne_nil root rfl
  have joined : beneath scope.stay.root pattern = join (join scope.root here) pattern :=
    beneath_eq_join below filled
  have present : scope.isPresent (beneath scope.root (join here pattern)) =
      scope.stay.isPresent (beneath scope.stay.root pattern) := by
    rw [joined, join_join scope.root here relative, beneath_eq_join root (join_ne_nil (by decide) relative)]
    rfl
  unfold Holds
  rw [baseName_join_here relative, present, (alike_directory rooted short relative).isDirectory]
  rfl

include named

/-- In a place behind a segment that stays, the last segment finds what it finds below that segment. -/
theorem matchLast_join_here
    (directoriesOnly : Bool)
    {last place : List Char}
    (single : '/' ∉ last)
    (relative : isAbsolute place = false) :
    (do
      let names ← scope.matchLast directoriesOnly (beneath scope.root (join here place)) last
      return names.map (join (join here place))) =
      List.map (join here) <$> (do
        let names ← scope.stay.matchLast directoriesOnly (beneath scope.stay.root place) last
        return names.map (join place)) := by
  rw [(alike_beneath rooted short relative).matchLast named directoriesOnly single, matchLast_stay]
  have names : Ensures (∀ name ∈ ·, isAbsolute name = false)
      (scope.matchLast directoriesOnly (beneath scope.stay.root place) last) :=
    matchLast_ensures named relative_keptByWalks directoriesOnly _ (isAbsolute_of_single single)
  cases matched : scope.matchLast directoriesOnly (beneath scope.stay.root place) last with
  | error fault => rfl
  | ok found =>
      rw [matched] at names
      have joined : found.map (join (join here place)) = (found.map (join place)).map (join here) := by
        rw [List.map_map]
        exact List.map_congr_left fun name member => join_join here place (names name member)
      exact congrArg Except.ok joined

theorem matchEach_join_here
    (directoriesOnly : Bool)
    {last : List Char}
    (single : '/' ∉ last)
    {places : List (List Char)}
    (relatives : ∀ place ∈ places, isAbsolute place = false) :
    scope.matchEach directoriesOnly last (places.map (join here)) =
      List.map (join here) <$> scope.stay.matchEach directoriesOnly last places :=
  mapM_flatten_map fun _ member =>
    matchLast_join_here named rooted short directoriesOnly single (relatives _ member)

/-- What is found for a pattern behind a segment that stays is found below that segment, with it in front. -/
theorem expandFrom_join_here
    (fuel : Nat)
    (directoriesOnly : Bool)
    {pattern : List Char}
    (relative : isAbsolute pattern = false)
    (filled : pattern ≠ []) :
    scope.expandFrom fuel directoriesOnly (join here pattern) =
      List.map (join here) <$> scope.stay.expandFrom fuel directoriesOnly pattern := by
  induction fuel generalizing directoriesOnly pattern with
  | zero => rfl
  | succ fuel shorter =>
      have front := relative_keptByWalks.directory relative
      have single := slash_not_mem_baseName pattern
      have whole := directory_join_here relative
      have last := baseName_join_here relative
      have magicToo := isMagic_join_here relative
      have frontToo := isMagic_join_here front
      cases shape pattern with
      | plain literal =>
          rw [expandFrom_of_plain _ _ literal, expandFrom_of_plain _ _ (magicToo.trans literal),
            if_congr (holds_join_here rooted short relative filled) rfl rfl]
          refine congrArg Except.ok ?_
          rw [apply_ite (List.map (join here))]
          rfl
      | alone magic none =>
          rw [if_pos none] at whole
          have behind : directory (join here pattern) ≠ [] := by
            rw [whole]
            decide
          have literal : isMagic (directory (join here pattern)) = false := by
            rw [whole]
            rfl
          rw [expandFrom_of_alone _ _ magic none,
            expandFrom_of_last _ _ (magicToo.trans magic) behind literal, matchEach_singleton, whole, last,
            beneath_eq_join (ne_nil_of_isAbsolute rooted) (by decide), matchLast_stay]
          rfl
      | last magic below literal =>
          rw [if_neg below] at whole
          have behind : directory (join here pattern) ≠ [] := by
            rw [whole]
            exact join_ne_nil (by decide) front
          rw [expandFrom_of_last _ _ magic below literal,
            expandFrom_of_last _ _ (magicToo.trans magic) behind (by rw [whole, frontToo, literal]), whole, last]
          exact matchEach_join_here named rooted short directoriesOnly single
            (List.forall_mem_singleton.mpr front)
      | special _ special =>
          have below : directory pattern ≠ [] := by
            intro empty
            rw [empty] at special
            cases special
          rw [if_neg below] at whole
          rw [expandFrom_of_special _ _ special, expandFrom_of_special _ _ (by rw [whole, frontToo, special]),
            whole, last, shorter true front below]
          have lower : scope.stay.tree.WellNamed := named
          have relatives : Ensures (∀ place ∈ ·, isAbsolute place = false)
              (scope.stay.expandFrom fuel true (directory pattern)) :=
            expandFrom_ensures lower relative_keptByWalks fuel true front
          cases fronts : scope.stay.expandFrom fuel true (directory pattern) with
          | error fault => rfl
          | ok places =>
              rw [fronts] at relatives
              exact matchEach_join_here named rooted short directoriesOnly single relatives

/-- A segment that stays in front of a pattern is found in front of what the pattern finds below that segment.
A pattern that begins with two stars leaves the directory itself out, unless something stands in front. -/
theorem expand_join_here
    {pattern : List Char}
    (relative : isAbsolute pattern = false)
    (filled : pattern ≠ []) :
    scope.expand (join here pattern) = List.map (join here) <$> scope.stay.expand pattern ∨
      pattern.take 2 = anySegments ∧
        scope.expand (join here pattern) =
          (fun found => join here [] :: found.map (join here)) <$> scope.stay.expand pattern := by
  have shape : join here pattern = '.' :: '/' :: pattern := join_eq_append here relative
  have whole : scope.expand (join here pattern) =
      List.map (join here) <$> scope.stay.expandFrom (pattern.length + 1) false pattern := by
    have longer : pattern.length < (join here pattern).length + 1 := by
      rw [shape]
      exact Nat.lt_of_lt_of_le (Nat.lt_add_one _) (Nat.le_add_right _ 2)
    have shown : join here pattern ≠ [] := join_ne_nil (by decide) relative
    have unlike : (join here pattern).take 2 ≠ anySegments := by
      rw [shape]
      simp [anySegments]
    rw [expand_eq_expandFrom shown unlike, expandFrom_join_here named rooted short _ false relative filled,
      expandFrom_of_length_lt false (Nat.lt_add_one pattern.length) longer]
  by_cases stars : pattern.take 2 = anySegments
  case neg => exact .inl (by rw [whole, expand_eq_expandFrom filled stars])
  case pos =>
      rw [whole, expand_eq]
      cases scope.stay.expandFrom (pattern.length + 1) false pattern with
      | error fault => exact .inl rfl
      | ok found =>
          rcases withoutRoot_cases pattern found with same | also
          · have texts := congrArg (List.map (join here)) same.symm
            exact .inl (congrArg Except.ok texts)
          · have texts := congrArg (List.map (join here)) also
            exact .inr ⟨stars, congrArg Except.ok texts⟩

end

end Scope

end Glob

end ConfigTokens
