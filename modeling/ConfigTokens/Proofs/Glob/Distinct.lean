import ConfigTokens.Proofs.Glob.Bounds
import ConfigTokens.Proofs.Glob.Climbing
/-!
# Answers without repetition

A descent lists every name of a directory once, so that it finds different ways down. The ways that a walk
finds behind two places stay different as long as the places can be told from the ways: by the number of steps
behind them, or by their own number of steps if the last segment of the pattern stands for any number. That is
so for patterns with at most one such segment (`Scope.expandFrom_distinct`). Different ways have different
paths unless they turn back (`Begins.steps_eq_of_anchor`).

Nothing takes out a path that is there twice: with two segments for any number of steps, or by way of a
directory and back, a path is in the answer once for each text that is found for it.
-/

namespace ConfigTokens

namespace Glob

open ConfigTokens.Path
open ConfigTokens.Wildcard

/-! ## Lists without repetition -/

namespace Ensures

variable {ε α β γ : Type}

/-- Lists of results without repetition have none together, if each result tells what it belongs to. -/
theorem nodup_flatten
    {action : α → Except ε (List β)}
    {tag : β → γ}
    (Owns : α → γ → Prop)
    {elements : List α}
    (distinct : elements.Nodup)
    (apart : ∀ one ∈ elements, ∀ other ∈ elements, ∀ mark, Owns one mark → Owns other mark → one = other)
    (each : ∀ element ∈ elements,
      Ensures (fun results => (results.map tag).Nodup ∧ ∀ result ∈ results, Owns element (tag result))
        (action element)) :
    Ensures
      (fun results =>
        (results.map tag).Nodup ∧ ∀ result ∈ results, ∃ element ∈ elements, Owns element (tag result))
      (do return (← elements.mapM action).flatten) := by
  induction elements with
  | nil => exact ⟨List.nodup_nil, List.forall_mem_nil _⟩
  | cons element rest ih =>
      obtain ⟨fresh, others⟩ := List.nodup_cons.mp distinct
      obtain ⟨first, further⟩ := List.forall_mem_cons.mp each
      have below := ih others
        (fun one inOne other inOther =>
          apart one (List.mem_cons_of_mem _ inOne) other (List.mem_cons_of_mem _ inOther))
        further
      rw [List.mapM_cons]
      cases given : action element with
      | error => exact trivial
      | ok results =>
          cases rested : rest.mapM action with
          | error => exact trivial
          | ok lists =>
              rw [given] at first
              rw [rested] at below
              obtain ⟨once, mine⟩ := first
              obtain ⟨onceBelow, theirs⟩ := below
              change ((results ++ lists.flatten).map tag).Nodup ∧ ∀ result ∈ results ++ lists.flatten, _
              refine ⟨?_, List.forall_mem_append.mpr ⟨fun result inside => ?_, fun result inside => ?_⟩⟩
              · rw [List.map_append]
                refine List.Nodup.append once onceBelow fun mark inside again => ?_
                obtain ⟨one, inOne, rfl⟩ := List.mem_map.mp inside
                obtain ⟨other, inOther, same⟩ := List.mem_map.mp again
                obtain ⟨owner, among, owns⟩ := theirs other inOther
                have shared : element = owner :=
                  apart element List.mem_cons_self owner (List.mem_cons_of_mem _ among) _ (mine one inOne)
                    (same ▸ owns)
                exact fresh (shared ▸ among)
              · exact ⟨element, List.mem_cons_self, mine result inside⟩
              · obtain ⟨owner, among, owns⟩ := theirs result inside
                exact ⟨owner, List.mem_cons_of_mem _ among, owns⟩

end Ensures

namespace Scope

variable {Content : Type}
variable {scope : Scope Content}

/-! ## Names in a directory -/

theorem nodup_of_list
    (distinct : scope.tree.Distinct)
    {directoriesOnly : Bool}
    {directory : List Char}
    {names : List (List Char)}
    (listed : scope.list directoriesOnly directory = .ok names) :
    names.Nodup := by
  have once (place : String) : ((scope.tree.list scope.cwd place).map String.toList).Nodup :=
    List.Nodup.map (fun _ _ => String.toList_injective) (distinct.list scope.cwd place)
  unfold Scope.list at listed
  split at listed
  case isTrue => cases listed
  case isFalse =>
      cases listed
      split
      case isTrue => exact (once _).filter _
      case isFalse => exact once _

/-- Different names take different steps. -/
theorem nodup_steps_of_list
    (named : scope.tree.WellNamed)
    (distinct : scope.tree.Distinct)
    {directoriesOnly : Bool}
    {directory : List Char}
    {names : List (List Char)}
    (listed : scope.list directoriesOnly directory = .ok names) :
    (names.map steps).Nodup := by
  refine List.Nodup.map_on (fun one inOne other inOther same => ?_) (nodup_of_list distinct listed)
  have first := isProper_of_list named listed inOne
  have second := isProper_of_list named listed inOther
  rw [steps_of_isName first.1 first.2.1, steps_of_isName second.1 second.2.1] at same
  exact (List.cons.inj same).1

/-- A name and the paths below it, none of them twice, take different steps that all begin with the name. -/
theorem distinct_beneath
    {name : List Char}
    (proper : IsProper name)
    {paths : List (List Char)}
    (once : (paths.map steps).Nodup)
    (moves : ∀ path ∈ paths, steps path ≠ [])
    (relative : ∀ path ∈ paths, isAbsolute path = false) :
    ((name :: paths.map (Glob.beneath name)).map steps).Nodup ∧
      ∀ path ∈ name :: paths.map (Glob.beneath name), ∃ behind, steps path = name :: behind := by
  have mine : steps name = [name] := steps_of_isName proper.1 proper.2.1
  have theirs (path : List Char) (member : path ∈ paths) :
      steps (Glob.beneath name path) = name :: steps path := by
    rw [steps_beneath name (relative path member), mine]
    rfl
  refine ⟨?_, List.forall_mem_cons.mpr ⟨⟨[], mine⟩, fun path member => ?_⟩⟩
  · have below : (paths.map (Glob.beneath name)).map steps = (paths.map steps).map (name :: ·) := by
      rw [List.map_map, List.map_map]
      exact List.map_congr_left theirs
    rw [List.map_cons, below, mine, List.nodup_cons]
    refine ⟨fun again => ?_, List.Nodup.map List.cons_injective once⟩
    obtain ⟨behind, member, same⟩ := List.mem_map.mp again
    obtain ⟨path, inside, rfl⟩ := List.mem_map.mp member
    exact moves path inside (List.cons.inj same).2
  · obtain ⟨further, inside, rfl⟩ := List.mem_map.mp member
    exact ⟨steps further, theirs further inside⟩

/-- A descent finds nothing twice, and nothing without a step. -/
theorem descend_distinct
    (named : scope.tree.WellNamed)
    (distinct : scope.tree.Distinct)
    (directoriesOnly : Bool)
    (depth : Nat)
    (directory : List Char) :
    Ensures (fun paths => (paths.map steps).Nodup ∧ ∀ path ∈ paths, steps path ≠ [])
      (scope.descend directoriesOnly depth directory) := by
  induction depth generalizing directory with
  | zero => exact ⟨List.nodup_nil, List.forall_mem_nil _⟩
  | succ depth deeper =>
      unfold descend
      cases listed : scope.list directoriesOnly directory with
      | error => exact trivial
      | ok names =>
          have visible :
              ∀ name ∈ names.filter fun name => scope.hidden || !isHidden name, IsProper name :=
            fun name member => isProper_of_list named listed (List.mem_filter.mp member).1
          have below (name : List Char) (proper : IsProper name) :
              Ensures
                (fun paths => (paths.map steps).Nodup ∧
                  ∀ path ∈ paths, ∃ behind, steps path = name :: behind)
                (do
                  let paths ← scope.descend directoriesOnly depth (Glob.beneath directory name)
                  return name :: paths.map (Glob.beneath name)) := by
            have relative :=
              descend_ensures named relative_keptByWalks directoriesOnly depth (Glob.beneath directory name)
            exact ((deeper _).and relative).bind fun paths both =>
              distinct_beneath proper both.1.1 both.1.2 both.2
          refine (Ensures.nodup_flatten (fun name mark => ∃ behind, mark = name :: behind)
            ((nodup_of_list distinct listed).filter _) ?_ fun name member => below name (visible name member)).imp
              fun paths all => ⟨all.1, fun path member => ?_⟩
          · rintro one - other - mark ⟨behind, first⟩ ⟨further, second⟩
            exact (List.cons.inj (first.symm.trans second)).1
          · obtain ⟨name, -, behind, shape⟩ := all.2 path member
            exact shape ▸ List.cons_ne_nil name behind

/-! ## The last segment of a pattern -/

/-- What the last segment of a pattern finds in a directory are different ways on from there. -/
theorem matchLast_distinct
    (named : scope.tree.WellNamed)
    (distinct : scope.tree.Distinct)
    (directoriesOnly : Bool)
    (directory last : List Char) :
    Ensures (fun names => (names.map steps).Nodup) (scope.matchLast directoriesOnly directory last) := by
  unfold matchLast
  split
  case isTrue =>
      unfold matchBelow
      refine (descend_distinct named distinct directoriesOnly _ directory).bind fun paths both => ?_
      obtain ⟨once, moves⟩ := both
      change (List.map steps (_ ++ paths)).Nodup
      split
      case isTrue =>
          rw [List.singleton_append, List.map_cons, List.nodup_cons]
          refine ⟨fun again => ?_, once⟩
          obtain ⟨path, member, none⟩ := List.mem_map.mp again
          exact moves path member none
      case isFalse => exact once
  case isFalse =>
      split
      case isTrue =>
          rw [matchNames_eq]
          cases listed : scope.list directoriesOnly directory with
          | error => exact trivial
          | ok names =>
              exact (nodup_steps_of_list named distinct listed).sublist ((taken_sublist last names).map steps)
      case isFalse =>
          change (List.map steps (scope.matchLiteral directory last)).Nodup
          unfold matchLiteral
          split <;> split
          all_goals first | exact List.nodup_singleton _ | exact List.nodup_nil

/-- Unless it stands for any number of steps, the last segment finds as many steps as it has itself. -/
theorem matchLast_length
    (named : scope.tree.WellNamed)
    (directoriesOnly : Bool)
    (directory : List Char)
    {last : List Char}
    (single : '/' ∉ last)
    (other : last ≠ anySegments) :
    Ensures (∀ name ∈ ·, (steps name).length = (steps last).length)
      (scope.matchLast directoriesOnly directory last) := by
  unfold matchLast
  rw [if_neg other]
  split
  case isTrue magic =>
      have mine : steps last = [last] := by
        refine steps_of_isName ⟨?_, single⟩ ?_
        · rintro rfl
          cases magic
        · rintro rfl
          cases magic
      rw [matchNames_eq]
      cases listed : scope.list directoriesOnly directory with
      | error => exact trivial
      | ok names =>
          intro name member
          have proper := isProper_of_list named listed ((taken_sublist last names).subset member)
          rw [mine, steps_of_isName proper.1 proper.2.1]
          rfl
  case isFalse =>
      intro name member
      rw [eq_of_mem_matchLiteral member]

/-! ## Whole patterns -/

/-- A pattern finds the steps of a place and then those of its last segment. -/
theorem matchLast_steps
    (named : scope.tree.WellNamed)
    (directoriesOnly : Bool)
    (directory pattern place : List Char) :
    Ensures
      (∀ name ∈ ·, steps (join place name) = steps place ++ steps name ∧
        (baseName pattern ≠ anySegments → (steps name).length = (steps (baseName pattern)).length))
      (scope.matchLast directoriesOnly directory (baseName pattern)) := by
  have relative :=
    matchLast_ensures named relative_keptByWalks directoriesOnly directory (isAbsolute_baseName pattern)
  have lengths (other : baseName pattern ≠ anySegments) :=
    matchLast_length named directoriesOnly directory (slash_not_mem_baseName pattern) other
  cases matched : scope.matchLast directoriesOnly directory (baseName pattern) with
  | error => exact trivial
  | ok names =>
      rw [matched] at relative lengths
      exact fun name member => ⟨steps_join place (relative name member), fun other => lengths other name member⟩

/-- Without the segment for any number of steps, a pattern finds as many steps as it has itself. -/
theorem Finds.length_steps
    (named : scope.tree.WellNamed)
    {directoriesOnly : Bool}
    {pattern text : List Char}
    (finds : scope.Finds directoriesOnly pattern text)
    (flat : anySegments ∉ segments pattern) :
    (steps text).length = (steps pattern).length := by
  have last {directoriesOnly : Bool} {pattern place directory name : List Char} {names : List (List Char)}
      (flat : anySegments ∉ segments pattern)
      (matched : scope.matchLast directoriesOnly directory (baseName pattern) = .ok names)
      (member : name ∈ names)
      (upper : (steps place).length = (steps (Path.directory pattern)).length) :
      (steps (join place name)).length = (steps pattern).length := by
    have other : baseName pattern ≠ anySegments := by
      intro any
      have whole := segments_directory_append pattern
      rw [any] at whole
      exact flat (whole ▸ List.mem_append_right _ List.mem_cons_self)
    have all := matchLast_steps named directoriesOnly directory pattern place
    rw [matched] at all
    obtain ⟨joined, lower⟩ := all name member
    rw [joined, ← steps_directory_append pattern, List.length_append, List.length_append, upper, lower other]
  induction finds with
  | literal => rfl
  | inNamed _ _ matched member => exact last flat matched member rfl
  | inFound _ _ matched member ih =>
      have above := ih fun inside => flat (segments_directory_append _ ▸ List.mem_append_left _ inside)
      exact last flat matched member above

/--
The last segment finds nothing twice in places with different steps. If it stands for any number of steps, then
the places have to have equally many.
-/
theorem matchEach_distinct
    (named : scope.tree.WellNamed)
    (distinct : scope.tree.Distinct)
    (directoriesOnly : Bool)
    (pattern : List Char)
    {places : List (List Char)}
    (once : (places.map steps).Nodup)
    (equal : baseName pattern = anySegments →
      ∀ place ∈ places, (steps place).length = (steps (directory pattern)).length) :
    Ensures (fun found => (found.map steps).Nodup)
      (scope.matchEach directoriesOnly (baseName pattern) places) := by
  -- A place owns what goes on from its steps, by a fixed number of steps unless there may be any number.
  refine (Ensures.nodup_flatten
    (fun place mark => ∃ behind, mark = steps place ++ behind ∧
      (baseName pattern ≠ anySegments → behind.length = (steps (baseName pattern)).length))
    once.of_map ?_ fun place _ => ?_).imp fun _ all => all.1
  · rintro one inOne other inOther mark ⟨behind, first, size⟩ ⟨further, second, length⟩
    have parts : steps one ++ behind = steps other ++ further := first.symm.trans second
    refine List.inj_on_of_nodup_map once inOne inOther ?_
    by_cases any : baseName pattern = anySegments
    · exact (List.append_inj parts ((equal any one inOne).trans (equal any other inOther).symm)).1
    · exact (List.append_inj' parts ((size any).trans (length any).symm)).1
  · have once := matchLast_distinct named distinct directoriesOnly (beneath scope.root place) (baseName pattern)
    have parts := matchLast_steps named directoriesOnly (beneath scope.root place) pattern place
    refine (once.and parts).bind fun names ⟨once, parts⟩ => ⟨?_, fun text member => ?_⟩
    · have shape : (names.map (join place)).map steps = (names.map steps).map (steps place ++ ·) := by
        rw [List.map_map, List.map_map]
        exact List.map_congr_left fun name member => (parts name member).1
      rw [shape]
      exact List.Nodup.map (List.append_right_injective (steps place)) once
    · obtain ⟨name, inside, rfl⟩ := List.mem_map.mp member
      obtain ⟨joined, length⟩ := parts name inside
      exact ⟨steps name, joined, length⟩

/-- A walk for a pattern with at most one segment for any number of steps finds nothing twice. -/
theorem expandFrom_distinct
    (named : scope.tree.WellNamed)
    (distinct : scope.tree.Distinct)
    (fuel : Nat)
    (directoriesOnly : Bool)
    {pattern : List Char}
    (few : (segments pattern).count anySegments ≤ 1) :
    Ensures (fun found => (found.map steps).Nodup) (scope.expandFrom fuel directoriesOnly pattern) := by
  induction fuel generalizing directoriesOnly pattern with
  | zero => exact List.nodup_nil
  | succ fuel shorter =>
      have parts : (segments (directory pattern)).count anySegments +
          (segments (baseName pattern)).count anySegments ≤ 1 := by
        rwa [← List.count_append, segments_directory_append]
      cases shape pattern with
      | plain literal =>
          rw [expandFrom_of_plain fuel directoriesOnly literal]
          change (List.map steps (if _ then _ else _)).Nodup
          split
          · exact List.nodup_singleton _
          · exact List.nodup_nil
      | alone magic none =>
          rw [expandFrom_of_alone fuel directoriesOnly magic none]
          exact matchLast_distinct named distinct directoriesOnly scope.root (baseName pattern)
      | last magic below literal =>
          rw [expandFrom_of_last fuel directoriesOnly magic below literal]
          refine matchEach_distinct named distinct directoriesOnly pattern (List.nodup_singleton _)
            fun _ place member => ?_
          rw [List.mem_singleton.mp member]
      | special _ front =>
          rw [expandFrom_of_special fuel directoriesOnly front]
          refine ((shorter true (Nat.le_of_add_right_le parts)).and (expandFrom_finds fuel true _)).bind ?_
          rintro places ⟨once, finds⟩
          refine matchEach_distinct named distinct directoriesOnly pattern once fun any place member => ?_
          refine (finds place member).length_steps named ?_
          have last : (segments (baseName pattern)).count anySegments = 1 := by
            rw [any]
            rfl
          exact List.count_eq_zero.mp (by omega)

/-- The texts that are found take different steps. -/
theorem nodup_steps_of_expand
    (named : scope.tree.WellNamed)
    (distinct : scope.tree.Distinct)
    {pattern : List Char}
    (few : (segments pattern).count anySegments ≤ 1)
    {found : List (List Char)}
    (given : scope.expand pattern = .ok found) :
    (found.map steps).Nodup := by
  suffices all : Ensures (fun found => (found.map steps).Nodup) (scope.expand pattern) by
    rwa [given] at all
  rw [expand_eq]
  exact (expandFrom_distinct named distinct _ false few).bind fun found once =>
    once.sublist ((withoutRoot_sublist pattern found).map steps)

end Scope

/-! ## Answers -/

theorem isName_of_mem_origin
    {cwd base pattern : List Char}
    {front : List (List Char)}
    (single : ∀ segment ∈ front, IsName segment)
    {name : List Char}
    (member : name ∈ origin cwd base pattern front) :
    IsName name := by
  refine (isProper_of_mem_resolve (fun segment inside => ?_) member).1
  rcases List.mem_append.mp inside with above | below
  · split at above
    · cases above
    · exact isName_of_mem_route above
  · exact single segment below

/-- Texts that begin alike take the same steps if they have the same path. -/
theorem Begins.steps_eq_of_anchor
    {cwd : List Char}
    (rooted : isAbsolute cwd = true)
    (base : List Char)
    {front : List (List Char)}
    {pattern first second : List Char}
    (ofFirst : Begins front pattern first)
    (ofSecond : Begins front pattern second)
    (same : Path.anchor cwd base (respell first) = Path.anchor cwd base (respell second)) :
    steps first = steps second := by
  have single : ∀ segment ∈ front, IsName segment := by
    obtain ⟨low, parts, -⟩ := ofFirst.goesOn
    exact fun segment member => isName_of_mem_segments (parts ▸ List.mem_append_left low member)
  obtain ⟨low, properLow, stepsFirst, anchorFirst⟩ := ofFirst.anchor rooted base
  obtain ⟨further, properFurther, stepsSecond, anchorSecond⟩ := ofSecond.anchor rooted base
  have whole {names : List (List Char)} (proper : ∀ name ∈ names, IsProper name) :
      ∀ name ∈ origin cwd base pattern front ++ names, IsName name :=
    List.forall_mem_append.mpr ⟨fun name => isName_of_mem_origin single, fun name member => (proper name member).1⟩
  rw [anchorFirst, anchorSecond] at same
  have names := congrArg segments (List.cons.inj same).2
  rw [segments_unite (whole properLow), segments_unite (whole properFurther)] at names
  rw [stepsFirst, stepsSecond, List.append_cancel_left names]

section

variable {Content : Type}
variable {scope : Scope Content}
variable {exclusions : Exclusions}
variable {pattern : String}

instance (exclusions : Exclusions) (scope : Scope Content) (path : List Char) :
    Decidable (exclusions.Keeps scope path) :=
  decidable_of_iff _ Exclusions.keeps_iff.symm

/-- A path is in the answer as often as texts are found and kept that have it. -/
theorem count_search
    {found : List (List Char)}
    {paths : List String}
    (given : scope.expand pattern.toList = .ok found)
    (searched : search scope exclusions pattern = .ok paths)
    (path : String) :
    paths.count path =
      found.countP fun text => decide (exclusions.Keeps scope (respell text) ∧
        String.ofList (Path.anchor (FileTree.pathText scope.cwd).toList scope.root (respell text)) = path) := by
  rw [search_of_expand given] at searched
  cases searched
  rw [List.count, List.countP_map, List.countP_filter, List.countP_filter,
    (List.mergeSort_perm _ _).countP_eq, List.countP_map]
  refine List.countP_congr fun text _ => ?_
  rw [decide_eq_true_iff, Exclusions.keeps_iff]
  simp only [Function.comp, Bool.and_eq_true, beq_iff_eq]
  tauto

/-- Without a way up behind a special character, texts that take different steps have different paths. -/
theorem nodup_search
    (named : scope.tree.WellNamed)
    (first : ClimbsFirst pattern.toList)
    {found : List (List Char)}
    {paths : List String}
    (given : scope.expand pattern.toList = .ok found)
    (once : (found.map steps).Nodup)
    (searched : search scope exclusions pattern = .ok paths) :
    paths.Nodup := by
  have rooted : isAbsolute (FileTree.pathText scope.cwd).toList = true := by
    simp [FileTree.pathText]
  have begins : ∀ raw ∈ found, Begins (plainFront pattern.toList) pattern.toList raw := fun raw member =>
    (Scope.finds_of_expand given raw member).begins named (fun _ => not_isMagic_of_mem_plainFront) first.begins
  have apart :
      ((found.map respell).map fun text =>
        String.ofList (Path.anchor (FileTree.pathText scope.cwd).toList scope.root text)).Nodup := by
    rw [List.map_map]
    refine List.Nodup.map_on (fun one inOne other inOther same => ?_) once.of_map
    have alike := (begins one inOne).steps_eq_of_anchor rooted scope.root (begins other inOther)
      (String.ofList_inj.mp same)
    exact List.inj_on_of_nodup_map once inOne inOther alike
  rw [search_of_expand given] at searched
  cases searched
  have sorted := ((List.mergeSort_perm (found.map respell) precedes).map _).nodup_iff.mpr apart
  exact sorted.sublist ((List.filter_sublist.trans List.filter_sublist).map _)

end

end Glob

namespace Handler

/--
How often a handler answers with a path, in a tree of proper names that has no path twice:

* A path is in the answer as often as texts are found and kept that have it.
* If the pattern has no parent segment behind a segment with special characters, and at most one segment
  for any number of steps, then no path is in the answer twice.
* In a tree without cycles the bound on the descents of the walk leaves nothing out.
-/
theorem glob_answers_distinct
    {host : Host}
    (named : host.tree.WellNamed)
    (distinct : host.tree.Distinct)
    {options : GlobOptions}
    {pattern : String}
    {answer : Answer}
    {final : Host}
    (answered : (Handler.glob options).call pattern host = .ok answer final) :
    ∃ (found : List (List Char)) (paths : List String),
      (host.globScope options).expand pattern.toList = .ok found ∧
        answer = .plain (.list (paths.map .str)) ∧
        (∀ path, paths.count path =
          found.countP fun text => decide
            (Glob.Exclusions.Keeps ⟨options.nodir, options.ignore⟩ (host.globScope options)
                (Glob.respell text) ∧
              host.globPath options text = path)) ∧
        (Glob.ClimbsFirst pattern.toList →
          (Path.segments pattern.toList).count Wildcard.anySegments ≤ 1 → paths.Nodup) ∧
        (host.tree.Acyclic → ∀ directoriesOnly more (directory : List Char), '\x00' ∉ directory →
          (host.globScope options).descend directoriesOnly (host.tree.entries.length + 1 + more) directory =
            (host.globScope options).descend directoriesOnly (host.tree.entries.length + 1) directory) := by
  obtain ⟨paths, searched, rfl⟩ := search_of_call_glob answered
  obtain ⟨found, given, -⟩ := Glob.mem_search_iff searched
  refine ⟨found, paths, given, rfl, fun path => ?_, fun first few => ?_,
    fun acyclic directoriesOnly more _ clean => ?_⟩
  · simp only [Host.globPath_eq]
    exact Glob.count_search given searched path
  · have once := Glob.Scope.nodup_steps_of_expand named distinct few given
    exact Glob.nodup_search named first given once searched
  · exact Glob.Scope.descend_of_bound named acyclic directoriesOnly clean more

/-- A host with two directories beside each other. -/
def pairHost : Host :=
  ⟨(FileTree.empty.insert ["w", "a"] .directory).insert ["w", "b"] .directory, [], [], "", .usual,
    .blank, none, .empty⟩

/-- Options without exclusions. -/
def pairOptions : GlobOptions :=
  ⟨"/w", false, false, []⟩

theorem pairHost_entries :
    pairHost.tree.entries = [(["w"], .directory), (["w", "a"], .directory), (["w", "b"], .directory)] :=
  rfl

theorem pairHost_wellNamed :
    pairHost.tree.WellNamed :=
  (FileTree.wellNamed_empty.insert (by decide) _).insert (by decide) _

theorem pairHost_distinct :
    pairHost.tree.Distinct :=
  (FileTree.distinct_empty.insert _ _).insert _ _

theorem pairHost_acyclic :
    pairHost.tree.Acyclic := by
  refine FileTree.acyclic_of_linksNoDirectory pairHost_wellNamed (FileTree.linksNoDirectory_of_no_link ?_)
  simp [pairHost_entries]

theorem denotes_pair :
    (pairHost.globScope pairOptions).Denotes "/w".toList ["w"] ∧
      (pairHost.globScope pairOptions).Denotes "/w/a".toList ["w", "a"] ∧
      (pairHost.globScope pairOptions).Denotes "/w/b".toList ["w", "b"] := by
  refine ⟨?_, ?_, ?_⟩
  · change pairHost.tree.walk true 40 [] ["", "w"] = _
    simp +decide [FileTree.walk, FileTree.entry?, pairHost_entries]
  · change pairHost.tree.walk true 40 [] ["", "w", "a"] = _
    simp +decide [FileTree.walk, FileTree.entry?, pairHost_entries, List.lookup_cons]
  · change pairHost.tree.walk true 40 [] ["", "w", "b"] = _
    simp +decide [FileTree.walk, FileTree.entry?, pairHost_entries, List.lookup_cons]

/-- The directory lists the two others, be it that only directories are wanted. -/
theorem list_pair
    (directoriesOnly : Bool) :
    (pairHost.globScope pairOptions).list directoriesOnly "/w".toList = .ok ["a".toList, "b".toList] := by
  refine (Glob.Scope.list_of_denotes directoriesOnly (by decide) denotes_pair.1 fun _ => ?_).trans rfl
  refine List.forall_mem_cons.mpr ⟨?_, List.forall_mem_singleton.mpr ?_⟩
  · exact denotes_pair.2.1.isDirectory (by decide)
  · exact denotes_pair.2.2.isDirectory (by decide)

/-- Nothing is in the two directories. -/
theorem list_pair_inner
    (directoriesOnly : Bool) :
    ∀ name ∈ ["a".toList, "b".toList],
      (pairHost.globScope pairOptions).list directoriesOnly (Glob.beneath "/w".toList name) = .ok [] := by
  refine List.forall_mem_cons.mpr ⟨?_, List.forall_mem_singleton.mpr ?_⟩
  · exact (Glob.Scope.list_of_denotes directoriesOnly (by decide) denotes_pair.2.1
      fun _ => List.forall_mem_nil _).trans rfl
  · exact (Glob.Scope.list_of_denotes directoriesOnly (by decide) denotes_pair.2.2
      fun _ => List.forall_mem_nil _).trans rfl

theorem matchBelow_pair
    (directoriesOnly : Bool) :
    (pairHost.globScope pairOptions).matchBelow directoriesOnly "/w".toList =
      .ok ["".toList, "a".toList, "b".toList] := by
  have descended :
      (pairHost.globScope pairOptions).descend directoriesOnly 4 "/w".toList =
        .ok ["a".toList, "b".toList] :=
    (Glob.Scope.descend_of_leaves (list_pair directoriesOnly) (list_pair_inner directoriesOnly) 3).trans rfl
  have depth : (pairHost.globScope pairOptions).tree.entries.length + 1 = 4 := rfl
  rw [Glob.Scope.matchBelow, depth, descended, denotes_pair.1.isDirectory (by decide)]
  rfl

theorem matchBelow_pair_inner :
    ∀ name ∈ ["a".toList, "b".toList],
      (pairHost.globScope pairOptions).matchBelow false (Glob.beneath "/w".toList name) = .ok [[]] := by
  intro name member
  have nothing := Glob.Scope.descend_of_list_nil (list_pair_inner false name member) 4
  have directory : (pairHost.globScope pairOptions).isDirectory (Glob.beneath "/w".toList name) = true := by
    revert name
    refine List.forall_mem_cons.mpr ⟨fun _ => ?_, List.forall_mem_singleton.mpr fun _ => ?_⟩
    · exact denotes_pair.2.1.isDirectory (by decide)
    · exact denotes_pair.2.2.isDirectory (by decide)
  have depth : (pairHost.globScope pairOptions).tree.entries.length + 1 = 4 := rfl
  rw [Glob.Scope.matchBelow, depth, nothing, directory, Bool.or_true]
  rfl

/-- Below the directory the two others are found once. -/
theorem expand_pair_below :
    (pairHost.globScope pairOptions).expand "**".toList = .ok ["a".toList, "b".toList] := by
  have walked :
      (pairHost.globScope pairOptions).expandFrom 3 false "**".toList =
        .ok [[], "a".toList, "b".toList] :=
    (Glob.Scope.expandFrom_of_alone 2 false (by decide) (by decide)).trans (matchBelow_pair false)
  have fuel : "**".toList.length + 1 = 3 := by decide
  rw [Glob.Scope.expand_eq, fuel, walked]
  rfl

/-- Below whatever lies below the directory the two others are found twice. -/
theorem expand_pair_below_below :
    (pairHost.globScope pairOptions).expand "**/**".toList =
      .ok ["a".toList, "b".toList, "a/".toList, "b/".toList] := by
  have fronts :
      (pairHost.globScope pairOptions).expandFrom 5 true (Path.directory "**/**".toList) =
        .ok [[], "a".toList, "b".toList] :=
    matchBelow_pair true
  have matched :
      ∀ place ∈ [[], "a".toList, "b".toList],
        (pairHost.globScope pairOptions).matchLast false (Glob.beneath "/w".toList place)
            (Path.baseName "**/**".toList) =
          .ok (if place = [] then [[], "a".toList, "b".toList] else [[]]) := by
    refine List.forall_mem_cons.mpr ⟨matchBelow_pair false, fun name member => ?_⟩
    have filled : name ≠ [] := by
      revert name
      decide
    rw [if_neg filled]
    exact matchBelow_pair_inner name member
  have walked :
      (pairHost.globScope pairOptions).expandFrom 6 false "**/**".toList =
        .ok [[], "a".toList, "b".toList, "a/".toList, "b/".toList] :=
    (Glob.Scope.expandFrom_of_front (by decide) fronts matched).trans rfl
  have fuel : "**/**".toList.length + 1 = 6 := by decide
  rw [Glob.Scope.expand_eq, fuel, walked]
  rfl

/-- By way of each of the two directories, the one that holds them is found. -/
theorem expand_pair_around :
    (pairHost.globScope pairOptions).expand "*/..".toList = .ok ["a/..".toList, "b/..".toList] := by
  have accepted :
      ["a".toList, "b".toList].filter (Wildcard.accepts "*".toList) = ["a".toList, "b".toList] := by
    decide +kernel
  have fronts :
      (pairHost.globScope pairOptions).expandFrom 4 true (Path.directory "*/..".toList) =
        .ok ["a".toList, "b".toList] := by
    change (pairHost.globScope pairOptions).matchNames true "/w".toList "*".toList = _
    rw [Glob.Scope.matchNames, list_pair]
    exact congrArg Except.ok accepted
  have first : pairHost.tree.find false [] "/w/a/.." = .ok (["w"], .directory) := by
    change pairHost.tree.walk false 40 [] ["", "w", "a", ".."] = _
    simp +decide [FileTree.walk, FileTree.entry?, pairHost_entries, List.lookup_cons]
  have second : pairHost.tree.find false [] "/w/b/.." = .ok (["w"], .directory) := by
    change pairHost.tree.walk false 40 [] ["", "w", "b", ".."] = _
    simp +decide [FileTree.walk, FileTree.entry?, pairHost_entries, List.lookup_cons]
  have matched :
      ∀ place ∈ ["a".toList, "b".toList],
        (pairHost.globScope pairOptions).matchLast false (Glob.beneath "/w".toList place)
            (Path.baseName "*/..".toList) = .ok ["..".toList] := by
    refine List.forall_mem_cons.mpr ⟨?_, List.forall_mem_singleton.mpr ?_⟩
    · change Except.ok (if pairHost.tree.isPresent [] "/w/a/.." then ["..".toList] else []) = _
      rw [FileTree.isPresent, first]
      rfl
    · change Except.ok (if pairHost.tree.isPresent [] "/w/b/.." then ["..".toList] else []) = _
      rw [FileTree.isPresent, second]
      rfl
  have walked :
      (pairHost.globScope pairOptions).expandFrom 5 false "*/..".toList =
        .ok ["a/..".toList, "b/..".toList] :=
    (Glob.Scope.expandFrom_of_front (by decide) fronts matched).trans rfl
  have fuel : "*/..".toList.length + 1 = 5 := by decide
  rw [Glob.Scope.expand_eq, fuel, walked]
  rfl

/-- Each of the two directories is in the answer once. -/
theorem glob_answers_distinct_pair :
    pairHost.tree.WellNamed ∧ pairHost.tree.Distinct ∧
      (Handler.glob pairOptions).call "**" pairHost =
        .ok (.plain (.list [.str "/w/a", .str "/w/b"]))
          { pairHost with world := Module.World.empty.note (.matched "**" "/w" 2) } ∧
      Glob.ClimbsFirst "**".toList ∧
      (Path.segments "**".toList).count Wildcard.anySegments ≤ 1 ∧
      ["/w/a", "/w/b"].Nodup := by
  have searched :
      Glob.search (pairHost.globScope pairOptions) ⟨pairOptions.nodir, pairOptions.ignore⟩ "**" =
        .ok ["/w/a", "/w/b"] := by
    have sorted : ["a".toList, "b".toList].Pairwise (Glob.precedes · ·) := by decide
    have respelled : ["a".toList, "b".toList].map Glob.respell = ["a".toList, "b".toList] := by decide
    rw [Glob.search_of_expand expand_pair_below, respelled, List.mergeSort_of_pairwise sorted]
    rfl
  have answered := call_glob_of_search searched
  obtain ⟨found, paths, -, given, -, once, -⟩ :=
    glob_answers_distinct pairHost_wellNamed pairHost_distinct answered
  have same : ["/w/a", "/w/b"] = paths :=
    (List.map_inj_right fun _ _ => Module.Value.str.inj).mp
      (Module.Value.list.inj (Answer.plain.inj given))
  have first : Glob.ClimbsFirst "**".toList := by decide
  have few : (Path.segments "**".toList).count Wildcard.anySegments ≤ 1 := by decide
  exact ⟨pairHost_wellNamed, pairHost_distinct, answered, first, few, same ▸ once first few⟩

/--
A path may be in the answer twice: if the pattern has two segments for any number of steps, or if it goes up
behind a special character.
-/
theorem glob_answers_twice :
    pairHost.tree.WellNamed ∧ pairHost.tree.Distinct ∧ pairHost.tree.Acyclic ∧
      (Handler.glob pairOptions).call "**/**" pairHost =
        .ok (.plain (.list [.str "/w/a", .str "/w/a", .str "/w/b", .str "/w/b"]))
          { pairHost with world := Module.World.empty.note (.matched "**/**" "/w" 4) } ∧
      (Handler.glob pairOptions).call "*/.." pairHost =
        .ok (.plain (.list [.str "/w", .str "/w"]))
          { pairHost with world := Module.World.empty.note (.matched "*/.." "/w" 2) } ∧
      ¬["/w/a", "/w/a", "/w/b", "/w/b"].Nodup ∧ ¬["/w", "/w"].Nodup := by
  have below :
      Glob.search (pairHost.globScope pairOptions) ⟨pairOptions.nodir, pairOptions.ignore⟩ "**/**" =
        .ok ["/w/a", "/w/a", "/w/b", "/w/b"] := by
    have respelled :
        (["a".toList, "b".toList, "a/".toList, "b/".toList].map Glob.respell).mergeSort Glob.precedes =
          ["a".toList, "a".toList, "b".toList, "b".toList] :=
      Glob.mergeSort_of_perm (by decide) (by decide)
    rw [Glob.search_of_expand expand_pair_below_below, respelled]
    rfl
  have around :
      Glob.search (pairHost.globScope pairOptions) ⟨pairOptions.nodir, pairOptions.ignore⟩ "*/.." =
        .ok ["/w", "/w"] := by
    have respelled :
        (["a/..".toList, "b/..".toList].map Glob.respell).mergeSort Glob.precedes =
          ["a/..".toList, "b/..".toList] :=
      Glob.mergeSort_of_perm (by decide) (by decide)
    rw [Glob.search_of_expand expand_pair_around, respelled]
    rfl
  exact ⟨pairHost_wellNamed, pairHost_distinct, pairHost_acyclic, call_glob_of_search below,
    call_glob_of_search around, by decide, by decide⟩

end Handler

end ConfigTokens
