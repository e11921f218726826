import ConfigTokens.Proofs.Glob.Answers
import ConfigTokens.Proofs.Glob.Lower
import ConfigTokens.Proofs.Path.Composed
/-!
# Ignore patterns and spellings

Ignore patterns are matched against the text that the walk has found, before it is anchored. A text that
neither starts at the root nor holds a parent segment spells out how its path is reached from the directory
of the handler, so that a pattern matches both or neither. A pattern for such texts finds no others, and
what it answers with is ignored by nothing.

For other texts this does not hold: a file that an ignore pattern matches is in the answer if the pattern
names it from the root, or by way of a directory and back.
-/

namespace ConfigTokens

namespace Path

open ConfigTokens.Text

/-! ## Ways down -/

/-- A text is how a path is reached from a directory above it. -/
def IsWayTo
    (directory way path : String) : Prop :=
  way ≠ "" ∧ isAbsolute way.toList = false ∧ path = joinText directory way

instance (directory way path : String) : Decidable (IsWayTo directory way path) :=
  inferInstanceAs (Decidable (_ ∧ _ ∧ _))

theorem IsWayTo.segments_eq
    {directory way path : String}
    (leads : IsWayTo directory way path) :
    segments path.toList = segments directory.toList ++ segments way.toList := by
  obtain ⟨-, relative, rfl⟩ := leads
  rw [joinText, String.toList_ofList, segments_join_of_relative directory.toList relative]

/-- A way down has segments. -/
theorem IsWayTo.segments_ne_nil
    {directory way path : String}
    (leads : IsWayTo directory way path) :
    segments way.toList ≠ [] := by
  obtain ⟨filled, relative, -⟩ := leads
  have some : way.toList ≠ [] := fun empty => filled (String.toList_eq_nil_iff.mp empty)
  obtain ⟨c, rest, shape⟩ := List.exists_cons_of_ne_nil some
  have other : c ≠ '/' := by
    rintro rfl
    rw [shape] at relative
    cases relative
  obtain ⟨segment, member, -⟩ := exists_mem_segments (shape ▸ List.mem_cons_self) other
  exact List.ne_nil_of_mem member

end Path

namespace Glob

open ConfigTokens.Path
open ConfigTokens.Wildcard

/-! ## Respelled paths without a way up -/

/-- The segments of a path that lead away from where they stand. -/
def steps
    (path : List Char) : List (List Char) :=
  (segments path).filter (· ≠ here)

theorem isName_of_mem_steps
    {path name : List Char}
    (member : name ∈ steps path) :
    IsName name :=
  isName_of_mem_segments (List.mem_filter.mp member).1

theorem steps_join
    (base : List Char)
    {path : List Char}
    (relative : isAbsolute path = false) :
    steps (join base path) = steps base ++ steps path := by
  rw [steps, segments_join_of_relative base relative, List.filter_append]
  rfl

theorem steps_beneath
    (name : List Char)
    {path : List Char}
    (relative : isAbsolute path = false) :
    steps (beneath name path) = steps name ++ steps path := by
  unfold beneath
  split
  case isTrue empty =>
      rw [empty]
      rfl
  case isFalse =>
      split
      case isTrue none =>
          rw [none]
          exact (List.append_nil _).symm
      case isFalse => exact steps_join name relative

theorem steps_of_isName
    {name : List Char}
    (single : IsName name)
    (moves : name ≠ here) :
    steps name = [name] := by
  rw [steps, segments_of_isName single]
  exact List.filter_cons_of_pos (decide_eq_true moves)

theorem steps_directory_append
    (path : List Char) :
    steps (directory path) ++ steps (baseName path) = steps path := by
  rw [steps, steps, ← List.filter_append, segments_directory_append]
  rfl

theorem respell_eq
    (path : List Char) :
    respell path =
      if lead path ++ Text.unite '/' (steps path) = [] then here
      else lead path ++ Text.unite '/' (steps path) := rfl

/-- Respelling keeps just the steps of a path that has any. -/
theorem segments_respell_of_steps
    {path : List Char}
    (moves : steps path ≠ []) :
    segments (respell path) = steps path := by
  have united : segments (lead path ++ Text.unite '/' (steps path)) = steps path :=
    segments_lead_append_unite path fun name => isName_of_mem_steps
  rw [respell_eq]
  split
  case isTrue nothing =>
      rw [nothing] at united
      exact absurd united.symm moves
  case isFalse => exact united

/-- Respelling takes no step away and adds none. -/
theorem steps_respell
    (path : List Char) :
    steps (respell path) = steps path := by
  by_cases none : steps path = []
  · rw [respell_eq, none]
    split
    case isTrue => rfl
    case isFalse =>
        rw [steps, segments_lead_append_unite path (List.forall_mem_nil IsName)]
        rfl
  · rw [steps, segments_respell_of_steps none, steps, List.filter_filter]
    simp

namespace IsLower

variable {path : List Char}

/-- A path without a way up has none when it has been respelled. -/
theorem respell
    (lower : IsLower path) :
    IsLower (respell path) := by
  have plain : lead path = [] := by
    unfold lead
    split
    all_goals first | rfl | cases lower.relative
  refine ⟨?_, fun up => ?_⟩
  · rw [respell_eq, plain, List.nil_append]
    split
    case isTrue => rfl
    case isFalse => exact isAbsolute_unite fun name => isName_of_mem_steps
  · have among : parent ∈ steps (Glob.respell path) :=
      List.mem_filter.mpr ⟨up, by decide⟩
    rw [steps_respell] at among
    exact lower.low (List.mem_filter.mp among).1

/-- A path without a way up is anchored below its base, at the end of its steps. -/
theorem segments_anchor
    (lower : IsLower path)
    {cwd : List Char}
    (rooted : isAbsolute cwd = true)
    (base : List Char) :
    segments (anchor cwd base path) = segments (anchor cwd base []) ++ steps path := by
  rw [Path.segments_anchor rooted, Path.segments_anchor rooted, route_of_relative cwd base lower.relative,
    resolve_append_of_low (route cwd base []) lower.low]
  rfl

/-- An ignore pattern matches a respelled path without a way up just if it matches the way to where the path
is anchored. -/
theorem isIgnored_respell
    (lower : IsLower path)
    {cwd base way : String}
    (rooted : isAbsolute cwd.toList = true)
    (leads :
      IsWayTo (anchorText cwd base "") way (anchorText cwd base (String.ofList (Glob.respell path))))
    (pattern : String) :
    isIgnored (String.ofList (Glob.respell path)) pattern = isIgnored way pattern := by
  have home : ("" : String).toList = [] := rfl
  have parts := leads.segments_eq
  unfold anchorText at parts
  simp only [String.toList_ofList, home] at parts
  rw [lower.respell.segments_anchor rooted, steps_respell] at parts
  have same : steps path = segments way.toList := List.append_cancel_left parts
  unfold isIgnored
  rw [String.toList_ofList, segments_respell_of_steps (same ▸ leads.segments_ne_nil), same]

end IsLower

end Glob

namespace Handler

/--
What a handler with ignore patterns answers, in a tree of proper names:

* The answer holds the paths of just those texts that the walk finds and that no ignore pattern matches; with
  directories left out, none of them denotes one.
* Of a text that neither starts at the root nor holds a parent segment, an ignore pattern matches the
  respelled text just if it matches the way from the handler's directory to the path.
* If the pattern is such a text itself, then no path in the answer has a way there that an ignore pattern
  matches.
-/
theorem glob_answers_unignored
    {host : Host}
    (named : host.tree.WellNamed)
    {options : GlobOptions}
    {pattern : String}
    {answer : Answer}
    {final : Host}
    (answered : (Handler.glob options).call pattern host = .ok answer final) :
    ∃ (found : List (List Char)) (paths : List String),
      (host.globScope options).expand pattern.toList = .ok found ∧
        answer = .plain (.list (paths.map .str)) ∧
        (∀ path, path ∈ paths ↔
          ∃ text ∈ found,
            Glob.Exclusions.Keeps ⟨options.nodir, options.ignore⟩ (host.globScope options)
                (Glob.respell text) ∧
              path = host.globPath options text) ∧
        (∀ text, Glob.IsLower text →
          ∀ way, Path.IsWayTo (host.globHome options) way (host.globPath options text) →
            ∀ ignore,
              Wildcard.isIgnored (String.ofList (Glob.respell text)) ignore =
                Wildcard.isIgnored way ignore) ∧
        (Glob.IsLower pattern.toList →
          ∀ path ∈ paths, ∀ way, Path.IsWayTo (host.globHome options) way path →
            ∀ ignore ∈ options.ignore, Wildcard.isIgnored way ignore = false) := by
  obtain ⟨paths, searched, rfl⟩ := search_of_call_glob answered
  obtain ⟨found, given, members⟩ := Glob.mem_search_iff searched
  have answers (path : String) :
      path ∈ paths ↔
        ∃ text ∈ found,
          Glob.Exclusions.Keeps ⟨options.nodir, options.ignore⟩ (host.globScope options)
              (Glob.respell text) ∧
            path = host.globPath options text := by
    rw [members]
    simp only [Host.globPath_eq]
    rfl
  have ways (text : List Char) (lower : Glob.IsLower text) (way : String)
      (leads : Path.IsWayTo (host.globHome options) way (host.globPath options text)) :=
    lower.isIgnored_respell host.isAbsolute_cwdText leads
  refine ⟨found, paths, given, rfl, answers, ways, ?_⟩
  intro lower path member way leads ignore among
  obtain ⟨text, inside, kept, rfl⟩ := (answers path).mp member
  have all : Glob.Ensures (∀ text ∈ ·, Glob.IsLower text) ((host.globScope options).expand _) :=
    Glob.Scope.expand_ensures named Glob.isLower_keptByWalks lower
  rw [given] at all
  rw [← ways text (all text inside) way leads]
  exact kept.unmatched ignore among

/-- A host with a file beside a directory. -/
def besideHost : Host :=
  ⟨(FileTree.empty.insert ["w", "a.txt"] (.file (.bytes []))).insert ["w", "d"] .directory,
    [], [], "", .usual, .blank, none, .empty⟩

/-- Options to leave out the file. -/
def besideOptions : GlobOptions :=
  ⟨"/w", false, false, ["a.txt"]⟩

theorem besideHost_wellNamed :
    besideHost.tree.WellNamed :=
  (FileTree.wellNamed_empty.insert (by decide) _).insert (by decide) _

theorem entry?_above_beside
    (name : String) :
    ∀ count < 2, besideHost.tree.entry? (["w", name].take count) = some .directory := by
  intro count less
  match count, less with
  | 0, _ => rfl
  | 1, _ => rfl

/-- The file is found by its name. -/
theorem find_straight :
    besideHost.tree.find false [] "/w/a.txt" = .ok (["w", "a.txt"], .file (.bytes [])) := by
  have spells : FileTree.Spells "/w/a.txt" ["w", "a.txt"] := ⟨rfl, rfl, by decide, by decide⟩
  exact FileTree.find_of_entry spells (entry?_above_beside "a.txt") rfl nofun

/-- The file is found by way of the directory beside it. -/
theorem find_around :
    besideHost.tree.find false [] "/w/d/../a.txt" = .ok (["w", "a.txt"], .file (.bytes [])) := by
  change besideHost.tree.walk false 40 [] ["", "w", "d", "..", "a.txt"] = _
  rw [FileTree.walk]
  change besideHost.tree.walk false 40 [] ["w", "d", "..", "a.txt"] = _
  rw [FileTree.walk]
  change besideHost.tree.walk false 40 ["w"] ["d", "..", "a.txt"] = _
  rw [FileTree.walk]
  change besideHost.tree.walk false 40 ["w", "d"] ["..", "a.txt"] = _
  rw [FileTree.walk]
  change besideHost.tree.walk false 40 ["w"] ["a.txt"] = _
  rw [FileTree.walk]
  change besideHost.tree.walk false 40 ["w", "a.txt"] [] = _
  rw [FileTree.walk]
  rfl

/-- The pattern for all names finds the file and the directory. -/
theorem expand_beside :
    (besideHost.globScope besideOptions).expand "*".toList = .ok ["a.txt".toList, "d".toList] := by
  have above : ∀ count < 1, besideHost.tree.entry? (["w"].take count) = some .directory := by
    intro count less
    rw [Nat.lt_one_iff.mp less]
    rfl
  have found : besideHost.tree.find true [] "/w" = .ok (["w"], .directory) :=
    FileTree.find_of_entry ⟨rfl, rfl, by decide, by decide⟩ above rfl nofun
  have listed : besideHost.tree.list [] "/w" = ["a.txt", "d"] := by
    rw [FileTree.list, found]
    rfl
  have names :
      (besideHost.globScope besideOptions).list false "/w".toList =
        .ok ["a.txt".toList, "d".toList] := by
    change Except.ok ((besideHost.tree.list [] "/w").map String.toList) = _
    rw [listed]
    rfl
  have accepted :
      ["a.txt".toList, "d".toList].filter (Wildcard.accepts "*".toList) =
        ["a.txt".toList, "d".toList] := by
    decide +kernel
  have matched :
      (besideHost.globScope besideOptions).matchNames false "/w".toList "*".toList =
        .ok ["a.txt".toList, "d".toList] := by
    rw [Glob.Scope.matchNames, names]
    exact congrArg Except.ok accepted
  have walks :
      (besideHost.globScope besideOptions).expand "*".toList =
        (besideHost.globScope besideOptions).matchNames false "/w".toList "*".toList >>= pure :=
    rfl
  rw [walks, matched]
  rfl

/-- The file is left out, and no ignore pattern matches the way to the directory. -/
theorem glob_answers_unignored_beside :
    besideHost.tree.WellNamed ∧
      (Handler.glob besideOptions).call "*" besideHost =
        .ok (.plain (.list [.str "/w/d"]))
          { besideHost with world := Module.World.empty.note (.matched "*" "/w" 1) } ∧
      Path.IsWayTo (besideHost.globHome besideOptions) "d" "/w/d" ∧
      Wildcard.isIgnored "d" "a.txt" = false := by
  have searched :
      Glob.search (besideHost.globScope besideOptions) ⟨besideOptions.nodir, besideOptions.ignore⟩ "*" =
        .ok ["/w/d"] := by
    have sorted : ["a.txt".toList, "d".toList].Pairwise (Glob.precedes · ·) := by decide
    have unmatched :
        (["a.txt".toList, "d".toList].filter fun path =>
          !besideOptions.ignore.any (Wildcard.isIgnored (String.ofList path))) = ["d".toList] := by
      decide +kernel
    have respelled :
        ["a.txt".toList, "d".toList].map Glob.respell = ["a.txt".toList, "d".toList] := by
      decide
    rw [Glob.search_of_expand expand_beside, respelled, List.mergeSort_of_pairwise sorted, unmatched]
    rfl
  have answered := call_glob_of_search searched
  obtain ⟨found, paths, -, given, -, -, unmatched⟩ :=
    glob_answers_unignored besideHost_wellNamed answered
  have same : ["/w/d"] = paths :=
    (List.map_inj_right fun _ _ => Module.Value.str.inj).mp
      (Module.Value.list.inj (Answer.plain.inj given))
  have lower : Glob.IsLower "*".toList := ⟨by decide, by decide⟩
  have way : Path.IsWayTo (besideHost.globHome besideOptions) "d" "/w/d" := by decide
  have member : "/w/d" ∈ paths := same ▸ List.mem_singleton_self _
  exact ⟨besideHost_wellNamed, answered, way,
    unmatched lower "/w/d" member "d" way "a.txt" (List.mem_singleton_self _)⟩

/--
Ignore patterns do not ignore however a match is spelled: a file that an ignore pattern names is in the
answer if it is spelled from the root, or by way of a directory and back.
-/
theorem glob_answers_with_ignored :
    besideHost.tree.WellNamed ∧
      (∀ pattern ∈ ["/w/a.txt", "d/../a.txt"],
        (Handler.glob besideOptions).call pattern besideHost =
          .ok (.plain (.list [.str "/w/a.txt"]))
            { besideHost with world := Module.World.empty.note (.matched pattern "/w" 1) }) ∧
      Path.IsWayTo (besideHost.globHome besideOptions) "a.txt" "/w/a.txt" ∧
      Wildcard.isIgnored "a.txt" "a.txt" = true := by
  have present {path : List Char}
      (found :
        besideHost.tree.find false [] (String.ofList path) =
          .ok (["w", "a.txt"], .file (.bytes []))) :
      (besideHost.globScope besideOptions).isPresent path = true := by
    change besideHost.tree.isPresent [] (String.ofList path) = true
    rw [FileTree.isPresent, found]
  have answers {pattern : String}
      (plain : Wildcard.isMagic pattern.toList = false)
      (named : Path.baseName pattern.toList ≠ [])
      (there :
        (besideHost.globScope besideOptions).isPresent (Glob.beneath "/w".toList pattern.toList) = true)
      (unmatched : Wildcard.isIgnored (String.ofList (Glob.respell pattern.toList)) "a.txt" = false)
      (path : besideHost.globPath besideOptions pattern.toList = "/w/a.txt") :
      (Handler.glob besideOptions).call pattern besideHost =
        .ok (.plain (.list [.str "/w/a.txt"]))
          { besideHost with world := Module.World.empty.note (.matched pattern "/w" 1) } := by
    rw [← path]
    exact call_glob_of_literal plain named there ⟨List.forall_mem_singleton.mpr unmatched, nofun⟩
  refine ⟨besideHost_wellNamed, ?_, by decide, by decide +kernel⟩
  refine List.forall_mem_cons.mpr ⟨?_, List.forall_mem_singleton.mpr ?_⟩
  · exact answers (by decide) (by decide) (present find_straight) (by decide +kernel) (by decide)
  · exact answers (by decide) (by decide) (present find_around) (by decide +kernel) (by decide)

end Handler

end ConfigTokens
