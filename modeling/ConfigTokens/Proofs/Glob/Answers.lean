import ConfigTokens.Handler.Call
import ConfigTokens.Proofs.Glob.Walk
/-!
# Answers to patterns

A handler for patterns answers with what a search gives, and a search gives the paths of what its walk finds,
but for what it is to leave out. Ignore patterns and the test for directories are put to the texts that the
walk has found, respelled; only what is kept is anchored. So something that is named without special
characters is in the answer unless an ignore pattern matches the text of that name.
-/

namespace ConfigTokens

namespace Glob

open ConfigTokens.Path
open ConfigTokens.Wildcard

/-! ## Order of texts -/

theorem precedes_iff
    {first second : List Char} :
    precedes first second = true ↔ ¬List.Lex (· < ·) second first := by
  induction first generalizing second with
  | nil => simp [precedes]
  | cons a rest ih =>
      cases second with
      | nil => simp [precedes]
      | cons b others =>
          have either : a < b ∨ a = b ∨ b < a := by grind
          have apart : ¬(a < b ∧ b < a) := fun both => Char.lt_asymm both.1 both.2
          rw [List.cons_lex_cons_iff, precedes, Bool.or_eq_true, Bool.and_eq_true, decide_eq_true_iff,
            decide_eq_true_iff, ih]
          grind

/-- The order of texts is the order of strings. -/
theorem precedes_iff_le
    {first second : List Char} :
    precedes first second = true ↔ String.ofList first ≤ String.ofList second := by
  have unfolded :
      (String.ofList first ≤ String.ofList second) =
        ¬List.Lex (· < ·) (String.ofList second).toList (String.ofList first).toList := rfl
  rw [unfolded, String.toList_ofList, String.toList_ofList, precedes_iff]

theorem precedes_mergeSort
    (texts : List (List Char)) :
    (texts.mergeSort precedes).Pairwise (precedes · ·) := by
  refine List.pairwise_mergeSort (fun first second third before after => ?_) (fun first second => ?_) texts
  · exact precedes_iff_le.mpr (String.le_trans (precedes_iff_le.mp before) (precedes_iff_le.mp after))
  · rw [Bool.or_eq_true, precedes_iff_le, precedes_iff_le]
    exact String.le_total _ _

/-- Texts in order are what sorting makes of any arrangement of them. -/
theorem mergeSort_of_perm
    {texts sorted : List (List Char)}
    (ordered : sorted.Pairwise (precedes · ·))
    (arranged : texts.Perm sorted) :
    texts.mergeSort precedes = sorted := by
  have antisymm (first second : List Char) (before : precedes first second = true)
      (after : precedes second first = true) : first = second :=
    String.ofList_inj.mp (String.le_antisymm (precedes_iff_le.mp before) (precedes_iff_le.mp after))
  exact List.Perm.eq_of_pairwise (fun first second _ _ => antisymm first second) (precedes_mergeSort texts)
    ordered ((List.mergeSort_perm texts precedes).trans arranged)

/-! ## Searches -/

variable {Content : Type}

/-- A search keeps a path that no ignore pattern matches, and no directory if those are left out. -/
structure Exclusions.Keeps
    (exclusions : Exclusions)
    (scope : Scope Content)
    (path : List Char) : Prop where
  unmatched : ∀ ignore ∈ exclusions.patterns, isIgnored (String.ofList path) ignore = false
  wanted : exclusions.directories = true → scope.isDirectory (join scope.root path) = false

variable {scope : Scope Content}
variable {exclusions : Exclusions}
variable {pattern : String}

theorem Exclusions.keeps_iff
    {path : List Char} :
    exclusions.Keeps scope path ↔
      (!exclusions.patterns.any (isIgnored (String.ofList path))) = true ∧
        (!(exclusions.directories && scope.isDirectory (join scope.root path))) = true := by
  constructor
  · rintro ⟨unmatched, wanted⟩
    refine ⟨by simpa using unmatched, ?_⟩
    cases asked : exclusions.directories with
    | false => rfl
    | true => simp [wanted asked]
  · rintro ⟨unmatched, wanted⟩
    refine ⟨by simpa using unmatched, fun asked => ?_⟩
    simpa [asked] using wanted

/-- A search answers with what its walk finds: respelled, in order, and anchored where it is kept. -/
theorem search_of_expand
    {found : List (List Char)}
    (given : scope.expand pattern.toList = .ok found) :
    search scope exclusions pattern =
      .ok (((((found.map respell).mergeSort precedes).filter fun path =>
          !exclusions.patterns.any (isIgnored (String.ofList path))).filter fun path =>
          !(exclusions.directories && scope.isDirectory (join scope.root path))).map fun path =>
        String.ofList (anchor (FileTree.pathText scope.cwd).toList scope.root path)) := by
  unfold search
  rw [given]
  rfl

/-- Searches whose ignore patterns agree on what the walk finds give the same. -/
theorem search_congr
    {others : Exclusions}
    (directories : exclusions.directories = others.directories)
    (same : ∀ found, scope.expand pattern.toList = .ok found → ∀ text ∈ found,
      exclusions.patterns.any (isIgnored (String.ofList (respell text))) =
        others.patterns.any (isIgnored (String.ofList (respell text)))) :
    search scope exclusions pattern = search scope others pattern := by
  cases given : scope.expand pattern.toList with
  | error fault =>
      unfold search
      rw [given]
      rfl
  | ok found =>
      have agree : ∀ path ∈ (found.map respell).mergeSort precedes,
          (!exclusions.patterns.any (isIgnored (String.ofList path))) =
            !others.patterns.any (isIgnored (String.ofList path)) := by
        intro path sorted
        obtain ⟨text, member, rfl⟩ := List.mem_map.mp (List.mem_mergeSort.mp sorted)
        rw [same found given text member]
      rw [search_of_expand given, search_of_expand given, List.filter_congr agree, directories]

/-- A search gives the paths of the texts that its walk finds and that it keeps. -/
theorem mem_search_iff
    {paths : List String}
    (searched : search scope exclusions pattern = .ok paths) :
    ∃ found, scope.expand pattern.toList = .ok found ∧
      ∀ path, path ∈ paths ↔
        ∃ text ∈ found, exclusions.Keeps scope (respell text) ∧
          path = String.ofList
            (anchor (FileTree.pathText scope.cwd).toList scope.root (respell text)) := by
  cases given : scope.expand pattern.toList with
  | error fault =>
      unfold search at searched
      rw [given] at searched
      cases searched
  | ok found =>
      rw [search_of_expand given] at searched
      cases searched
      refine ⟨found, rfl, fun path => ?_⟩
      constructor
      · intro member
        obtain ⟨text, among, rfl⟩ := List.mem_map.mp member
        obtain ⟨unmatched, wanted⟩ := List.mem_filter.mp among
        obtain ⟨sorted, unmatched⟩ := List.mem_filter.mp unmatched
        obtain ⟨raw, inside, rfl⟩ := List.mem_map.mp (List.mem_mergeSort.mp sorted)
        exact ⟨raw, inside, Exclusions.keeps_iff.mpr ⟨unmatched, wanted⟩, rfl⟩
      · rintro ⟨raw, inside, keeps, rfl⟩
        obtain ⟨unmatched, wanted⟩ := Exclusions.keeps_iff.mp keeps
        have sorted : respell raw ∈ (found.map respell).mergeSort precedes :=
          List.mem_mergeSort.mpr (List.mem_map_of_mem inside)
        exact List.mem_map_of_mem
          (List.mem_filter.mpr ⟨List.mem_filter.mpr ⟨sorted, unmatched⟩, wanted⟩)

/-- A pattern without special characters that ends in a name finds itself where something stands. -/
theorem expand_of_literal
    {text : List Char}
    (plain : isMagic text = false)
    (named : baseName text ≠ [])
    (present : scope.isPresent (beneath scope.root text) = true) :
    scope.expand text = .ok [text] := by
  have filled : text ≠ [] := by
    rintro rfl
    exact named rfl
  have literal : text.take 2 ≠ anySegments := by
    intro stars
    have star : '*' ∈ text.take 2 := by
      rw [stars]
      exact List.mem_cons_self
    exact List.any_eq_false.mp plain '*' (List.mem_of_mem_take star) rfl
  have holds : scope.Holds text := by rwa [Scope.Holds, if_neg named]
  rw [Scope.expand_eq_expandFrom filled literal, Scope.expandFrom_of_plain _ _ plain, if_pos holds]

/-- A pattern of special characters in its last segment only finds what that matches in the directory. -/
theorem expand_of_last
    {text : List Char}
    {names : List (List Char)}
    (special : isMagic text = true)
    (plain : isMagic (directory text) = false)
    (below : directory text ≠ [])
    (unlike : text.take 2 ≠ anySegments)
    (matched : scope.matchLast false (beneath scope.root (directory text)) (baseName text) = .ok names) :
    scope.expand text = .ok (names.map (join (directory text))) := by
  have filled : text ≠ [] := by
    rintro rfl
    cases special
  rw [Scope.expand_eq_expandFrom filled unlike, Scope.expandFrom_of_last _ _ special below plain,
    Scope.matchEach_singleton, matched]
  rfl

/-- A pattern that finds itself is the answer where it is kept. -/
theorem search_of_literal
    (plain : isMagic pattern.toList = false)
    (named : baseName pattern.toList ≠ [])
    (present : scope.isPresent (beneath scope.root pattern.toList) = true)
    (kept : exclusions.Keeps scope (respell pattern.toList)) :
    search scope exclusions pattern =
      .ok [String.ofList
        (anchor (FileTree.pathText scope.cwd).toList scope.root (respell pattern.toList))] := by
  obtain ⟨unmatched, wanted⟩ := Exclusions.keeps_iff.mp kept
  rw [search_of_expand (expand_of_literal plain named present), List.map_singleton,
    List.mergeSort_singleton]
  simp only [List.filter_cons, List.filter_nil, unmatched, wanted, if_true, List.map_singleton]

end Glob

namespace Host

/-- Where and how a handler with options matches patterns. -/
def globScope
    (host : Host)
    (options : GlobOptions) : Glob.Scope Module.Content :=
  ⟨host.tree, host.cwd, options.cwd.toList, options.dot⟩

theorem isAbsolute_cwdText
    (host : Host) :
    Path.isAbsolute host.cwdText.toList = true := by
  simp [cwdText, FileTree.pathText]

/-- The directory of a handler with options, anchored. -/
def globHome
    (host : Host)
    (options : GlobOptions) : String :=
  Path.anchorText host.cwdText options.cwd ""

/-- The path that a handler with options gives for a text that its walk has found. -/
def globPath
    (host : Host)
    (options : GlobOptions)
    (text : List Char) : String :=
  Path.anchorText host.cwdText options.cwd (String.ofList (Glob.respell text))

theorem globPath_eq
    (host : Host)
    (options : GlobOptions)
    (text : List Char) :
    host.globPath options text =
      String.ofList (Path.anchor host.cwdText.toList options.cwd.toList (Glob.respell text)) := by
  rw [globPath, Path.anchorText, String.toList_ofList]

end Host

namespace Handler

theorem call_glob_of_search
    {options : GlobOptions}
    {pattern : String}
    {host : Host}
    {paths : List String}
    (found :
      Glob.search (host.globScope options) ⟨options.nodir, options.ignore⟩ pattern = .ok paths) :
    (Handler.glob options).call pattern host =
      .ok (.plain (.list (paths.map .str)))
        { host with world := host.world.note (.matched pattern options.cwd paths.length) } := by
  have matched :
      matchPattern options pattern host =
        .ok (.list (paths.map .str))
          { host with world := host.world.note (.matched pattern options.cwd paths.length) } := by
    unfold Host.globScope at found
    have got : (get : Hosted Host) host = .ok host host := rfl
    unfold matchPattern
    simp only [bind, EStateM.bind, got, found]
    rfl
  change EStateM.map Answer.plain (matchPattern options pattern) host = _
  unfold EStateM.map
  rw [matched]

/-- A handler throws if its search ends with an error. -/
theorem call_glob_of_fault
    {options : GlobOptions}
    {pattern : String}
    {host : Host}
    {fault : Glob.Fault}
    (failed :
      Glob.search (host.globScope options) ⟨options.nodir, options.ignore⟩ pattern = .error fault) :
    (Handler.glob options).call pattern host = .error .embeddedNull host := by
  change EStateM.map Answer.plain (matchPattern options pattern) host = _
  have got : (get : Hosted Host) host = .ok host host := rfl
  unfold Host.globScope at failed
  unfold EStateM.map matchPattern
  simp only [bind, EStateM.bind, got, failed]
  rfl

/-- Handlers in the same directory whose searches give the same answer the same and note the same. -/
theorem call_glob_congr
    {options others : GlobOptions}
    {pattern : String}
    {host : Host}
    (cwd : options.cwd = others.cwd)
    (same :
      Glob.search (host.globScope options) ⟨options.nodir, options.ignore⟩ pattern =
        Glob.search (host.globScope others) ⟨others.nodir, others.ignore⟩ pattern) :
    (Handler.glob options).call pattern host = (Handler.glob others).call pattern host := by
  cases found : Glob.search (host.globScope others) ⟨others.nodir, others.ignore⟩ pattern with
  | error fault => rw [call_glob_of_fault (same.trans found), call_glob_of_fault found]
  | ok paths => rw [call_glob_of_search (same.trans found), call_glob_of_search found, cwd]

/-- A handler that answers has searched, and gives what the search gave. -/
theorem search_of_call_glob
    {options : GlobOptions}
    {pattern : String}
    {host final : Host}
    {answer : Answer}
    (answered : (Handler.glob options).call pattern host = .ok answer final) :
    ∃ paths,
      Glob.search (host.globScope options) ⟨options.nodir, options.ignore⟩ pattern = .ok paths ∧
        answer = .plain (.list (paths.map .str)) := by
  cases found : Glob.search (host.globScope options) ⟨options.nodir, options.ignore⟩ pattern with
  | error fault =>
      rw [call_glob_of_fault found] at answered
      cases answered
  | ok paths =>
      rw [call_glob_of_search found] at answered
      cases answered
      exact ⟨paths, rfl, rfl⟩

/-- Something that is named without special characters is in the answer, unless an ignore pattern matches
the text of its name. -/
theorem call_glob_of_literal
    {host : Host}
    {options : GlobOptions}
    {pattern : String}
    (plain : Wildcard.isMagic pattern.toList = false)
    (named : Path.baseName pattern.toList ≠ [])
    (present :
      (host.globScope options).isPresent (Glob.beneath options.cwd.toList pattern.toList) = true)
    (kept :
      Glob.Exclusions.Keeps ⟨options.nodir, options.ignore⟩ (host.globScope options)
        (Glob.respell pattern.toList)) :
    (Handler.glob options).call pattern host =
      .ok (.plain (.list [.str (host.globPath options pattern.toList)]))
        { host with world := host.world.note (.matched pattern options.cwd 1) } := by
  rw [call_glob_of_search (Glob.search_of_literal plain named present kept), Host.globPath_eq]
  rfl

end Handler

end ConfigTokens
