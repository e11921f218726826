import ConfigTokens.Proofs.FileTree.Resolved
import ConfigTokens.Proofs.Glob.Bounds
import ConfigTokens.Proofs.Glob.Climbing
/-!
# What stands at the answers

Whatever a walk finds stands below the root of the walk: it is looked up there, or listed in a directory that
has been (`Scope.Finds.stands`). Anchoring leads along the segments without a look at the tree, and so it leads
elsewhere if they go up behind a link, since the parent of what a link leads to is not where the link is. If
they do not, then the path in the answer denotes what the text does.
-/

namespace ConfigTokens

namespace Path

/-! ## Paths that are joined twice -/

/-- What a path needs behind it for another one to follow. -/
def gap
    (base : List Char) : List Char :=
  if base = [] || base.getLast? = some '/' then [] else ['/']

theorem join_eq_append
    (base : List Char)
    {path : List Char}
    (relative : isAbsolute path = false) :
    join base path = base ++ gap base ++ path := by
  unfold join gap
  rw [if_neg (by simp [relative])]
  split
  case isTrue => rw [List.append_nil]
  case isFalse => rw [List.append_assoc, List.singleton_append]

theorem join_ne_nil
    {base : List Char}
    (filled : base ≠ [])
    {path : List Char}
    (relative : isAbsolute path = false) :
    join base path ≠ [] := by
  rw [join_eq_append base relative]
  simp [filled]

/-- A path that follows another one decides what it needs itself. -/
theorem gap_append
    (base path : List Char) :
    gap (base ++ gap base ++ path) = gap path := by
  by_cases none : path = []
  · subst none
    rw [List.append_nil]
    unfold gap
    split
    case isTrue closed => rw [List.append_nil, if_pos closed, if_pos (by simp)]
    case isFalse => rw [if_pos (by simp), if_pos (by simp)]
  · unfold gap
    simp [none]

/-- What is joined to a joined path may be joined to its end before. -/
theorem join_join
    (base path : List Char)
    {name : List Char}
    (relative : isAbsolute name = false) :
    join (join base path) name = join base (join path name) := by
  by_cases rooted : isAbsolute path = true
  · have whole : isAbsolute (join path name) = true := by rw [isAbsolute_join, rooted, Bool.true_or]
    rw [join_absolute rooted, join_absolute whole]
  · have start : isAbsolute path = false := Bool.eq_false_iff.mpr rooted
    have whole : isAbsolute (join path name) = false := by
      rw [isAbsolute_join, start, relative, Bool.or_false]
    rw [join_eq_append base start, join_eq_append _ relative, gap_append, join_eq_append base whole,
      join_eq_append path relative]
    simp only [List.append_assoc]

end Path

namespace Glob

open ConfigTokens.Path
open ConfigTokens.Wildcard

theorem beneath_eq_join
    {directory name : List Char}
    (filled : directory ≠ [])
    (some : name ≠ []) :
    beneath directory name = join directory name := by
  unfold beneath
  rw [if_neg filled, if_neg some]

/-- A name below a place below a root is the joined name, below the root. -/
theorem join_beneath
    {root : List Char}
    (filled : root ≠ [])
    (place : List Char)
    {name : List Char}
    (relative : isAbsolute name = false) :
    join (beneath root place) name = join root (join place name) := by
  by_cases empty : place = []
  · subst empty
    have alone : join [] name = name := by simp [join, relative]
    rw [alone, beneath, if_neg filled, if_pos rfl]
  · rw [beneath_eq_join filled empty, join_join root place relative]

theorem segments_beneath
    {directory : List Char}
    (filled : directory ≠ [])
    (name : List Char) :
    segments (beneath directory name) = segments (join directory name) := by
  by_cases empty : name = []
  · rw [empty, beneath, if_neg filled, if_pos rfl, segments_join_of_relative directory rfl]
    exact (List.append_nil _).symm
  · rw [beneath_eq_join filled empty]

theorem isAbsolute_beneath
    {root : List Char}
    (rooted : isAbsolute root = true)
    (place : List Char) :
    isAbsolute (beneath root place) = true := by
  unfold beneath
  split
  case isTrue empty =>
      rw [empty] at rooted
      cases rooted
  case isFalse =>
      split
      case isTrue => exact rooted
      case isFalse => rw [isAbsolute_join, rooted, Bool.true_or]

/-- Respelling takes no step of a joined path away and adds none. -/
theorem steps_join_respell
    (base path : List Char) :
    steps (join base (respell path)) = steps (join base path) := by
  have same : isAbsolute (respell path) = isAbsolute path := by
    rw [isAbsolute_eq, lead_respell, ← isAbsolute_eq]
  by_cases rooted : isAbsolute path = true
  · rw [join_absolute rooted, join_absolute (same.trans rooted), steps_respell]
  · have relative : isAbsolute path = false := Bool.eq_false_iff.mpr rooted
    rw [steps_join base relative, steps_join base (same.trans relative), steps_respell]

theorem ne_nil_of_isAbsolute
    {path : List Char}
    (rooted : isAbsolute path = true) :
    path ≠ [] := by
  rintro rfl
  cases rooted

namespace Scope

variable {Content : Type}
variable {scope : Scope Content}

/-! ## What is listed stands -/

theorem way_of_denotes
    {directory : List Char}
    {place : List String}
    (rooted : isAbsolute directory = true)
    (denotes : scope.Denotes directory place) :
    '\x00' ∉ directory ∧
      scope.tree.Way true FileTree.linkLimit [] (FileTree.namesOf (String.ofList directory))
        (place, .directory) := by
  unfold Denotes at denotes
  rw [if_neg (ne_nil_of_isAbsolute rooted)] at denotes
  exact FileTree.way_of_find rooted denotes

/-- Something stands at a directory that is spelled in another way. -/
theorem stands_of_isDirectory
    {directory path : List Char}
    (rooted : isAbsolute directory = true)
    (is : scope.isDirectory directory = true)
    (clean : '\x00' ∉ path)
    (same : steps directory = steps path) :
    scope.tree.Stands path := by
  obtain ⟨place, denotes⟩ := (isDirectory_iff (ne_nil_of_isAbsolute rooted)).mp is
  exact FileTree.stands_of_directory clean (way_of_denotes rooted denotes).2 same

/-- A directory stands at its own path without a name. -/
theorem stands_here
    {directory : List Char}
    (rooted : isAbsolute directory = true)
    (is : scope.isDirectory directory = true) :
    scope.tree.Stands (join directory []) := by
  obtain ⟨place, denotes⟩ := (isDirectory_iff (ne_nil_of_isAbsolute rooted)).mp is
  have clean := null_not_mem_join (way_of_denotes rooted denotes).1 List.not_mem_nil
  refine stands_of_isDirectory rooted is clean ?_
  rw [steps_join directory rfl]
  exact (List.append_nil _).symm

/-- A name without special characters is found where it stands. -/
theorem matchLiteral_stands
    {directory last name : List Char}
    (rooted : isAbsolute directory = true)
    (member : name ∈ scope.matchLiteral directory last) :
    scope.tree.Stands (join directory name) := by
  rw [eq_of_mem_matchLiteral member]
  unfold matchLiteral at member
  split at member
  case isTrue empty =>
      split at member
      case isTrue is =>
          rw [empty]
          exact stands_here rooted is
      case isFalse => cases member
  case isFalse filled =>
      split at member
      case isTrue present =>
          have joined : isAbsolute (join directory last) = true := by
            rw [isAbsolute_join, rooted, Bool.true_or]
          rw [beneath_eq_join (ne_nil_of_isAbsolute rooted) filled] at present
          exact FileTree.stands_of_isPresent joined present
      case isFalse => cases member

section

variable (named : scope.tree.WellNamed)
variable (short : scope.tree.ShortNamed)

include named short

theorem stands_of_list
    {directoriesOnly : Bool}
    {directory name : List Char}
    {names : List (List Char)}
    (rooted : isAbsolute directory = true)
    (listed : scope.list directoriesOnly directory = .ok names)
    (member : name ∈ names) :
    IsName name ∧ scope.tree.Stands (join directory name) := by
  obtain ⟨place, denotes, inside⟩ := exists_denotes_of_list listed member
  obtain ⟨clean, way⟩ := way_of_denotes rooted denotes
  have single := named.isName_of_mem_names inside
  have pure : '\x00' ∉ name := by
    have clean := (named.of_mem_names inside).2
    rwa [String.toList_ofList] at clean
  exact ⟨single, FileTree.stands_join (ne_nil_of_isAbsolute rooted) way single (null_not_mem_join clean pure)
    (FileTree.isStep_of_mem_names named short inside) inside⟩

/-- A descent finds what stands below the directory. -/
theorem descend_stands
    (directoriesOnly : Bool)
    (depth : Nat)
    {directory : List Char}
    (rooted : isAbsolute directory = true) :
    Ensures (∀ path ∈ ·, path ≠ [] ∧ scope.tree.Stands (join directory path))
      (scope.descend directoriesOnly depth directory) := by
  induction depth generalizing directory with
  | zero => exact List.forall_mem_nil _
  | succ depth deeper =>
      unfold descend
      cases listed : scope.list directoriesOnly directory with
      | error => exact trivial
      | ok names =>
          refine Ensures.mapM_flatten fun name member => ?_
          obtain ⟨single, stands⟩ := stands_of_list named short rooted listed (List.mem_filter.mp member).1
          have below : Glob.beneath directory name = join directory name :=
            beneath_eq_join (ne_nil_of_isAbsolute rooted) single.1
          have lower := deeper (isAbsolute_beneath rooted name)
          have relative :=
            descend_ensures named relative_keptByWalks directoriesOnly depth (Glob.beneath directory name)
          refine (lower.and relative).bind fun paths both => ?_
          obtain ⟨all, relative⟩ := both
          refine List.forall_mem_cons.mpr ⟨⟨single.1, stands⟩, fun path member => ?_⟩
          obtain ⟨further, inside, rfl⟩ := List.mem_map.mp member
          obtain ⟨filled, stands⟩ := all further inside
          rw [below, join_join directory name (relative further inside)] at stands
          rw [beneath_eq_join single.1 filled]
          exact ⟨join_ne_nil single.1 (relative further inside), stands⟩

theorem matchBelow_stands
    (directoriesOnly : Bool)
    {directory : List Char}
    (rooted : isAbsolute directory = true) :
    Ensures (∀ name ∈ ·, scope.tree.Stands (join directory name))
      (scope.matchBelow directoriesOnly directory) := by
  unfold matchBelow
  refine (descend_stands named short directoriesOnly _ rooted).bind fun paths all path member => ?_
  rcases List.mem_append.mp member with alone | below
  · split at alone
    case isTrue is =>
        rw [List.mem_singleton.mp alone]
        exact stands_here rooted (by simpa [ne_nil_of_isAbsolute rooted] using is)
    case isFalse => cases alone
  · exact (all path below).2

theorem matchNames_stands
    (directoriesOnly : Bool)
    {directory : List Char}
    (rooted : isAbsolute directory = true)
    (pattern : List Char) :
    Ensures (∀ name ∈ ·, scope.tree.Stands (join directory name))
      (scope.matchNames directoriesOnly directory pattern) := by
  rw [matchNames_eq]
  cases listed : scope.list directoriesOnly directory with
  | error => exact trivial
  | ok names =>
      exact fun name member =>
        (stands_of_list named short rooted listed ((taken_sublist pattern names).subset member)).2

/-- What the last segment of a pattern finds in a directory stands there. -/
theorem matchLast_stands
    (directoriesOnly : Bool)
    {directory : List Char}
    (rooted : isAbsolute directory = true)
    (last : List Char) :
    Ensures (∀ name ∈ ·, scope.tree.Stands (join directory name))
      (scope.matchLast directoriesOnly directory last) := by
  unfold matchLast
  split
  case isTrue => exact matchBelow_stands named short directoriesOnly rooted
  case isFalse =>
      split
      case isTrue => exact matchNames_stands named short directoriesOnly rooted last
      case isFalse => exact fun name member => matchLiteral_stands rooted member

/-- Whatever a pattern finds stands below the root. -/
theorem Finds.stands
    (rooted : isAbsolute scope.root = true)
    {directoriesOnly : Bool}
    {pattern text : List Char}
    (finds : scope.Finds directoriesOnly pattern text) :
    scope.tree.Stands (join scope.root text) := by
  have filled := ne_nil_of_isAbsolute rooted
  have below {directoriesOnly : Bool} {pattern place name : List Char} {names : List (List Char)}
      (matched :
        scope.matchLast directoriesOnly (beneath scope.root place) (baseName pattern) = .ok names)
      (member : name ∈ names) :
      scope.tree.Stands (join scope.root (join place name)) := by
    have start := isAbsolute_beneath rooted place
    have stands := matchLast_stands named short directoriesOnly start (baseName pattern)
    have relative :=
      matchLast_ensures named relative_keptByWalks directoriesOnly (beneath scope.root place)
        (isAbsolute_baseName pattern)
    rw [matched] at stands relative
    rw [← join_beneath filled place (relative name member)]
    exact stands name member
  cases finds with
  | literal plain holds =>
      unfold Holds at holds
      split at holds
      case isTrue closed =>
          -- Slashes at the end of the pattern ask for a directory.
          have start := isAbsolute_beneath rooted (directory pattern)
          obtain ⟨place, denotes⟩ := (isDirectory_iff (ne_nil_of_isAbsolute start)).mp holds
          have same : segments (beneath scope.root (directory pattern)) = segments (join scope.root pattern) := by
            have parts := segments_directory_append pattern
            rw [closed, segments_nil, List.append_nil] at parts
            rw [segments_beneath filled, segments_join, segments_join, parts, isAbsolute_eq (directory pattern),
              lead_directory, ← isAbsolute_eq]
          refine stands_of_isDirectory start holds (fun inside => ?_) (congrArg (List.filter _) same)
          obtain ⟨segment, among, within⟩ := exists_mem_segments inside (by decide)
          exact (way_of_denotes start denotes).1 (mem_of_mem_segments (same ▸ among) within)
      case isFalse named =>
          have some : pattern ≠ [] := by
            rintro rfl
            exact named rfl
          rw [beneath_eq_join filled some] at holds
          refine FileTree.stands_of_isPresent ?_ holds
          rw [isAbsolute_join, rooted, Bool.true_or]
  | inNamed _ _ matched member => exact below matched member
  | inFound _ _ matched member => exact below matched member

end

end Scope

end Glob

namespace Host

/-- The path for a text below a directory from the root is where the joined path leads. -/
theorem globPath_of_rooted
    (host : Host)
    {options : GlobOptions}
    (rooted : Path.isAbsolute options.cwd.toList = true)
    (text : List Char) :
    host.globPath options text =
      String.ofList ('/' :: Text.unite '/'
        (Path.resolve (Path.segments (Path.join options.cwd.toList text)))) := by
  have joined :
      Path.route host.cwdText.toList options.cwd.toList text =
        Path.segments (Path.join options.cwd.toList text) := by
    rw [Path.route, Path.segments_join, if_pos rooted]
  rw [globPath_eq, Glob.anchor_respell host.isAbsolute_cwdText, Path.anchor_eq host.isAbsolute_cwdText, joined]

end Host

namespace Handler

/--
What stands at the paths that a handler answers with, in a tree of proper names of which none is too long,
below a directory from the root:

* The answer holds the paths of just those texts that the walk finds and that are kept.
* If no link leads to a directory, then no path of a text that is found goes up behind a link.
* Take a text that is found such that its path below the directory goes up only from directories to which it
  follows no link. Then something stands at the path in the answer. It denotes, through links, what the text
  denotes below the directory, and is not a directory if those are left out. (A path of more than 4095 bytes
  denotes nothing, so that the joined paths have to be shorter.)
-/
theorem glob_answers_stand
    {host : Host}
    (named : host.tree.WellNamed)
    (short : host.tree.ShortNamed)
    {options : GlobOptions}
    (rooted : Path.isAbsolute options.cwd.toList = true)
    {pattern : String}
    {answer : Answer}
    {final : Host}
    (answered : (Handler.glob options).call pattern host = .ok answer final) :
    ∃ (found : List (List Char)) (paths : List String),
      (host.globScope options).expand pattern.toList = .ok found ∧
        answer = .plain (.list (paths.map .str)) ∧
        (∀ path, path ∈ paths ↔
          ∃ text ∈ found,
            Glob.Exclusions.Keeps ⟨options.nodir, options.ignore⟩ (host.globScope options)
                (Glob.respell text) ∧
              path = host.globPath options text) ∧
        (host.tree.LinksNoDirectory → ∀ text ∈ found,
          host.tree.ClimbsUnlinked
            (FileTree.namesOf (Path.joinText options.cwd (String.ofList text)))) ∧
        ∀ text ∈ found,
          host.tree.ClimbsUnlinked (FileTree.namesOf (Path.joinText options.cwd (String.ofList text))) →
            (FileTree.byteLength (Path.joinText options.cwd (String.ofList text)) < 4096 →
              host.tree.isPresent host.cwd (host.globPath options text) = true ∧
                host.tree.find true host.cwd (host.globPath options text) =
                  host.tree.find true host.cwd (Path.joinText options.cwd (String.ofList text))) ∧
            (options.nodir = true →
              Glob.Exclusions.Keeps ⟨options.nodir, options.ignore⟩ (host.globScope options)
                (Glob.respell text) →
                FileTree.byteLength (Path.joinText options.cwd (String.ofList (Glob.respell text))) < 4096 →
                  host.tree.isDirectory host.cwd (host.globPath options text) = false) := by
  obtain ⟨paths, searched, rfl⟩ := search_of_call_glob answered
  obtain ⟨found, given, members⟩ := Glob.mem_search_iff searched
  have stands : ∀ text ∈ found, host.tree.Stands (Path.join options.cwd.toList text) :=
    fun text member => (Glob.Scope.finds_of_expand given text member).stands named short rooted
  refine ⟨found, paths, given, rfl, fun path => ?_, fun plain text member => ?_, fun text member climbs => ?_⟩
  · rw [members]
    simp only [Host.globPath_eq]
    rfl
  · obtain ⟨last, way⟩ := (stands text member).way
    rw [Path.joinText, String.toList_ofList]
    exact way.climbsUnlinked plain
  have stands := stands text member
  have start (text : List Char) : Path.isAbsolute (Path.join options.cwd.toList text) = true := by
    rw [Path.isAbsolute_join, rooted, Bool.true_or]
  rw [Path.joinText, String.toList_ofList] at climbs ⊢
  rw [host.globPath_of_rooted rooted]
  refine ⟨fun short => stands.find_resolved (start text) climbs short host.cwd, fun asked kept fits => ?_⟩
  rw [Path.joinText, String.toList_ofList] at fits
  cases is : host.tree.isDirectory host.cwd
      (String.ofList ('/' :: Text.unite '/'
        (Path.resolve (Path.segments (Path.join options.cwd.toList text))))) with
  | false => rfl
  | true =>
      have directory : host.tree.isDirectory host.cwd
          (String.ofList (Path.join options.cwd.toList (Glob.respell text))) = true :=
        stands.isDirectory_of_resolved (start text) climbs (start _)
          (Glob.steps_join_respell options.cwd.toList text).symm fits is
      exact absurd ((kept.wanted asked).symm.trans directory) Bool.false_ne_true

/-- A host with a link into a directory, and with two entries of one name in different directories. -/
def linkHost : Host :=
  ⟨⟨[(["w"], .directory), (["w", "d"], .directory), (["w", "d", "e"], .directory),
      (["w", "d", "x"], .file (.bytes [])), (["w", "x"], .directory), (["w", "link"], .link "d/e")]⟩,
    [], [], "", .usual, .blank, none, .empty⟩

/-- Options to leave out directories or not. -/
def linkOptions
    (nodir : Bool) : GlobOptions :=
  ⟨"/w", false, nodir, []⟩

theorem linkHost_wellNamed :
    linkHost.tree.WellNamed := by
  unfold FileTree.WellNamed linkHost
  decide

theorem linkHost_shortNamed :
    linkHost.tree.ShortNamed := by
  unfold FileTree.ShortNamed linkHost
  decide

/-- Each name leads further down, and so does the link. -/
theorem linkHost_acyclic :
    linkHost.tree.Acyclic := by
  have target : FileTree.namesOf "d/e" = ["d", "e"] := by decide
  refine FileTree.acyclic_of_deeper ?_
  rintro place below ⟨name, member, links, walked⟩
  obtain ⟨entry, inside, way⟩ := FileTree.mem_names.mp member
  have upper : place = entry.1.dropLast := by rw [way, List.dropLast_concat]
  have last : entry.1.getLast? = some name := by rw [way, List.getLast?_concat]
  simp only [linkHost, List.mem_cons, List.not_mem_nil, or_false] at inside
  rcases inside with rfl | rfl | rfl | rfl | rfl | rfl <;> cases last <;> subst upper <;>
    cases links <;>
    simp +decide [FileTree.walk, FileTree.entry?, linkHost, List.lookup_cons, target] at walked <;>
    simp [← walked]

theorem walk_linkHost
    (follow : Bool) :
    linkHost.tree.walk follow 40 [] ["", "w", "link", "..", "x"] = .ok (["w", "d", "x"], .file (.bytes [])) := by
  have target : FileTree.namesOf "d/e" = ["d", "e"] := by decide
  simp +decide [FileTree.walk, FileTree.entry?, linkHost, List.lookup_cons, target]

/-- A path up and back to a link denotes what the link alone does. -/
theorem glob_answers_stand_link :
    linkHost.tree.WellNamed ∧ linkHost.tree.ShortNamed ∧ Path.isAbsolute "/w".toList = true ∧
      (Handler.glob (linkOptions false)).call "d/../link" linkHost =
        .ok (.plain (.list [.str "/w/link"]))
          { linkHost with world := Module.World.empty.note (.matched "d/../link" "/w" 1) } ∧
      linkHost.tree.isPresent [] "/w/link" = true ∧
      linkHost.tree.find true [] "/w/link" = linkHost.tree.find true [] "/w/d/../link" := by
  have there : linkHost.tree.find false [] "/w/d/../link" = .ok (["w", "link"], .link "d/e") := by
    change linkHost.tree.walk false 40 [] ["", "w", "d", "..", "link"] = _
    simp +decide [FileTree.walk, FileTree.entry?, linkHost, List.lookup_cons]
  have present :
      (linkHost.globScope (linkOptions false)).isPresent (Glob.beneath "/w".toList "d/../link".toList) = true := by
    change linkHost.tree.isPresent [] "/w/d/../link" = true
    rw [FileTree.isPresent, there]
  have kept :
      Glob.Exclusions.Keeps ⟨(linkOptions false).nodir, (linkOptions false).ignore⟩
        (linkHost.globScope (linkOptions false)) (Glob.respell "d/../link".toList) :=
    ⟨List.forall_mem_nil _, fun asked => absurd asked Bool.false_ne_true⟩
  have path : linkHost.globPath (linkOptions false) "d/../link".toList = "/w/link" := by decide
  have answered :
      (Handler.glob (linkOptions false)).call "d/../link" linkHost =
        .ok (.plain (.list [.str "/w/link"]))
          { linkHost with world := Module.World.empty.note (.matched "d/../link" "/w" 1) } := by
    rw [← path]
    exact call_glob_of_literal (by decide) (by decide) present kept
  obtain ⟨found, paths, given, -, -, -, stand⟩ :=
    glob_answers_stand linkHost_wellNamed linkHost_shortNamed (by decide) answered
  have finds : (linkHost.globScope (linkOptions false)).expand "d/../link".toList = .ok ["d/../link".toList] :=
    Glob.expand_of_literal (by decide) (by decide) present
  have same : ["d/../link".toList] = found := Except.ok.inj (finds.symm.trans given)
  have climbs : linkHost.tree.ClimbsUnlinked ["", "w", "d", "..", "link"] := by
    intro front back shape
    have parts : ["", "w", "d"] ++ ".." :: ["link"] = front ++ ".." :: back := shape
    have only := ((List.append_cons_inj_of_notMem (by decide) (by decide)).mp parts).1
    refine ⟨["w", "d"], ?_⟩
    rw [← only]
    simp +decide [FileTree.walk, FileTree.entry?, linkHost, List.lookup_cons]
  obtain ⟨standing, -⟩ := stand "d/../link".toList (same ▸ List.mem_singleton_self _) climbs
  obtain ⟨stands, denotes⟩ := standing (by decide)
  rw [path] at stands denotes
  exact ⟨linkHost_wellNamed, linkHost_shortNamed, by decide, answered, stands, denotes⟩

/--
A path in the answer does not always denote what the text denotes below the directory: where the text goes up
behind a link, the path is that of something else, which may even be a directory that was to be left out.
-/
theorem glob_answers_astray :
    linkHost.tree.WellNamed ∧ linkHost.tree.ShortNamed ∧ linkHost.tree.Acyclic ∧
      (linkOptions true).nodir = true ∧
      (Handler.glob (linkOptions true)).call "link/../x" linkHost =
        .ok (.plain (.list [.str "/w/x"]))
          { linkHost with world := Module.World.empty.note (.matched "link/../x" "/w" 1) } ∧
      linkHost.tree.find true [] "/w/link/../x" = .ok (["w", "d", "x"], .file (.bytes [])) ∧
      linkHost.tree.find true [] "/w/x" = .ok (["w", "x"], .directory) ∧
      linkHost.tree.isDirectory [] "/w/x" = true := by
  have found (follow : Bool) :
      linkHost.tree.find follow [] "/w/link/../x" = .ok (["w", "d", "x"], .file (.bytes [])) :=
    walk_linkHost follow
  have other : linkHost.tree.find true [] "/w/x" = .ok (["w", "x"], .directory) := by
    change linkHost.tree.walk true 40 [] ["", "w", "x"] = _
    simp +decide [FileTree.walk, FileTree.entry?, linkHost, List.lookup_cons]
  have present :
      (linkHost.globScope (linkOptions true)).isPresent (Glob.beneath "/w".toList "link/../x".toList) = true := by
    change linkHost.tree.isPresent [] "/w/link/../x" = true
    rw [FileTree.isPresent, found]
  have file :
      (linkHost.globScope (linkOptions true)).isDirectory
        (Path.join "/w".toList (Glob.respell "link/../x".toList)) = false := by
    change linkHost.tree.isDirectory [] "/w/link/../x" = false
    rw [FileTree.isDirectory, found]
  have path : linkHost.globPath (linkOptions true) "link/../x".toList = "/w/x" := by decide
  refine ⟨linkHost_wellNamed, linkHost_shortNamed, linkHost_acyclic, rfl, ?_, found true, other, ?_⟩
  · rw [← path]
    exact call_glob_of_literal (by decide) (by decide) present ⟨List.forall_mem_nil _, fun _ => file⟩
  · rw [FileTree.isDirectory, other]

end Handler

end ConfigTokens
