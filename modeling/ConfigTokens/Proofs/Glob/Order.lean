import Mathlib.Data.List.Pairwise
import ConfigTokens.Proofs.Glob.Bounds
import ConfigTokens.Proofs.Glob.Climbing
/-!
# The order of answers

What a walk finds is put in order as text, and anchored afterwards. Where all texts share a start, because the
pattern starts at the root or goes up before its first special character, the paths share one too, and their
order is that of the texts (`Begins.precedes_anchor`).

Other texts lead down from the directory of the handler (`LeadsDown`). There the text of the directory itself
is the dot, but its path comes before all paths below it. So the answer is out of order just if it holds the
directory together with a path that goes on by a character before the dot (`pairwise_le_iff`).
-/

namespace ConfigTokens

namespace Path

open ConfigTokens.Text

/-! ## United names -/

theorem unite_append
    {front back : List (List Char)}
    (some : front ≠ [])
    (more : back ≠ []) :
    unite '/' (front ++ back) = unite '/' front ++ '/' :: unite '/' back := by
  induction front with
  | nil => exact absurd rfl some
  | cons name rest ih =>
      rw [List.cons_append, unite_cons_of_ne_nil '/' name (List.append_ne_nil_of_right_ne_nil rest more)]
      by_cases alone : rest = []
      · subst alone
        rw [List.nil_append, unite_singleton]
      · rw [ih alone, unite_cons_of_ne_nil '/' name alone, List.append_assoc, List.cons_append]

theorem unite_ne_nil
    {names : List (List Char)}
    (single : ∀ name ∈ names, IsName name)
    (some : names ≠ []) :
    unite '/' names ≠ [] := by
  intro empty
  have none := segments_unite single
  rw [empty] at none
  exact some none.symm

/-- The text of names does not end in a slash. -/
theorem getLast?_unite
    {names : List (List Char)}
    (single : ∀ name ∈ names, IsName name) :
    (unite '/' names).getLast? ≠ some '/' := by
  rcases List.eq_nil_or_concat names with rfl | ⟨front, last, rfl⟩
  · exact nofun
  · obtain ⟨filled, clean⟩ : IsName last := single last (by simp)
    have ends : ∃ before, unite '/' (front ++ [last]) = before ++ last := by
      by_cases alone : front = []
      · exact ⟨[], by rw [alone, List.nil_append, unite_singleton, List.nil_append]⟩
      · refine ⟨unite '/' front ++ ['/'], ?_⟩
        rw [unite_append alone (List.cons_ne_nil last []), unite_singleton, List.append_assoc]
        rfl
    obtain ⟨before, shape⟩ := ends
    rw [List.concat_eq_append, shape, List.getLast?_append, List.getLast?_eq_some_getLast filled,
      Option.some_or]
    exact fun slash => clean (Option.some.inj slash ▸ List.getLast_mem filled)

/-- Names that are joined to the place of others are united to them. -/
theorem join_unite
    {place names : List (List Char)}
    (ofPlace : ∀ name ∈ place, IsName name)
    (ofNames : ∀ name ∈ names, IsName name)
    (some : names ≠ []) :
    join ('/' :: unite '/' place) (unite '/' names) = '/' :: unite '/' (place ++ names) := by
  unfold join
  rw [if_neg (by simp [isAbsolute_unite ofNames])]
  by_cases root : place = []
  · subst root
    rfl
  · have unclosed : ('/' :: unite '/' place).getLast? ≠ Option.some '/' := by
      rw [List.getLast?_cons_of_ne_nil (unite_ne_nil ofPlace root)]
      exact getLast?_unite ofPlace
    rw [if_neg (by simpa using unclosed), unite_append root some, List.cons_append]

theorem join_right_injective
    {base first second : List Char}
    (ofFirst : isAbsolute first = false)
    (ofSecond : isAbsolute second = false)
    (same : join base first = join base second) :
    first = second := by
  simp only [join, ofFirst, ofSecond, Bool.false_eq_true, if_false] at same
  split at same
  case isTrue => exact List.append_cancel_left same
  case isFalse => exact (List.cons.inj (List.append_cancel_left same)).2

end Path

namespace Glob

open ConfigTokens.Path
open ConfigTokens.Wildcard

/-! ## Order of texts -/

theorem precedes_self
    (text : List Char) :
    precedes text text = true :=
  precedes_iff_le.mpr (String.le_refl _)

theorem precedes_append
    (front first second : List Char) :
    precedes (front ++ first) (front ++ second) = precedes first second := by
  induction front with
  | nil => rfl
  | cons c rest ih => simp [precedes, ih]

/-- Names in front of both sides do not change their order. -/
theorem precedes_unite_append
    (front : List (List Char))
    {first second : List (List Char)}
    (ofFirst : ∀ name ∈ first, IsName name)
    (ofSecond : ∀ name ∈ second, IsName name) :
    precedes (Text.unite '/' (front ++ first)) (Text.unite '/' (front ++ second)) =
      precedes (Text.unite '/' first) (Text.unite '/' second) := by
  by_cases root : front = []
  · subst root
    rfl
  have behind (text : List Char) : precedes (Text.unite '/' front) (Text.unite '/' front ++ text) = true := by
    have before := precedes_append (Text.unite '/' front) [] text
    rwa [List.append_nil] at before
  have beyond (text : List Char) (some : text ≠ []) :
      precedes (Text.unite '/' front ++ text) (Text.unite '/' front) = false := by
    have before := precedes_append (Text.unite '/' front) text []
    rw [List.append_nil] at before
    rw [before]
    obtain ⟨c, rest, rfl⟩ := List.exists_cons_of_ne_nil some
    rfl
  by_cases noFirst : first = []
  · subst noFirst
    by_cases noSecond : second = []
    · subst noSecond
      rw [precedes_self, precedes_self]
    · rw [List.append_nil, unite_append root noSecond, behind]
      rfl
  by_cases noSecond : second = []
  · subst noSecond
    rw [List.append_nil, unite_append root noFirst, beyond _ (List.cons_ne_nil _ _)]
    obtain ⟨c, rest, shape⟩ := List.exists_cons_of_ne_nil (unite_ne_nil ofFirst noFirst)
    rw [shape]
    rfl
  · rw [unite_append root noFirst, unite_append root noSecond, precedes_append,
      ← precedes_append ['/'] (Text.unite '/' first)]
    rfl

/-- The paths of texts that begin alike are in the order of the texts, if the texts share a start. -/
theorem Begins.precedes_anchor
    {cwd : List Char}
    (rooted : isAbsolute cwd = true)
    (base : List Char)
    {front : List (List Char)}
    {pattern first second : List Char}
    (shared : lead pattern ≠ [] ∨ front.filter (· ≠ here) ≠ [])
    (ofFirst : Begins front pattern first)
    (ofSecond : Begins front pattern second) :
    precedes (Path.anchor cwd base (respell first)) (Path.anchor cwd base (respell second)) =
      precedes (respell first) (respell second) := by
  obtain ⟨low, properLow, stepsFirst, anchorFirst⟩ := ofFirst.anchor rooted base
  obtain ⟨further, properFurther, stepsSecond, anchorSecond⟩ := ofSecond.anchor rooted base
  have names : ∀ name ∈ low, IsName name := fun name member => (properLow name member).1
  have others : ∀ name ∈ further, IsName name := fun name member => (properFurther name member).1
  have spelled {text : List Char} {behind : List (List Char)}
      (begins : Begins front pattern text)
      (parts : steps text = front.filter (· ≠ here) ++ behind) :
      respell text = lead pattern ++ Text.unite '/' (front.filter (· ≠ here) ++ behind) := by
    rw [respell_eq, begins.starts, if_neg, parts]
    intro nothing
    obtain ⟨noLead, noSteps⟩ := List.append_eq_nil_iff.mp nothing
    have none : steps text = [] := by
      by_contra some
      exact unite_ne_nil (fun name => isName_of_mem_steps) some noSteps
    rw [parts] at none
    rcases shared with some | some
    · exact some noLead
    · exact some (List.append_eq_nil_iff.mp none).1
  calc
    precedes (Path.anchor cwd base (respell first)) (Path.anchor cwd base (respell second))
      = precedes (Text.unite '/' (origin cwd base pattern front ++ low))
          (Text.unite '/' (origin cwd base pattern front ++ further)) := by
        rw [anchorFirst, anchorSecond]
        exact precedes_append ['/'] _ _
    _ = precedes (Text.unite '/' low) (Text.unite '/' further) := precedes_unite_append _ names others
    _ = precedes (respell first) (respell second) := by
        rw [spelled ofFirst stepsFirst, spelled ofSecond stepsSecond, precedes_append,
          precedes_unite_append _ names others]

/-! ## Texts that lead down -/

/-- A respelled text leads down from a place by names; without names it stays there. -/
structure LeadsDown
    (place low : List (List Char))
    (text path : List Char) : Prop where
  proper : ∀ name ∈ low, IsProper name
  text_eq : text = if low = [] then here else Text.unite '/' low
  path_eq : path = '/' :: Text.unite '/' (place ++ low)

/-- What a pattern without a way up finds leads down from the base. -/
theorem Begins.leadsDown
    {cwd : List Char}
    (rooted : isAbsolute cwd = true)
    (base : List Char)
    {pattern text : List Char}
    (relative : isAbsolute pattern = false)
    (begins : Begins [] pattern text) :
    ∃ low, LeadsDown (resolve (route cwd base [])) low (respell text)
      (Path.anchor cwd base (respell text)) := by
  obtain ⟨low, proper, parts, anchored⟩ := begins.anchor rooted base
  have place : origin cwd base pattern [] = resolve (route cwd base []) := by
    rw [origin, relative, List.append_nil]
    rfl
  have none : Path.lead text = [] := by
    rw [begins.starts]
    simpa [isAbsolute_eq] using relative
  have only : steps text = low := parts
  refine ⟨low, proper, ?_, place ▸ anchored⟩
  rw [respell_eq, none, only, List.nil_append]
  by_cases empty : low = []
  · rw [empty]
    rfl
  · rw [if_neg (unite_ne_nil (fun name member => (proper name member).1) empty), if_neg empty]

namespace LeadsDown

variable {place low further : List (List Char)}
variable {text path other way : List Char}

theorem single
    (leads : LeadsDown place low text path) :
    ∀ name ∈ low, IsName name :=
  fun name member => (leads.proper name member).1

/-- Names lead to a text of their own. -/
theorem text_ne_here
    (leads : LeadsDown place low text path)
    (some : low ≠ []) :
    text ≠ here := by
  intro same
  have names : segments text = low := by rw [leads.text_eq, if_neg some, segments_unite leads.single]
  rw [same] at names
  exact (leads.proper here (names ▸ List.mem_singleton_self here)).2.1 rfl

theorem text_ne_nil
    (leads : LeadsDown place low text path)
    (some : low ≠ []) :
    text ≠ [] := by
  rw [leads.text_eq, if_neg some]
  exact unite_ne_nil leads.single some

theorem text_of_nil
    (leads : LeadsDown place [] text path) :
    text = here :=
  leads.text_eq

/-- Only without names the path is that of the place. -/
theorem eq_nil_of_path
    (leads : LeadsDown place low text path)
    (ofPlace : ∀ name ∈ place, IsName name)
    (same : path = '/' :: Text.unite '/' place) :
    low = [] := by
  have whole : ∀ name ∈ place ++ low, IsName name :=
    List.forall_mem_append.mpr ⟨ofPlace, leads.single⟩
  have united := (List.cons.inj (leads.path_eq.symm.trans same)).2
  have names := congrArg segments united
  rw [segments_unite whole, segments_unite ofPlace] at names
  simpa using names

/-- The order of the paths is that of the names behind the place. -/
theorem precedes_path
    (leads : LeadsDown place low text path)
    (others : LeadsDown place further other way) :
    precedes path way = precedes (Text.unite '/' low) (Text.unite '/' further) := by
  rw [leads.path_eq, others.path_eq, ← precedes_unite_append place leads.single others.single]
  exact precedes_append ['/'] _ _

theorem precedes_text
    (leads : LeadsDown place low text path)
    (others : LeadsDown place further other way)
    (some : low ≠ [])
    (more : further ≠ []) :
    precedes text other = precedes path way := by
  rw [leads.precedes_path others, leads.text_eq, others.text_eq, if_neg some, if_neg more]

/-- Nothing below the place comes before it. -/
theorem not_precedes_place
    (stays : LeadsDown place [] text path)
    (leads : LeadsDown place low other way)
    (some : low ≠ []) :
    precedes way path = false := by
  obtain ⟨c, rest, shape⟩ := List.exists_cons_of_ne_nil (unite_ne_nil leads.single some)
  rw [leads.precedes_path stays, shape]
  rfl

/-- The only way from the place to the path is the text, and from the place to itself there is none. -/
theorem isWayTo_iff
    (leads : LeadsDown place low text path)
    (ofPlace : ∀ name ∈ place, IsName name)
    {way : String} :
    IsWayTo (String.ofList ('/' :: Text.unite '/' place)) way (String.ofList path) ↔
      low ≠ [] ∧ way = String.ofList text := by
  constructor
  · intro isWay
    have parts := isWay.segments_eq
    have moves := isWay.segments_ne_nil
    rw [String.toList_ofList, String.toList_ofList, leads.path_eq, segments_cons_slash,
      segments_cons_slash, segments_unite ofPlace, segments_unite, List.append_cancel_left_eq] at parts
    · have some : low ≠ [] := parts ▸ moves
      obtain ⟨-, relative, joined⟩ := isWay
      have same : join ('/' :: Text.unite '/' place) way.toList = path := by
        have unfolded := congrArg String.toList joined
        rw [joinText, String.toList_ofList, String.toList_ofList, String.toList_ofList] at unfolded
        exact unfolded.symm
      rw [leads.path_eq, ← join_unite ofPlace leads.single some] at same
      have spelled := join_right_injective relative (isAbsolute_unite leads.single) same
      refine ⟨some, ?_⟩
      rw [leads.text_eq, if_neg some, ← spelled, String.ofList_toList]
    · intro name member
      rcases List.mem_append.mp member with above | below
      · exact ofPlace name above
      · exact leads.single name below
  · rintro ⟨some, rfl⟩
    have spelled : text = Text.unite '/' low := by rw [leads.text_eq, if_neg some]
    refine ⟨fun empty => ?_, ?_, ?_⟩
    · have none := congrArg String.toList empty
      rw [String.toList_ofList, spelled] at none
      exact unite_ne_nil leads.single some none
    · rw [String.toList_ofList, spelled]
      exact isAbsolute_unite leads.single
    · rw [joinText, String.toList_ofList, String.toList_ofList, spelled,
        join_unite ofPlace leads.single some, leads.path_eq]

end LeadsDown

/-- A text comes before the dot if its first character does, and else behind it. -/
theorem precedes_here_iff
    {c : Char}
    {rest : List Char}
    (other : c :: rest ≠ here) :
    (precedes (c :: rest) here = true ↔ c < '.') ∧ (precedes here (c :: rest) = true ↔ ¬c < '.') := by
  have either : c < '.' ∨ c = '.' ∨ '.' < c := by grind
  have apart : ¬(c < '.' ∧ '.' < c) := fun both => Char.lt_asymm both.1 both.2
  cases rest <;> grind [precedes, here]

/-- Where texts and their paths are both in order, of two texts the one that comes first has the path that
does. -/
theorem precedes_of_later
    {path : List Char → List Char}
    {kept : List (List Char)}
    (sorted : kept.Pairwise (precedes · ·))
    (ordered : kept.Pairwise fun one two => precedes (path one) (path two) = true)
    {first second : List Char}
    (inFirst : first ∈ kept)
    (inSecond : second ∈ kept)
    (later : precedes first second = false) :
    precedes (path second) (path first) = true := by
  have either : kept.Pairwise fun one two =>
      (precedes one two = true ∧ precedes (path one) (path two) = true) ∨
        (precedes two one = true ∧ precedes (path two) (path one) = true) :=
    (sorted.and ordered).imp Or.inl
  have symmetric : Std.Symm fun one two =>
      (precedes one two = true ∧ precedes (path one) (path two) = true) ∨
        (precedes two one = true ∧ precedes (path two) (path one) = true) :=
    ⟨fun _ _ => Or.symm⟩
  have apart : first ≠ second := fun same => by
    rw [← same, precedes_self] at later
    cases later
  rcases either.forall inFirst inSecond apart with ⟨before, -⟩ | ⟨-, before⟩
  · exact absurd (later.symm.trans before) Bool.false_ne_true
  · exact before

/--
Texts in order that lead down from a place have their paths in order, unless the place itself is one of the
paths and another one continues it by a character before the dot.
-/
theorem pairwise_le_iff
    {place : List (List Char)}
    (ofPlace : ∀ name ∈ place, IsName name)
    {path : List Char → List Char}
    {kept : List (List Char)}
    (sorted : kept.Pairwise (precedes · ·))
    (each : ∀ text ∈ kept, ∃ low, LeadsDown place low text (path text)) :
    (kept.map fun text => String.ofList (path text)).Pairwise (· ≤ ·) ↔
      (String.ofList ('/' :: Text.unite '/' place) ∈ kept.map (fun text => String.ofList (path text)) →
        ∀ below ∈ kept.map fun text => String.ofList (path text),
          ∀ way, IsWayTo (String.ofList ('/' :: Text.unite '/' place)) way below →
            ∀ c rest, way.toList = c :: rest → ¬c < '.') := by
  rw [List.pairwise_map]
  constructor
  · intro ordered atHome below among way isWay c rest shape less
    obtain ⟨first, inFirst, home⟩ := List.mem_map.mp atHome
    obtain ⟨second, inSecond, rfl⟩ := List.mem_map.mp among
    obtain ⟨none, stays⟩ := each first inFirst
    obtain ⟨low, leads⟩ := each second inSecond
    obtain ⟨some, rfl⟩ := (leads.isWayTo_iff ofPlace).mp isWay
    have empty : none = [] := stays.eq_nil_of_path ofPlace (String.ofList_inj.mp home)
    subst empty
    rw [String.toList_ofList] at shape
    have other : second ≠ here := leads.text_ne_here some
    have dot : first = here := stays.text_of_nil
    rw [shape] at other
    have behind : precedes first second = false := by
      rw [dot, shape, Bool.eq_false_iff]
      exact fun before => (precedes_here_iff other).2.mp before less
    have under : precedes (path second) (path first) = false := stays.not_precedes_place leads some
    have before := precedes_of_later sorted (ordered.imp precedes_iff_le.mpr) inFirst inSecond behind
    exact Bool.false_ne_true (under.symm.trans before)
  · intro held
    refine sorted.imp_of_mem fun {first second} inFirst inSecond before => precedes_iff_le.mp ?_
    obtain ⟨low, leads⟩ := each first inFirst
    obtain ⟨further, others⟩ := each second inSecond
    by_cases none : low = []
    · subst none
      exact leads.precedes_path others
    by_cases home : further = []
    · subst home
      obtain ⟨c, rest, shape⟩ := List.exists_cons_of_ne_nil (leads.text_ne_nil none)
      have other : first ≠ here := leads.text_ne_here none
      rw [others.text_of_nil] at before
      rw [shape] at before other
      have less : c < '.' := (precedes_here_iff other).1.mp before
      have atHome :
          String.ofList ('/' :: Text.unite '/' place) ∈ kept.map fun text => String.ofList (path text) := by
        refine List.mem_map.mpr ⟨second, inSecond, ?_⟩
        rw [others.path_eq, List.append_nil]
      have isWay := (leads.isWayTo_iff ofPlace).mpr ⟨none, rfl⟩
      refine absurd less (held atHome _ (List.mem_map_of_mem inFirst) _ isWay c rest ?_)
      rw [String.toList_ofList, shape]
    · rwa [leads.precedes_text others none home] at before

/-! ## Answers -/

section

variable {Content : Type}
variable {scope : Scope Content}
variable {exclusions : Exclusions}
variable {pattern : String}

/-- The paths of a search come in the order of the respelled texts that it keeps. -/
theorem search_eq_map
    {paths : List String}
    (searched : search scope exclusions pattern = .ok paths) :
    ∃ (found kept : List (List Char)), scope.expand pattern.toList = .ok found ∧
      kept.Pairwise (precedes · ·) ∧
      (∀ text, text ∈ kept ↔ ∃ raw ∈ found, exclusions.Keeps scope (respell raw) ∧ text = respell raw) ∧
      paths = kept.map fun text =>
        String.ofList (Path.anchor (FileTree.pathText scope.cwd).toList scope.root text) := by
  obtain ⟨found, given, -⟩ := mem_search_iff searched
  rw [search_of_expand given] at searched
  refine ⟨found, _, given, ?_, fun text => ?_, (Except.ok.inj searched).symm⟩
  · exact ((precedes_mergeSort _).filter _).filter _
  · rw [List.mem_filter, List.mem_filter, List.mem_mergeSort, List.mem_map, and_assoc,
      ← Exclusions.keeps_iff]
    constructor
    · rintro ⟨⟨raw, inside, rfl⟩, keeps⟩
      exact ⟨raw, inside, keeps, rfl⟩
    · rintro ⟨raw, inside, keeps, rfl⟩
      exact ⟨⟨raw, inside, rfl⟩, keeps⟩

/-- A pattern that climbs first and is not without a way up starts at the root or has a step in front. -/
theorem ClimbsFirst.shared
    {pattern : List Char}
    (first : ClimbsFirst pattern)
    (up : ¬IsLower pattern) :
    lead pattern ≠ [] ∨ (plainFront pattern).filter (· ≠ here) ≠ [] := by
  by_cases relative : isAbsolute pattern = false
  · right
    have among : parent ∈ segments pattern := by
      by_contra low
      exact up ⟨relative, low⟩
    have inFront : parent ∈ plainFront pattern := by
      have parts : plainFront pattern ++ _ = segments pattern := List.takeWhile_append_dropWhile
      rw [← parts] at among
      exact (List.mem_append.mp among).resolve_right first
    exact List.ne_nil_of_mem (List.mem_filter.mpr ⟨inFront, by decide⟩)
  · left
    simpa [isAbsolute_eq] using relative

end

end Glob

namespace Host

theorem globHome_eq
    (host : Host)
    (options : GlobOptions) :
    host.globHome options =
      String.ofList
        ('/' :: Text.unite '/' (Path.resolve (Path.route host.cwdText.toList options.cwd.toList []))) := by
  rw [globHome, Path.anchorText, Path.anchor_eq host.isAbsolute_cwdText]
  rfl

end Host

namespace Handler

/--
The order in which a handler answers, in a tree of proper names:

* The paths come in the order of the respelled texts that are kept; the texts are in the order of strings.
* If the pattern climbs first, and starts at the root or goes up, then so are the paths.
* If the pattern neither starts at the root nor goes up, then the paths are in the order of strings unless
  the directory of the handler is one of them, and another one goes on from there by a character before the
  dot.
-/
theorem glob_answers_in_order
    {host : Host}
    (named : host.tree.WellNamed)
    {options : GlobOptions}
    {pattern : String}
    {answer : Answer}
    {final : Host}
    (answered : (Handler.glob options).call pattern host = .ok answer final) :
    ∃ (found : List (List Char)) (texts paths : List String),
      (host.globScope options).expand pattern.toList = .ok found ∧
        answer = .plain (.list (paths.map .str)) ∧
        (∀ text, text ∈ texts ↔
          ∃ raw ∈ found,
            Glob.Exclusions.Keeps ⟨options.nodir, options.ignore⟩ (host.globScope options)
                (Glob.respell raw) ∧
              text = String.ofList (Glob.respell raw)) ∧
        texts.Pairwise (· ≤ ·) ∧
        paths = texts.map (Path.anchorText host.cwdText options.cwd) ∧
        (Glob.ClimbsFirst pattern.toList → ¬Glob.IsLower pattern.toList → paths.Pairwise (· ≤ ·)) ∧
        (Glob.IsLower pattern.toList →
          (paths.Pairwise (· ≤ ·) ↔
            (host.globHome options ∈ paths →
              ∀ path ∈ paths, ∀ way, Path.IsWayTo (host.globHome options) way path →
                ∀ c rest, way.toList = c :: rest → ¬c < '.'))) := by
  obtain ⟨paths, searched, rfl⟩ := search_of_call_glob answered
  obtain ⟨found, kept, given, sorted, members, rfl⟩ := Glob.search_eq_map searched
  have rooted := host.isAbsolute_cwdText
  have finds : ∀ raw ∈ found, (host.globScope options).Finds false pattern.toList raw :=
    Glob.Scope.finds_of_expand given
  refine ⟨found, kept.map String.ofList, _, given, rfl, fun text => ?_, ?_, ?_, ?_, ?_⟩
  · rw [List.mem_map]
    constructor
    · rintro ⟨respelled, among, rfl⟩
      obtain ⟨raw, inside, keeps, rfl⟩ := (members respelled).mp among
      exact ⟨raw, inside, keeps, rfl⟩
    · rintro ⟨raw, inside, keeps, rfl⟩
      exact ⟨_, (members _).mpr ⟨raw, inside, keeps, rfl⟩, rfl⟩
  · rw [List.pairwise_map]
    exact sorted.imp Glob.precedes_iff_le.mp
  · rw [List.map_map]
    refine List.map_congr_left fun text _ => ?_
    rw [Function.comp, Path.anchorText, String.toList_ofList]
    rfl
  · intro first up
    rw [List.pairwise_map]
    refine sorted.imp_of_mem fun {one two} inOne inTwo before => Glob.precedes_iff_le.mp ?_
    obtain ⟨rawOne, insideOne, -, rfl⟩ := (members one).mp inOne
    obtain ⟨rawTwo, insideTwo, -, rfl⟩ := (members two).mp inTwo
    have plain : ∀ segment ∈ Glob.plainFront pattern.toList, Wildcard.isMagic segment = false :=
      fun _ => Glob.not_isMagic_of_mem_plainFront
    have ofOne := (finds rawOne insideOne).begins named plain first.begins
    have ofTwo := (finds rawTwo insideTwo).begins named plain first.begins
    exact (ofOne.precedes_anchor rooted _ (first.shared up) ofTwo).trans before
  · intro lower
    rw [host.globHome_eq]
    refine Glob.pairwise_le_iff (fun name member => ?_) sorted fun text among => ?_
    · exact (Path.isProper_of_mem_resolve (fun _ => Path.isName_of_mem_route) member).1
    · obtain ⟨raw, inside, -, rfl⟩ := (members text).mp among
      have begins := (finds raw inside).begins named (List.forall_mem_nil _) lower.begins
      exact begins.leadsDown rooted _ lower.relative

/-- A host with two files, one with a name that comes before the dot. -/
def dashHost : Host :=
  ⟨⟨[(["w"], .directory), (["w", "-x"], .file (.bytes [])), (["w", "b"], .file (.bytes []))]⟩,
    [], [], "", .usual, .blank, none, .empty⟩

/-- Options without exclusions. -/
def dashOptions : GlobOptions :=
  ⟨"/w", false, false, []⟩

theorem dashHost_wellNamed :
    dashHost.tree.WellNamed := by
  unfold FileTree.WellNamed dashHost
  decide

theorem acyclic_dash :
    dashHost.tree.Acyclic := by
  refine FileTree.acyclic_of_linksNoDirectory dashHost_wellNamed (FileTree.linksNoDirectory_of_no_link ?_)
  simp [dashHost]

/-- The pattern for all that lies below the directory finds the directory and the two files. -/
theorem expand_dash_below :
    (dashHost.globScope dashOptions).expand "./**".toList =
      .ok ["./".toList, "./-x".toList, "./b".toList] := by
  have here : (dashHost.globScope dashOptions).Denotes "/w/.".toList ["w"] := by
    change dashHost.tree.walk true 40 [] ["", "w", "."] = _
    simp +decide [FileTree.walk, FileTree.entry?, dashHost]
  have first (place : List String) : ¬(dashHost.globScope dashOptions).Denotes "/w/./-x".toList place := by
    change dashHost.tree.walk true 40 [] ["", "w", ".", "-x"] ≠ _
    simp +decide [FileTree.walk, FileTree.entry?, dashHost, List.lookup_cons]
  have second (place : List String) : ¬(dashHost.globScope dashOptions).Denotes "/w/./b".toList place := by
    change dashHost.tree.walk true 40 [] ["", "w", ".", "b"] ≠ _
    simp +decide [FileTree.walk, FileTree.entry?, dashHost, List.lookup_cons]
  have listed :
      (dashHost.globScope dashOptions).list false "/w/.".toList = .ok ["-x".toList, "b".toList] :=
    (Glob.Scope.list_of_denotes false (by decide) here fun only => absurd only Bool.false_ne_true).trans rfl
  have leaves :
      ∀ name ∈ ["-x".toList, "b".toList],
        (dashHost.globScope dashOptions).list false (Glob.beneath "/w/.".toList name) = .ok [] := by
    refine List.forall_mem_cons.mpr ⟨?_, List.forall_mem_singleton.mpr ?_⟩
    · exact Glob.Scope.list_of_not_denotes false (by decide) first
    · exact Glob.Scope.list_of_not_denotes false (by decide) second
  have descended :
      (dashHost.globScope dashOptions).descend false 4 "/w/.".toList =
        .ok ["-x".toList, "b".toList] :=
    (Glob.Scope.descend_of_leaves listed leaves 3).trans rfl
  have stands : (dashHost.globScope dashOptions).isDirectory "/w/.".toList = true :=
    here.isDirectory (by decide)
  have matched :
      (dashHost.globScope dashOptions).matchLast false
          (Glob.beneath "/w".toList (Path.directory "./**".toList)) (Path.baseName "./**".toList) =
        .ok ["".toList, "-x".toList, "b".toList] := by
    change (dashHost.globScope dashOptions).matchBelow false "/w/.".toList = _
    have depth : (dashHost.globScope dashOptions).tree.entries.length + 1 = 4 := rfl
    rw [Glob.Scope.matchBelow, depth, descended, stands]
    rfl
  exact (Glob.expand_of_last (by decide) (by decide) (by decide) (by decide) matched).trans rfl

/-- The pattern that goes up and back finds the two files. -/
theorem expand_dash_around :
    (dashHost.globScope dashOptions).expand "../w/*".toList =
      .ok ["../w/-x".toList, "../w/b".toList] := by
  have around : (dashHost.globScope dashOptions).Denotes "/w/../w".toList ["w"] := by
    change dashHost.tree.walk true 40 [] ["", "w", "..", "w"] = _
    simp +decide [FileTree.walk, FileTree.entry?, dashHost]
  have listed :
      (dashHost.globScope dashOptions).list false "/w/../w".toList =
        .ok ["-x".toList, "b".toList] :=
    (Glob.Scope.list_of_denotes false (by decide) around fun only => absurd only Bool.false_ne_true).trans rfl
  have accepted :
      ["-x".toList, "b".toList].filter (Wildcard.accepts "*".toList) = ["-x".toList, "b".toList] := by
    decide +kernel
  have matched :
      (dashHost.globScope dashOptions).matchLast false
          (Glob.beneath "/w".toList (Path.directory "../w/*".toList)) (Path.baseName "../w/*".toList) =
        .ok ["-x".toList, "b".toList] := by
    change (dashHost.globScope dashOptions).matchNames false "/w/../w".toList "*".toList = _
    rw [Glob.Scope.matchNames, listed]
    exact congrArg Except.ok accepted
  exact (Glob.expand_of_last (by decide) (by decide) (by decide) (by decide) matched).trans rfl

/-- Behind a way up the two files are answered in order. -/
theorem glob_answers_in_order_dash :
    dashHost.tree.WellNamed ∧
      (Handler.glob dashOptions).call "../w/*" dashHost =
        .ok (.plain (.list [.str "/w/-x", .str "/w/b"]))
          { dashHost with world := Module.World.empty.note (.matched "../w/*" "/w" 2) } ∧
      Glob.ClimbsFirst "../w/*".toList ∧
      ¬Glob.IsLower "../w/*".toList ∧
      ["/w/-x", "/w/b"].Pairwise (· ≤ ·) := by
  have searched :
      Glob.search (dashHost.globScope dashOptions) ⟨dashOptions.nodir, dashOptions.ignore⟩ "../w/*" =
        .ok ["/w/-x", "/w/b"] := by
    have sorted : ["../w/-x".toList, "../w/b".toList].Pairwise (Glob.precedes · ·) := by decide
    have respelled :
        ["../w/-x".toList, "../w/b".toList].map Glob.respell = ["../w/-x".toList, "../w/b".toList] := by
      decide
    rw [Glob.search_of_expand expand_dash_around, respelled, List.mergeSort_of_pairwise sorted]
    rfl
  have answered := call_glob_of_search searched
  obtain ⟨found, texts, paths, -, given, -, -, -, ordered, -⟩ :=
    glob_answers_in_order dashHost_wellNamed answered
  have same : ["/w/-x", "/w/b"] = paths :=
    (List.map_inj_right fun _ _ => Module.Value.str.inj).mp
      (Module.Value.list.inj (Answer.plain.inj given))
  have first : Glob.ClimbsFirst "../w/*".toList := by decide
  have up : ¬Glob.IsLower "../w/*".toList := fun lower => absurd lower.low (by decide)
  exact ⟨dashHost_wellNamed, answered, first, up, same ▸ ordered first up⟩

/--
The answer is not always in order: the directory of the handler is answered behind a file in it whose name
comes before the dot.
-/
theorem glob_answers_out_of_order :
    dashHost.tree.WellNamed ∧ dashHost.tree.Acyclic ∧
      (Handler.glob dashOptions).call "./**" dashHost =
        .ok (.plain (.list [.str "/w/-x", .str "/w", .str "/w/b"]))
          { dashHost with world := Module.World.empty.note (.matched "./**" "/w" 3) } ∧
      ¬["/w/-x", "/w", "/w/b"].Pairwise (· ≤ ·) := by
  have searched :
      Glob.search (dashHost.globScope dashOptions) ⟨dashOptions.nodir, dashOptions.ignore⟩ "./**" =
        .ok ["/w/-x", "/w", "/w/b"] := by
    have respelled :
        (["./".toList, "./-x".toList, "./b".toList].map Glob.respell).mergeSort Glob.precedes =
          ["-x".toList, ".".toList, "b".toList] :=
      Glob.mergeSort_of_perm (by decide) (by decide)
    rw [Glob.search_of_expand expand_dash_below, respelled]
    rfl
  exact ⟨dashHost_wellNamed, acyclic_dash, call_glob_of_search searched, by decide⟩

end Handler

end ConfigTokens
