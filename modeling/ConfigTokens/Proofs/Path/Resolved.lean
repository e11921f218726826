import ConfigTokens.Path.Anchor
import ConfigTokens.Proofs.Path.Segments
/-!
# Anchored paths are resolved from the root

An anchored path is the text of a place below the root: a slash, and the names on the way down with one
slash between neighbours. `resolve` follows components from the root without looking at any tree, and
`route` says which components count for a base and a token. The main theorem says that anchoring writes
down where the route leads, so that anchoring what has been anchored changes nothing.
-/

namespace ConfigTokens.Path

open ConfigTokens.Text

/-! ## Following components from the root -/

/-- Where a component leads from a place; a place is the names down to it, the innermost first. -/
def enter
    (place : List (List Char))
    (component : List Char) : List (List Char) :=
  if component = here then place
  else if component = parent then place.tail
  else component :: place

/-- The names from the root down to where components lead. -/
def resolve
    (components : List (List Char)) : List (List Char) :=
  (components.foldl enter []).reverse

/-- The components that count for a token: a base counts for a relative one, and the working directory
for a relative base. -/
def route
    (cwd base token : List Char) : List (List Char) :=
  if isAbsolute token then segments token
  else if isAbsolute base then segments base ++ segments token
  else segments cwd ++ segments base ++ segments token

/-- A relative token continues the route of its base. -/
theorem route_of_relative
    (cwd base : List Char)
    {token : List Char}
    (relative : isAbsolute token = false) :
    route cwd base token = route cwd base [] ++ segments token := by
  have none : isAbsolute [] = false := rfl
  unfold route
  rw [relative, none, segments_nil]
  by_cases rooted : isAbsolute base = true
  · simp [rooted]
  · simp [rooted]

/-- The working directory and the base do not count for a path from the root. -/
theorem route_eq_append
    (cwd base token : List Char) :
    route cwd base token =
      (if isAbsolute token then [] else route cwd base []) ++ segments token := by
  by_cases rooted : isAbsolute token = true
  · rw [if_pos rooted, route, if_pos rooted, List.nil_append]
  · rw [if_neg rooted, route_of_relative cwd base (Bool.eq_false_iff.mpr rooted)]

/-- The working directory does not count for a base that starts at the root. -/
theorem route_of_rooted_base
    {cwd base token : List Char}
    (rooted : isAbsolute base = true)
    (relative : isAbsolute token = false) :
    route cwd base token = segments base ++ segments token := by
  unfold route
  rw [if_neg (by simp [relative]), if_pos rooted]

theorem isName_of_mem_route
    {cwd base token component : List Char}
    (member : component ∈ route cwd base token) :
    IsName component := by
  unfold route at member
  split at member
  case isTrue => exact isName_of_mem_segments member
  case isFalse =>
      split at member
      case isTrue =>
          rcases List.mem_append.mp member with ofBase | ofToken
          · exact isName_of_mem_segments ofBase
          · exact isName_of_mem_segments ofToken
      case isFalse =>
          rw [List.append_assoc] at member
          rcases List.mem_append.mp member with ofCwd | member
          · exact isName_of_mem_segments ofCwd
          · rcases List.mem_append.mp member with ofBase | ofToken
            · exact isName_of_mem_segments ofBase
            · exact isName_of_mem_segments ofToken

theorem proper_enter
    {place : List (List Char)}
    {component : List Char}
    (proper : ∀ name ∈ place, IsProper name)
    (single : IsName component) :
    ∀ name ∈ enter place component, IsProper name := by
  unfold enter
  split
  case isTrue => exact proper
  case isFalse moves =>
      split
      case isTrue => exact fun name member => proper name (List.mem_of_mem_tail member)
      case isFalse down => exact List.forall_mem_cons.mpr ⟨⟨single, moves, down⟩, proper⟩

theorem proper_foldl_enter
    {place components : List (List Char)}
    (proper : ∀ name ∈ place, IsProper name)
    (single : ∀ component ∈ components, IsName component) :
    ∀ name ∈ components.foldl enter place, IsProper name := by
  induction components generalizing place with
  | nil => exact proper
  | cons component rest ih =>
      obtain ⟨first, others⟩ := List.forall_mem_cons.mp single
      exact ih (proper_enter proper first) others

/-- Only proper names are left when components have been followed. -/
theorem isProper_of_mem_resolve
    {components : List (List Char)}
    (single : ∀ component ∈ components, IsName component)
    {name : List Char}
    (member : name ∈ resolve components) :
    IsProper name :=
  proper_foldl_enter (List.forall_mem_nil IsProper) single name (List.mem_reverse.mp member)

/-- Components that do not lead up lead straight down, but for those that stay. -/
theorem foldl_enter_of_low
    {components : List (List Char)}
    (low : parent ∉ components)
    (place : List (List Char)) :
    components.foldl enter place = (components.filter (· ≠ here)).reverse ++ place := by
  induction components generalizing place with
  | nil => rfl
  | cons component rest ih =>
      rw [List.mem_cons, not_or] at low
      obtain ⟨down, others⟩ := low
      rw [List.foldl_cons, ih others]
      by_cases stays : component = here
      · subst stays
        rw [List.filter_cons_of_neg (by simp)]
        rfl
      · have entered : enter place component = component :: place := by
          simp [enter, stays, Ne.symm down]
        rw [entered, List.filter_cons_of_pos (by simpa using stays), List.reverse_cons,
          List.append_assoc, List.singleton_append]

/-- Components that do not lead up are added to where others have led, but for those that stay. -/
theorem resolve_append_of_low
    (front : List (List Char))
    {back : List (List Char)}
    (low : parent ∉ back) :
    resolve (front ++ back) = resolve front ++ back.filter (· ≠ here) := by
  unfold resolve
  rw [List.foldl_append, foldl_enter_of_low low, List.reverse_append, List.reverse_reverse]

theorem foldl_enter_filter
    (components place : List (List Char)) :
    (components.filter (· ≠ here)).foldl enter place = components.foldl enter place := by
  induction components generalizing place with
  | nil => rfl
  | cons component rest ih =>
      by_cases stays : component = here
      · subst stays
        rw [List.filter_cons_of_neg (by simp), ih]
        rfl
      · rw [List.filter_cons_of_pos (by simpa using stays), List.foldl_cons, List.foldl_cons, ih]

/-- Components that stay do not change where others lead. -/
theorem resolve_append_filter
    (front back : List (List Char)) :
    resolve (front ++ back.filter (· ≠ here)) = resolve (front ++ back) := by
  unfold resolve
  rw [List.foldl_append, foldl_enter_filter, ← List.foldl_append]

/-- Proper names lead straight down. -/
theorem resolve_of_proper
    {names : List (List Char)}
    (proper : ∀ name ∈ names, IsProper name) :
    resolve names = names := by
  have low : parent ∉ names := fun member => (proper parent member).2.2 rfl
  have kept : names.filter (· ≠ here) = names :=
    List.filter_eq_self.mpr fun name member => decide_eq_true (proper name member).2.1
  unfold resolve
  rw [foldl_enter_of_low low, kept, List.append_nil, List.reverse_reverse]

/-! ## Normalised paths from the root -/

/-- At the root a segment is pushed as it is entered, as long as no parent segment has been kept. -/
theorem pushSegment_eq_enter
    {place : List (List Char)}
    {segment : List Char}
    (proper : ∀ name ∈ place, IsProper name)
    (filled : segment ≠ []) :
    pushSegment true place segment = enter place segment := by
  unfold pushSegment enter
  by_cases stays : segment = here
  · simp [stays]
  · rw [if_neg (by simp [filled, stays]), if_neg stays]
    by_cases up : segment = parent
    · rw [if_pos up, if_pos up]
      cases place with
      | nil => rfl
      | cons last before =>
          have kept : last ≠ parent := (proper last List.mem_cons_self).2.2
          exact if_neg kept
    · rw [if_neg up, if_neg up]

theorem foldl_pushSegment
    {place pieces : List (List Char)}
    (proper : ∀ name ∈ place, IsProper name)
    (clean : ∀ piece ∈ pieces, '/' ∉ piece) :
    pieces.foldl (pushSegment true) place = (pieces.filter (· ≠ [])).foldl enter place := by
  induction pieces generalizing place with
  | nil => rfl
  | cons piece rest ih =>
      obtain ⟨first, others⟩ := List.forall_mem_cons.mp clean
      rw [List.foldl_cons]
      by_cases empty : piece = []
      · subst empty
        have skipped : pushSegment true place [] = place := rfl
        rw [skipped, List.filter_cons_of_neg (by simp)]
        exact ih proper others
      · rw [List.filter_cons_of_pos (by simpa using empty), List.foldl_cons,
          pushSegment_eq_enter proper empty]
        exact ih (proper_enter proper ⟨empty, first⟩) others

theorem isAbsolute_unite
    {names : List (List Char)}
    (clean : ∀ name ∈ names, IsName name) :
    isAbsolute (unite '/' names) = false := by
  cases names with
  | nil => rfl
  | cons name rest =>
      have first : IsName name := clean name List.mem_cons_self
      by_cases alone : rest = []
      · subst alone
        rw [unite_singleton]
        exact not_isAbsolute_of_isName first
      · rw [unite_cons_of_ne_nil '/' name alone, isAbsolute_append first.1]
        exact not_isAbsolute_of_isName first

theorem lead_cons_of_relative
    {text : List Char}
    (relative : isAbsolute text = false) :
    lead ('/' :: text) = ['/'] := by
  unfold lead
  split
  · rfl
  · next shape =>
    cases (List.cons.inj shape).2
    cases relative
  · rfl
  · next none => exact absurd rfl (none text)

/-- A lead collapses to the slash of the root. -/
theorem collapseLead_lead
    {path text : List Char}
    (rooted : isAbsolute path = true)
    (relative : isAbsolute text = false) :
    collapseLead (lead path ++ text) = '/' :: text := by
  have single : collapseLead ('/' :: text) = '/' :: text := by
    unfold collapseLead
    split
    · next shape =>
      cases (List.cons.inj shape).2
      cases relative
    · rfl
  have double : collapseLead ('/' :: '/' :: text) = '/' :: text := by
    cases text with
    | nil => rfl
    | cons c rest =>
        have other : c ≠ '/' := by
          rintro rfl
          cases relative
        simp [collapseLead, other]
  obtain ⟨rest, rfl⟩ := exists_cons_of_isAbsolute rooted
  unfold lead
  split
  · exact single
  · exact double
  · exact single
  · next none => exact absurd rfl (none rest)

/-- What the segments of a path lead to is united to a text that does not start at the root. -/
theorem isAbsolute_unite_resolve
    (path : List Char) :
    isAbsolute (unite '/' (resolve (segments path))) = false :=
  isAbsolute_unite fun _ member =>
    (isProper_of_mem_resolve (fun _ => isName_of_mem_segments) member).1

/-- A path from the root, normalised, is where its segments lead, behind the slashes that are kept. -/
theorem normalise_eq
    {path : List Char}
    (rooted : isAbsolute path = true) :
    normalise path = lead path ++ unite '/' (resolve (segments path)) := by
  have clean : ∀ piece ∈ fields '/' path, '/' ∉ piece := fun piece => not_mem_of_mem_fields
  have read : ((fields '/' path).foldl (pushSegment true) []).reverse = resolve (segments path) := by
    rw [foldl_pushSegment (List.forall_mem_nil IsProper) clean]
    rfl
  unfold normalise
  rw [rooted]
  dsimp only
  rw [read]
  refine if_neg fun empty => ?_
  have collapsed := collapseLead_lead rooted (isAbsolute_unite_resolve path)
  rw [empty] at collapsed
  cases collapsed

/-- A path from the root, normalised and with one slash at its start, is where its segments lead. -/
theorem collapseLead_normalise
    {path : List Char}
    (rooted : isAbsolute path = true) :
    collapseLead (normalise path) = '/' :: unite '/' (resolve (segments path)) := by
  rw [normalise_eq rooted]
  exact collapseLead_lead rooted (isAbsolute_unite_resolve path)

/-! ## Anchored paths -/

/-- Anchoring writes down where the route leads. -/
theorem anchor_eq
    {cwd : List Char}
    (rooted : isAbsolute cwd = true)
    (base token : List Char) :
    anchor cwd base token = '/' :: unite '/' (resolve (route cwd base token)) := by
  unfold anchor route
  split
  case isTrue absolute => exact collapseLead_normalise absolute
  case isFalse relative =>
      have names : ∀ name ∈ segments token, IsName name := fun name => isName_of_mem_segments
      have start : isAbsolute (join cwd ((segments token).foldl join base)) = true := by
        rw [isAbsolute_join, rooted, Bool.true_or]
      unfold absolute
      rw [collapseLead_normalise start, segments_join, isAbsolute_foldl_join base names,
        segments_foldl_join base names]
      split
      case isTrue => rfl
      case isFalse => rw [List.append_assoc]

/-- A path that has been anchored stays as it is in every base and every working directory. -/
theorem anchor_names
    {names : List (List Char)}
    (proper : ∀ name ∈ names, IsProper name)
    (cwd base : List Char) :
    anchor cwd base ('/' :: unite '/' names) = '/' :: unite '/' names := by
  rw [anchor_absolute (isAbsolute_cons (unite '/' names)),
    collapseLead_normalise (isAbsolute_cons (unite '/' names)), segments_cons_slash,
    segments_unite fun name member => (proper name member).1, resolve_of_proper proper]

/--
What anchoring a token to a base gives, whatever the two are, as long as the working directory starts at
the root:

* It is a slash and the names to which the route leads, with one slash between neighbours.
* None of the names is empty, stays, goes to the parent, or holds a slash; so there are never two slashes
  at the start.
* Anchored again, to any base in any working directory, it stays as it is.
-/
theorem anchorText_resolves
    {cwd : String}
    (rooted : isAbsolute cwd.toList = true)
    (base token : String) :
    anchorText cwd base token =
        String.ofList ('/' :: unite '/' (resolve (route cwd.toList base.toList token.toList))) ∧
      (∀ name ∈ resolve (route cwd.toList base.toList token.toList),
        name ≠ [] ∧ name ≠ here ∧ name ≠ parent ∧ '/' ∉ name) ∧
      (∀ rest, (anchorText cwd base token).toList ≠ '/' :: '/' :: rest) ∧
      ∀ cwd' base' : String,
        anchorText cwd' base' (anchorText cwd base token) = anchorText cwd base token := by
  have text := anchor_eq rooted base.toList token.toList
  have proper :
      ∀ name ∈ resolve (route cwd.toList base.toList token.toList), IsProper name :=
    fun name member => isProper_of_mem_resolve (fun component => isName_of_mem_route) member
  have single := isAbsolute_unite fun name member => (proper name member).1
  unfold anchorText
  rw [text]
  refine ⟨rfl, fun name member => ?_, fun rest double => ?_, fun cwd' base' => ?_⟩
  · obtain ⟨⟨filled, clean⟩, stays, up⟩ := proper name member
    exact ⟨filled, stays, up, clean⟩
  · rw [String.toList_ofList] at double
    rw [(List.cons.inj double).2] at single
    cases single
  · rw [String.toList_ofList, anchor_names proper]

/-- A relative base with a parent segment above the root and a token with all kinds of segments. -/
theorem anchorText_resolves_mixed :
    isAbsolute "/w/d".toList = true ∧
      resolve (route "/w/d".toList "..//../..//b/".toList ".//x/../y//".toList) = ["b".toList, "y".toList] ∧
      anchorText "/w/d" "..//../..//b/" ".//x/../y//" = "/b/y" ∧
      ∀ cwd' base' : String, anchorText cwd' base' "/b/y" = "/b/y" := by
  have rooted : isAbsolute "/w/d".toList = true := by decide
  have names :
      resolve (route "/w/d".toList "..//../..//b/".toList ".//x/../y//".toList) =
        ["b".toList, "y".toList] := by
    decide
  obtain ⟨text, -, -, again⟩ := anchorText_resolves rooted "..//../..//b/" ".//x/../y//"
  have spelled : anchorText "/w/d" "..//../..//b/" ".//x/../y//" = "/b/y" := by
    rw [text, names]
    decide
  rw [spelled] at again
  exact ⟨rooted, names, spelled, again⟩

end ConfigTokens.Path
