import ConfigTokens.Handler.Call
import ConfigTokens.Proofs.Path.Resolved
/-!
# Anchoring in two steps

A base directory may itself be an anchored path. What a relative token denotes there is what both tokens,
joined by a slash, denote for the first base. Parent segments of the second token take back names that come
from the first token, from the base or from the working directory, and vanish at the root; following
components does not depend on where the earlier ones have been written down (`resolve_resolve_append`).

An anchored path does not look at the working directory again, so that a handler made with one as its base
keeps its meaning when the working directory changes.
-/

namespace ConfigTokens

namespace Path

open ConfigTokens.Text

/-! ## Resolving what has been resolved -/

/-- Components are followed from where others have led as from the root along all of them. -/
theorem resolve_resolve_append
    {front : List (List Char)}
    (single : ∀ component ∈ front, IsName component)
    (back : List (List Char)) :
    resolve (resolve front ++ back) = resolve (front ++ back) := by
  have again : resolve (resolve front) = resolve front :=
    resolve_of_proper fun name => isProper_of_mem_resolve single
  have place : (resolve front).foldl enter [] = front.foldl enter [] :=
    List.reverse_inj.mp again
  calc
    resolve (resolve front ++ back)
      = (back.foldl enter ((resolve front).foldl enter [])).reverse := by
        rw [resolve, List.foldl_append]
    _ = (back.foldl enter (front.foldl enter [])).reverse := by rw [place]
    _ = resolve (front ++ back) := by rw [resolve, List.foldl_append]

/-! ## Anchored paths as bases -/

/-- In a base that starts at the root, a token does not look at the working directory. -/
theorem anchor_of_rooted_base
    (cwd later : List Char)
    {base : List Char}
    (rooted : isAbsolute base = true)
    (token : List Char) :
    anchor later base token = anchor cwd base token := by
  have start : isAbsolute ((segments token).foldl join base) = true := by
    rw [isAbsolute_foldl_join base fun _ => isName_of_mem_segments]
    exact rooted
  unfold anchor absolute
  rw [join_absolute start, join_absolute start]

section

variable {cwd : List Char}
variable (rooted : isAbsolute cwd = true)

include rooted

theorem isAbsolute_anchor
    (base token : List Char) :
    isAbsolute (anchor cwd base token) = true := by
  rw [anchor_eq rooted]
  exact isAbsolute_cons _

/-- The segments of an anchored path are the names to which the route leads. -/
theorem segments_anchor
    (base token : List Char) :
    segments (anchor cwd base token) = resolve (route cwd base token) := by
  rw [anchor_eq rooted, segments_cons_slash]
  refine segments_unite fun name member => ?_
  exact (isProper_of_mem_resolve (fun _ => isName_of_mem_route) member).1

/-- Made absolute, an anchored path stays as it is. -/
theorem absolute_anchor
    (later base token : List Char) :
    absolute later (anchor cwd base token) = anchor cwd base token := by
  have start := isAbsolute_anchor rooted base token
  have proper : ∀ name ∈ resolve (route cwd base token), IsProper name := fun name =>
    isProper_of_mem_resolve fun component => isName_of_mem_route
  have relative := isAbsolute_unite fun name member => (proper name member).1
  unfold absolute
  rw [join_absolute start, normalise_eq start, segments_anchor rooted, resolve_of_proper proper,
    anchor_eq rooted, lead_cons_of_relative relative]
  rfl

/-- A relative token goes on where an anchored base has led, in any working directory. -/
theorem anchor_anchor
    (later base : List Char)
    {first second : List Char}
    (filled : first ≠ [])
    (relative : isAbsolute first = false)
    (further : isAbsolute second = false) :
    anchor later (anchor cwd base first) second = anchor cwd base (first ++ '/' :: second) := by
  have start := isAbsolute_anchor rooted base first
  have both : isAbsolute (first ++ '/' :: second) = false :=
    (isAbsolute_append filled _).trans relative
  have whole :
      route cwd base (first ++ '/' :: second) = route cwd base first ++ segments second := by
    rw [route_of_relative cwd base both, route_of_relative cwd base relative, segments_append_cons,
      List.append_assoc]
  have onward :
      route cwd (anchor cwd base first) second =
        resolve (route cwd base first) ++ segments second := by
    rw [route_of_rooted_base start further, segments_anchor rooted]
  calc
    anchor later (anchor cwd base first) second
      = anchor cwd (anchor cwd base first) second := anchor_of_rooted_base cwd later start second
    _ = '/' :: unite '/' (resolve (resolve (route cwd base first) ++ segments second)) := by
        rw [anchor_eq rooted, onward]
    _ = '/' :: unite '/' (resolve (route cwd base first ++ segments second)) := by
        rw [resolve_resolve_append fun _ => isName_of_mem_route]
    _ = anchor cwd base (first ++ '/' :: second) := by rw [anchor_eq rooted, whole]

end

/-! ## Handlers for paths -/

/-- A handler made for an anchored path keeps it as its base. -/
theorem newPath_anchorText
    {host : Host}
    (rooted : isAbsolute host.cwdText.toList = true)
    (base token : String) :
    Handler.newPath (.path (anchorText host.cwdText base token)) host =
      .ok (.path (anchorText host.cwdText base token)) host := by
  have kept :
      absoluteText host.cwdText (anchorText host.cwdText base token) =
        anchorText host.cwdText base token := by
    unfold absoluteText anchorText
    rw [String.toList_ofList, absolute_anchor rooted]
  have made :
      Handler.newPath (.path (anchorText host.cwdText base token)) host =
        .ok (.path (absoluteText host.cwdText (anchorText host.cwdText base token))) host := rfl
  rw [made, kept]

/--
A base, a token that is not empty, and another one, neither of them starting at the root:

* Anchored in two steps, the second of them in any working directory, the tokens denote what both of them
  denote, joined by a slash, in one step.
* A handler made for the path of the first step answers the second token as a handler for the base answers
  both, wherever the process has gone in the meantime.
-/
theorem anchorText_in_steps
    {cwd : String}
    (rooted : isAbsolute cwd.toList = true)
    (base : String)
    {first second : String}
    (filled : first ≠ "")
    (relative : isAbsolute first.toList = false)
    (further : isAbsolute second.toList = false) :
    (∀ later : String,
      anchorText later (anchorText cwd base first) second =
        anchorText cwd base (first ++ "/" ++ second)) ∧
      ∀ host : Host, host.cwdText = cwd →
        ∃ handler answer,
          Handler.newPath (.path (anchorText cwd base first)) host = .ok handler host ∧
            (Handler.path base).call (first ++ "/" ++ second) host = .ok answer host ∧
              ∀ later : Host, handler.call second later = .ok answer later := by
  have composed (later : String) :
      anchorText later (anchorText cwd base first) second =
        anchorText cwd base (first ++ "/" ++ second) := by
    have some : first.toList ≠ [] := fun empty => filled (String.toList_eq_nil_iff.mp empty)
    have joined : (first ++ "/" ++ second).toList = first.toList ++ '/' :: second.toList := by
      simp
    unfold anchorText
    rw [joined, String.toList_ofList,
      anchor_anchor rooted later.toList base.toList some relative further]
  refine ⟨composed, ?_⟩
  rintro host rfl
  refine ⟨_, _, newPath_anchorText rooted base first, rfl, ?_⟩
  intro later
  exact congrArg (fun text => EStateM.Result.ok (Answer.plain (.str text)) later)
    (composed later.cwdText)

/-- The second token climbs over the first one and the base, and past the root. -/
theorem anchorText_in_steps_past_root :
    isAbsolute "/w/d".toList = true ∧
      isAbsolute ".//x".toList = false ∧
      isAbsolute "../y/../../..//../../z".toList = false ∧
      anchorText "/w/d" "../b" ".//x" = "/w/b/x" ∧
      anchorText "/v" "/w/b/x" "../y/../../..//../../z" = "/z" ∧
      anchorText "/w/d" "../b" ".//x/../y/../../..//../../z" = "/z" := by
  have rooted : isAbsolute "/w/d".toList = true := by decide
  have relative : isAbsolute ".//x".toList = false := by decide
  have further : isAbsolute "../y/../../..//../../z".toList = false := by decide
  have base : anchorText "/w/d" "../b" ".//x" = "/w/b/x" := by decide
  have answer : anchorText "/v" "/w/b/x" "../y/../../..//../../z" = "/z" := by decide
  have steps := (anchorText_in_steps rooted "../b" (by decide) relative further).1 "/v"
  rw [base, answer] at steps
  exact ⟨rooted, relative, further, base, answer, steps.symm⟩

end Path

end ConfigTokens
