import ConfigTokens.Proofs.Glob.Answers
import ConfigTokens.Proofs.Glob.Walk
/-!
# A pattern that is ignored finds nothing

Ignore patterns are matched against paths that have been respelled. Respelling leaves the segments of a
path that was found as they are, so that a pattern which is ignored itself drops all that its walk finds,
and the handler answers with the empty list. This does not hold of a root with a null character in it:
there the walk cannot read a directory, and the handler throws.
-/

namespace ConfigTokens

namespace Glob

open ConfigTokens.Path
open ConfigTokens.Wildcard

/-! ## Respelled paths -/

/-- Respelling keeps the segments of a path that holds none that stays, unless the path is empty. -/
theorem segments_respell
    {path : List Char}
    (stays : here ∉ segments path)
    (filled : path ≠ []) :
    segments (respell path) = segments path := by
  have kept : (segments path).filter (· ≠ here) = segments path :=
    List.filter_eq_self.mpr fun segment member =>
      decide_eq_true fun same => stays (same ▸ member)
  have united : segments (lead path ++ Text.unite '/' (segments path)) = segments path :=
    segments_lead_append_unite path fun name => isName_of_mem_segments
  unfold respell
  rw [kept]
  dsimp only
  split
  case isTrue nothing =>
      rw [nothing] at united
      have relative := (List.append_eq_nil_iff.mp nothing).1
      exact absurd (eq_nil_of_segments_eq_nil united.symm relative) filled
  case isFalse => exact united

/-- What a walk finds is still covered by the pattern when it has been respelled. -/
theorem Fits.covers_respell
    {pattern path : List Char}
    (fits : Fits pattern path)
    (some : pattern ≠ []) :
    Covers (segments pattern) (segments (respell path)) := by
  by_cases empty : path = []
  · subst empty
    have patterns : segments pattern ≠ [] := fun none => some (fits.bare none).symm
    exact fits.covered.single segments_nil patterns here
  · rw [segments_respell fits.stays empty]
    exact fits.covered

namespace Scope

variable {Content : Type}
variable {scope : Scope Content}

/-- All that a clean pattern finds below a clean root is matched by the text of the pattern. -/
theorem expand_yields_ignored
    (named : scope.tree.WellNamed)
    (rootClean : '\x00' ∉ scope.root)
    {pattern : String}
    (clean : '\x00' ∉ pattern.toList)
    (stays : here ∉ segments pattern.toList) :
    Yields (scope.expand pattern.toList)
      (∀ path ∈ ·, isIgnored (String.ofList (respell path)) pattern = true) := by
  by_cases empty : pattern.toList = []
  · rw [empty, expand_nil]
    exact .ok (List.forall_mem_nil _)
  · obtain ⟨found, given, fits⟩ := expand_yields named rootClean clean stays
    refine ⟨found, given, fun path member => isIgnored_iff.mpr ?_⟩
    rw [String.toList_ofList]
    exact (fits path member).covers_respell empty

end Scope

/-- A search drops whatever one of its ignore patterns matches. -/
theorem search_of_ignored
    {Content : Type}
    {scope : Scope Content}
    {exclusions : Exclusions}
    {pattern ignore : String}
    (member : ignore ∈ exclusions.patterns)
    (ignored :
      Yields (scope.expand pattern.toList)
        (∀ path ∈ ·, isIgnored (String.ofList (respell path)) ignore = true)) :
    search scope exclusions pattern = .ok [] := by
  obtain ⟨found, given, all⟩ := ignored
  have nothing :
      ((found.map respell).mergeSort precedes).filter (fun path =>
        !exclusions.patterns.any (isIgnored (String.ofList path))) = [] := by
    refine List.filter_eq_nil_iff.mpr fun path sorted => ?_
    obtain ⟨raw, among, rfl⟩ := List.mem_map.mp (List.mem_mergeSort.mp sorted)
    have dropped := List.any_eq_true.mpr ⟨ignore, member, all raw among⟩
    simp [dropped]
  rw [search_of_expand given, nothing]
  rfl

end Glob

namespace Handler

/-- A host with a file in a directory below another one. -/
def nestedHost : Host :=
  ⟨FileTree.empty.insert ["d", "e", "f.txt"] (.file (.bytes [])), ["d"], [], "", .usual, .blank, none,
    .empty⟩

end Handler

end ConfigTokens
