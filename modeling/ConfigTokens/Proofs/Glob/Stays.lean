import ConfigTokens.Proofs.Glob.Room
/-!
# Segments that stay

A text that a walk has found is respelled without its segments that stay, those of a single dot, before the
ignore patterns are put to it; an ignore pattern keeps its own. So an ignore pattern with such a segment matches
nothing but the directory of the handler, the one text that is respelled as that segment. In front of the pattern
that is searched for, such a segment is found in front of each text, and respelling takes it away.
-/

namespace ConfigTokens

namespace Glob

open ConfigTokens.Path
open ConfigTokens.Wildcard

/-! ## Respelled paths that stay -/

/-- A segment that stays in front of a text is lost when it is respelled. -/
theorem respell_join_here
    {path : List Char}
    (relative : isAbsolute path = false) :
    respell (join here path) = respell path := by
  have plain : lead path = [] := by
    rw [isAbsolute_eq] at relative
    simpa using relative
  have same : steps (join here path) = steps path := by
    rw [steps_join here relative]
    rfl
  rw [respell_eq, respell_eq, same, lead_join here relative, plain]
  rfl

/-- A respelled path has a segment that stays only if it has no other. -/
theorem respell_eq_here_iff
    {path : List Char} :
    respell path = here ↔ here ∈ segments (respell path) := by
  constructor
  case mp =>
      intro same
      rw [same]
      exact List.mem_cons_self
  case mpr =>
      intro member
      by_cases none : steps path = []
      · rw [respell_eq, none] at member ⊢
        split
        case isTrue => rfl
        case isFalse filled =>
            rw [if_neg filled, segments_lead_append_unite path (List.forall_mem_nil IsName)] at member
            cases member
      · rw [segments_respell_of_steps none] at member
        exact absurd rfl (of_decide_eq_true (List.mem_filter.mp member).2)

/-- A pattern of one segment that stays, among segments for any number of steps if there are others. -/
def IgnoresHere
    (pattern : String) : Prop :=
  (segments pattern.toList).filter (· ≠ anySegments) = [here]

instance (pattern : String) : Decidable (IgnoresHere pattern) :=
  inferInstanceAs (Decidable (_ = _))

/-- A pattern with a segment that stays ignores nothing but the directory itself. -/
theorem isIgnored_of_stays
    {ignore : String}
    (stays : here ∈ segments ignore.toList)
    (path : List Char) :
    isIgnored (String.ofList (respell path)) ignore = true ↔ respell path = here ∧ IgnoresHere ignore := by
  rw [isIgnored_iff, String.toList_ofList]
  constructor
  case mp =>
      intro covered
      have same : respell path = here := respell_eq_here_iff.mpr (covered.mem_of_plain rfl stays)
      rw [same] at covered
      refine ⟨same, ?_⟩
      have member : here ∈ (segments ignore.toList).filter (· ≠ anySegments) :=
        List.mem_filter.mpr ⟨stays, by decide⟩
      obtain ⟨segment, single⟩ : ∃ segment, (segments ignore.toList).filter (· ≠ anySegments) = [segment] :=
        List.length_eq_one_iff.mp (Nat.le_antisymm covered.length_le (List.length_pos_of_mem member))
      rw [single] at member
      rw [IgnoresHere, single, List.mem_singleton.mp member]
  case mpr =>
      rintro ⟨same, ignores⟩
      rw [same]
      refine covers_of_filter ?_
      rw [ignores]
      exact covers_self fun segment member => by rw [List.mem_singleton.mp member]; rfl

/-- Ignoring one more pattern leaves out what it matches. -/
theorem Exclusions.keeps_insert
    {Content : Type}
    {scope : Scope Content}
    {directories : Bool}
    {front back : List String}
    {ignore : String}
    {path : List Char} :
    Exclusions.Keeps ⟨directories, front ++ ignore :: back⟩ scope path ↔
      Exclusions.Keeps ⟨directories, front ++ back⟩ scope path ∧
        ¬isIgnored (String.ofList path) ignore = true := by
  simp only [Exclusions.keeps_iff, List.any_append, List.any_cons, Bool.not_or, Bool.and_eq_true,
    Bool.not_eq_true, Bool.not_eq_eq_eq_not, Bool.not_true]
  tauto

/-- A pattern finds the same behind a segment that stays as below it, but for the directory itself. -/
theorem Scope.respelled_join_here
    {Content : Type}
    {scope : Scope Content}
    (named : scope.tree.WellNamed)
    (rooted : isAbsolute scope.root = true)
    (short : FileTree.byteLength (String.ofList (join (join scope.root here) [])) < 4096)
    {pattern : List Char}
    (relative : isAbsolute pattern = false)
    (filled : pattern ≠ []) :
    List.map respell <$> scope.expand (join here pattern) =
        List.map respell <$> scope.stay.expand pattern ∨
      pattern.take 2 = anySegments ∧
        List.map respell <$> scope.expand (join here pattern) =
          (fun found => here :: found.map respell) <$> scope.stay.expand pattern := by
  have below : scope.stay.tree.WellNamed := named
  have relatives : Ensures (∀ text ∈ ·, isAbsolute text = false) (scope.stay.expand pattern) :=
    Scope.expand_ensures below relative_keptByWalks relative
  have whole := Scope.expand_join_here named rooted short relative filled
  cases given : scope.stay.expand pattern with
  | error fault =>
      rw [given] at whole
      rcases whole with same | ⟨stars, also⟩
      · exact .inl (by rw [same]; rfl)
      · exact .inr ⟨stars, by rw [also]; rfl⟩
  | ok found =>
      rw [given] at whole relatives
      have texts : (found.map (join here)).map respell = found.map respell := by
        rw [List.map_map]
        exact List.map_congr_left fun text member => respell_join_here (relatives text member)
      rcases whole with same | ⟨stars, also⟩
      · exact .inl (by rw [same]; exact congrArg Except.ok texts)
      · refine .inr ⟨stars, ?_⟩
        rw [also]
        exact congrArg (fun found => Except.ok (here :: found)) texts

end Glob

namespace Handler

open ConfigTokens.Glob
open ConfigTokens.Wildcard

/-- The pattern for all names gives the file and the directory, but for what is ignored. -/
theorem call_beside
    {ignore : List String}
    {kept : List (List Char)}
    (unmatched :
      (["a.txt".toList, "d".toList].filter fun path =>
        !ignore.any (isIgnored (String.ofList path))) = kept) :
    (Handler.glob { besideOptions with ignore := ignore }).call "*" besideHost =
      .ok (.plain (.list (kept.map fun path => .str (String.ofList (Path.anchor ['/'] "/w".toList path)))))
        { besideHost with world := Module.World.empty.note (.matched "*" "/w" kept.length) } := by
  have sorted : ["a.txt".toList, "d".toList].Pairwise (precedes · ·) := by decide
  have respelled : ["a.txt".toList, "d".toList].map respell = ["a.txt".toList, "d".toList] := by decide
  have searched :
      search (besideHost.globScope besideOptions) ⟨false, ignore⟩ "*" =
        .ok (kept.map fun path => String.ofList (Path.anchor ['/'] "/w".toList path)) := by
    rw [search_of_expand expand_beside, respelled, List.mergeSort_of_pairwise sorted, unmatched]
    simp only [Bool.false_and, Bool.not_false, List.filter_true]
    rfl
  have answered := @call_glob_of_search { besideOptions with ignore := ignore } "*" besideHost _ searched
  rw [List.map_map, List.length_map] at answered
  exact answered

end Handler

end ConfigTokens
