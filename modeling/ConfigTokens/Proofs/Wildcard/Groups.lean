import ConfigTokens.Proofs.Path.Segments
import ConfigTokens.Proofs.Wildcard.Covers
import Mathlib.Data.List.Forall2
import Mathlib.Logic.Relation
/-!
# Groups of segments

A path that patterns match is one that can be cut into consecutive groups, of which each pattern takes one:
any group if it is the pattern for any number of segments, and a single segment that it accepts if not. So a
match of patterns that are put one after the other is a match of each part on a piece of the path, and
several patterns for any number of segments in a row match what one of them matches. Paths and ignore
patterns are compared by their segments, so that doubled slashes and slashes at the ends do not count.
-/

namespace ConfigTokens.Wildcard

/-! ## Cuts into groups -/

/-- A pattern takes a group of segments. -/
inductive Takes : List Char → List (List Char) → Prop where
  /-- The pattern for any number of segments takes any group, also the empty one. -/
  | any (group : List (List Char)) : Takes anySegments group
  /-- Any other pattern takes one segment, which it accepts. -/
  | one {pattern segment : List Char} :
      pattern ≠ anySegments → accepts pattern segment = true → Takes pattern [segment]

/-- A path is covered exactly if it can be cut into groups, one for each pattern in order. -/
theorem covers_iff_groups
    {patterns path : List (List Char)} :
    Covers patterns path ↔ ∃ groups, List.Forall₂ Takes patterns groups ∧ groups.flatten = path := by
  constructor
  · intro covered
    induction covered with
    | nil => exact ⟨[], .nil, rfl⟩
    | any taken _ ih =>
        rcases ih with ⟨groups, taking, rfl⟩
        exact ⟨taken :: groups, .cons (.any taken) taking, rfl⟩
    | @one pattern segment _ _ other accepted _ ih =>
        rcases ih with ⟨groups, taking, rfl⟩
        exact ⟨[segment] :: groups, .cons (.one other accepted) taking, rfl⟩
  · rintro ⟨groups, taking, rfl⟩
    induction taking with
    | nil => exact .nil
    | cons takes _ ih =>
        cases takes with
        | any => exact .any _ ih
        | one other accepted => exact .one other accepted ih

/-! ## Patterns one after the other -/

/-- What patterns that are put one after the other cover is cut where the second ones begin. -/
theorem covers_append_iff
    {patterns others path : List (List Char)} :
    Covers (patterns ++ others) path ↔
      ∃ front back, front ++ back = path ∧ Covers patterns front ∧ Covers others back := by
  constructor
  · intro covered
    induction patterns generalizing path with
    | nil => exact ⟨[], path, rfl, .nil, covered⟩
    | cons pattern rest ih =>
        rw [List.cons_append] at covered
        cases covered with
        | any taken below =>
            rcases ih below with ⟨front, back, rfl, first, second⟩
            exact ⟨taken ++ front, back, List.append_assoc .., .any taken first, second⟩
        | one other accepted below =>
            rcases ih below with ⟨front, back, rfl, first, second⟩
            exact ⟨_ :: front, back, rfl, .one other accepted first, second⟩
  · rintro ⟨front, back, rfl, first, second⟩
    exact first.append second

/-- Patterns between others may be replaced by patterns that cover the same paths. -/
theorem covers_between_congr
    {patterns others : List (List Char)}
    (same : ∀ path, Covers patterns path ↔ Covers others path)
    (before behind path : List (List Char)) :
    Covers (before ++ patterns ++ behind) path ↔ Covers (before ++ others ++ behind) path := by
  simp only [covers_append_iff, same]

/-- Patterns for any number of segments, at least one of them, cover every path. -/
theorem covers_replicate
    (count : Nat)
    (path : List (List Char)) :
    Covers (List.replicate (count + 1) anySegments) path := by
  induction count generalizing path with
  | zero => exact covers_anySegments path
  | succ count ih =>
      show Covers (anySegments :: List.replicate (count + 1) anySegments) path
      have covered := Covers.any path (ih [])
      rwa [List.append_nil] at covered

/-! ## Slashes that do not count -/

/-- An edit of a text's slashes: one of them is doubled, or one is put at an end. -/
inductive SlashEdit : String → String → Prop where
  | double (front back : String) : SlashEdit (front ++ "/" ++ back) (front ++ "//" ++ back)
  | lead (text : String) : SlashEdit text ("/" ++ text)
  | trail (text : String) : SlashEdit text (text ++ "/")

/-- An edit of slashes leaves the segments as they are. -/
theorem SlashEdit.segments_eq
    {text edited : String}
    (edit : SlashEdit text edited) :
    Path.segments edited.toList = Path.segments text.toList := by
  have slash : "/".toList = ['/'] := rfl
  have slashes : "//".toList = ['/', '/'] := rfl
  cases edit with
  | double front back =>
      simp only [String.toList_append, slash, slashes, List.append_assoc, List.cons_append,
        List.nil_append, Path.segments_append_cons, Path.segments_cons_slash]
  | lead => rw [String.toList_append, slash, List.singleton_append, Path.segments_cons_slash]
  | trail =>
      rw [String.toList_append, slash, Path.segments_append_cons, Path.segments_nil, List.append_nil]

/-- So does any number of edits, each made or undone. -/
theorem segments_eq_of_edits
    {text edited : String}
    (edits : Relation.EqvGen SlashEdit text edited) :
    Path.segments edited.toList = Path.segments text.toList := by
  induction edits with
  | rel _ _ edit => exact edit.segments_eq
  | refl => rfl
  | symm _ _ _ ih => exact ih.symm
  | trans _ _ _ _ _ first second => exact second.trans first

end ConfigTokens.Wildcard
