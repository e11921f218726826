import ConfigTokens.Proofs.Glob.Finds
import ConfigTokens.Proofs.Glob.Spelled
/-!
# Patterns that climb first

A pattern may go up by parent segments. If it does so before its first special character only, then all that
it finds begins with the same segments and goes down from there. So the paths that are answered begin with
the same names, and what the texts have behind the common segments follows them (`Begins.anchor`).
-/

namespace ConfigTokens.Glob

open ConfigTokens.Path
open ConfigTokens.Wildcard

/-! ## Respelled texts -/

theorem lead_respell
    (text : List Char) :
    lead (respell text) = lead text := by
  have relative : isAbsolute (Text.unite '/' (steps text)) = false :=
    isAbsolute_unite fun name => isName_of_mem_steps
  rw [respell_eq]
  split
  case isTrue nothing =>
      rw [(List.append_eq_nil_iff.mp nothing).1]
      rfl
  case isFalse => rw [lead_append (.inl relative), lead_lead]

/-- A text is anchored where it is anchored respelled. -/
theorem anchor_respell
    {cwd : List Char}
    (rooted : isAbsolute cwd = true)
    (base text : List Char) :
    anchor cwd base (respell text) = anchor cwd base text := by
  have same : isAbsolute (respell text) = isAbsolute text := by
    rw [isAbsolute_eq, lead_respell, ← isAbsolute_eq]
  have kept : (segments (respell text)).filter (· ≠ here) = (segments text).filter (· ≠ here) :=
    steps_respell text
  rw [anchor_eq rooted, anchor_eq rooted, route_eq_append cwd base (respell text),
    route_eq_append cwd base text, same, ← resolve_append_filter _ (segments (respell text)), kept,
    resolve_append_filter]

/-! ## Patterns that climb first -/

/-- No parent segment stands behind a segment with special characters. -/
def ClimbsFirst
    (pattern : List Char) : Prop :=
  parent ∉ (segments pattern).dropWhile fun segment => !isMagic segment

instance (pattern : List Char) : Decidable (ClimbsFirst pattern) :=
  inferInstanceAs (Decidable (_ ∉ _))

/-- The segments before the first one with special characters. -/
def plainFront
    (pattern : List Char) : List (List Char) :=
  (segments pattern).takeWhile fun segment => !isMagic segment

theorem not_isMagic_of_mem_plainFront
    {pattern segment : List Char}
    (member : segment ∈ plainFront pattern) :
    isMagic segment = false := by
  simpa using List.all_eq_true.mp List.all_takeWhile segment member

/-- A path starts like another one, and goes down behind some segments. -/
structure Begins
    (front : List (List Char))
    (pattern path : List Char) : Prop where
  starts : lead path = lead pattern
  goesOn : ∃ low, segments path = front ++ low ∧ parent ∉ low

theorem ClimbsFirst.begins
    {pattern : List Char}
    (first : ClimbsFirst pattern) :
    Begins (plainFront pattern) pattern pattern :=
  ⟨rfl, _, List.takeWhile_append_dropWhile.symm, first⟩

theorem IsLower.begins
    {path : List Char}
    (lower : IsLower path) :
    Begins [] path path :=
  ⟨rfl, segments path, rfl, lower.low⟩

/-- A front without special characters that begins a pattern with some begins its directory. -/
theorem Begins.directory
    {front : List (List Char)}
    {pattern : List Char}
    (plain : ∀ segment ∈ front, isMagic segment = false)
    (magic : isMagic pattern = true)
    (begins : Begins front pattern pattern) :
    Begins front (directory pattern) (directory pattern) ∧ IsLower (baseName pattern) := by
  obtain ⟨low, parts, goesDown⟩ := begins.goesOn
  obtain ⟨special, among, held⟩ : ∃ segment ∈ segments pattern, isMagic segment = true := by
    obtain ⟨c, inside, special⟩ := List.any_eq_true.mp magic
    have other : c ≠ '/' := by
      rintro rfl
      cases special
    obtain ⟨segment, member, within⟩ := exists_mem_segments inside other
    exact ⟨segment, member, List.any_eq_true.mpr ⟨c, within, special⟩⟩
  have more : low ≠ [] := by
    rintro rfl
    rw [parts, List.append_nil] at among
    exact Bool.false_ne_true ((plain special among).symm.trans held)
  have whole := (segments_directory_append pattern).trans parts
  have single : (segments (baseName pattern)).length ≤ 1 := by
    by_cases empty : baseName pattern = []
    · rw [empty]
      exact Nat.zero_le 1
    · rw [segments_of_isName ⟨empty, slash_not_mem_baseName pattern⟩]
      exact Nat.le_refl 1
  -- At most one segment is cut off, and it is not one of the front.
  obtain ⟨kept, ofDirectory, ofLow⟩ :
      ∃ kept, segments (Path.directory pattern) = front ++ kept ∧
        low = kept ++ segments (baseName pattern) := by
    rcases List.append_eq_append_iff.mp whole with ⟨cut, ofFront, ofBase⟩ | ⟨kept, ofDirectory, ofLow⟩
    · have alone : cut = [] := by
        rw [ofBase, List.length_append] at single
        have some := List.length_pos_iff.mpr more
        exact List.length_eq_zero_iff.mp (by omega)
      subst alone
      exact ⟨[], by simpa using ofFront.symm, by simpa using ofBase.symm⟩
    · exact ⟨kept, ofDirectory, ofLow⟩
  rw [ofLow, List.mem_append, not_or] at goesDown
  exact ⟨⟨rfl, kept, ofDirectory, goesDown.1⟩, isAbsolute_baseName pattern, goesDown.2⟩

/-- What lies below a path that begins with a front does, too. -/
theorem Begins.join
    {front : List (List Char)}
    {pattern place name : List Char}
    (upper : Begins front (Path.directory pattern) place)
    (lower : IsLower name) :
    Begins front pattern (Path.join place name) := by
  obtain ⟨low, parts, goesDown⟩ := upper.goesOn
  refine ⟨?_, low ++ segments name, ?_, ?_⟩
  · rw [lead_join place lower.relative, upper.starts, lead_directory]
  · rw [segments_join_of_relative place lower.relative, parts, List.append_assoc]
  · rw [List.mem_append, not_or]
    exact ⟨goesDown, lower.low⟩

/-- All that a pattern finds begins as the pattern does. -/
theorem Scope.Finds.begins
    {Content : Type}
    {scope : Scope Content}
    (named : scope.tree.WellNamed)
    {directoriesOnly : Bool}
    {pattern text : List Char}
    (finds : scope.Finds directoriesOnly pattern text)
    {front : List (List Char)}
    (plain : ∀ segment ∈ front, isMagic segment = false)
    (begins : Begins front pattern pattern) :
    Begins front pattern text := by
  have down {directoriesOnly : Bool} {place last name : List Char} {names : List (List Char)}
      (matched : scope.matchLast directoriesOnly place last = .ok names)
      (lower : IsLower last)
      (member : name ∈ names) :
      IsLower name := by
    have all := Scope.matchLast_ensures named isLower_keptByWalks directoriesOnly place lower
    rw [matched] at all
    exact all name member
  induction finds with
  | literal => exact begins
  | inNamed magic _ matched member =>
      obtain ⟨upper, lower⟩ := begins.directory plain magic
      exact upper.join (down matched lower member)
  | @inFound _ pattern place name names magic _ matched member ih =>
      have whole : isMagic pattern = true := by
        obtain ⟨c, inside, special⟩ := List.any_eq_true.mp magic
        exact List.any_eq_true.mpr ⟨c, mem_of_mem_directory inside, special⟩
      obtain ⟨upper, lower⟩ := begins.directory plain whole
      exact (ih upper).join (down matched lower member)

/-- The names that lead to a front of a path. -/
def origin
    (cwd base pattern : List Char)
    (front : List (List Char)) : List (List Char) :=
  resolve ((if isAbsolute pattern then [] else route cwd base []) ++ front)

/-- Behind the front, the steps of a text are the last names of the path that is answered for it. -/
theorem Begins.anchor
    {cwd : List Char}
    (rooted : isAbsolute cwd = true)
    (base : List Char)
    {front : List (List Char)}
    {pattern text : List Char}
    (begins : Begins front pattern text) :
    ∃ low, (∀ name ∈ low, IsProper name) ∧
      steps text = front.filter (· ≠ here) ++ low ∧
        Path.anchor cwd base (respell text) =
          '/' :: Text.unite '/' (origin cwd base pattern front ++ low) := by
  obtain ⟨low, parts, goesDown⟩ := begins.goesOn
  refine ⟨low.filter (· ≠ here), fun name member => ?_, ?_, ?_⟩
  · obtain ⟨inside, moves⟩ := List.mem_filter.mp member
    have among : name ∈ segments text := parts ▸ List.mem_append_right front inside
    exact ⟨isName_of_mem_segments among, of_decide_eq_true moves, fun up => goesDown (up ▸ inside)⟩
  · rw [steps, parts, List.filter_append]
  · have same : isAbsolute text = isAbsolute pattern := by
      rw [isAbsolute_eq, begins.starts, ← isAbsolute_eq]
    rw [anchor_respell rooted, anchor_eq rooted, route_eq_append, same, parts, ← List.append_assoc,
      resolve_append_of_low _ goesDown, origin]

end ConfigTokens.Glob
