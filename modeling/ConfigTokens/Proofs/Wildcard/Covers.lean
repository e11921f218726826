import ConfigTokens.Wildcard.Segments
/-!
# Paths that patterns cover

`Covers` says segment by segment when a list of patterns matches a path: the pattern for any number of
segments takes some of them, any other pattern takes one that it accepts. `matchSegments` decides exactly
this, and patterns that are put one after the other cover what each of them covers. A name without special
characters accepts itself.
-/

namespace ConfigTokens.Wildcard

/-! ## Names that accept themselves -/

theorem table_cons
    (item : Item)
    (found : List Item)
    (name : List Char) :
    table (item :: found) name = item.extend name (table found name) := rfl

theorem table_ne_nil
    (found : List Item)
    (name : List Char) :
    table found name ≠ [] := by
  induction found with
  | nil => cases name <;> exact List.cons_ne_nil _ _
  | cons item rest ih =>
      rw [table_cons]
      cases item with
      | anyText =>
          obtain ⟨first, others, shape⟩ := List.exists_cons_of_ne_nil ih
          rw [shape]
          exact List.cons_ne_nil _ _
      | one set => exact List.append_ne_nil_of_right_ne_nil _ (List.cons_ne_nil _ _)

/-- The table of a name goes on with that of its tail. -/
theorem tail_table
    (found : List Item)
    (c : Char)
    (name : List Char) :
    (table found (c :: name)).tail = table found name := by
  induction found with
  | nil => rfl
  | cons item rest ih =>
      rw [table_cons, table_cons, ← ih]
      cases item with
      | anyText =>
          obtain ⟨first, others, shape⟩ := List.exists_cons_of_ne_nil (table_ne_nil rest (c :: name))
          rw [shape]
          rfl
      | one set =>
          unfold Item.extend
          dsimp only
          obtain ⟨first, others, shape⟩ := List.exists_cons_of_ne_nil (table_ne_nil rest name)
          rw [ih, shape]
          rfl

/-- An item for one character takes the first one of a name. -/
theorem matchAll_one_cons
    (set : CharSet)
    (found : List Item)
    (c : Char)
    (name : List Char) :
    Item.matchAll (.one set :: found) (c :: name) = (set.holds c && Item.matchAll found name) := by
  unfold Item.matchAll
  rw [table_cons]
  unfold Item.extend
  dsimp only
  obtain ⟨first, others, shape⟩ := List.exists_cons_of_ne_nil (table_ne_nil found name)
  rw [tail_table, shape]
  rfl

theorem holds_singleton_iff
    {c other : Char} :
    CharSet.holds ⟨false, [(c, c)]⟩ other = true ↔ other = c := by
  have range : CharSet.holds ⟨false, [(c, c)]⟩ other = true ↔ c ≤ other ∧ other ≤ c := by
    simp [CharSet.holds]
  rw [range]
  constructor
  · rintro ⟨above, below⟩
    exact Char.le_antisymm below above
  · rintro rfl
    exact ⟨Char.le_refl _, Char.le_refl _⟩

/-- A name without special characters accepts itself. -/
theorem accepts_self
    {name : List Char}
    (plain : isMagic name = false) :
    accepts name name = true := by
  unfold accepts
  induction name with
  | nil =>
      rw [items]
      rfl
  | cons c rest ih =>
      simp only [isMagic, List.any_cons, Bool.or_eq_false_iff, decide_eq_false_iff_not] at plain
      obtain ⟨⟨⟨star, mark⟩, bracket⟩, others⟩ := plain
      rw [items, if_neg star, if_neg mark, if_neg bracket, matchAll_one_cons, holds_singleton_iff.mpr rfl,
        ih others, Bool.and_self]

theorem matchAll_one_nil
    (set : CharSet)
    (found : List Item) :
    Item.matchAll (.one set :: found) [] = false := by
  unfold Item.matchAll
  rw [table_cons]
  rfl

/-- A pattern without special characters accepts itself only. -/
theorem accepts_iff_eq
    {pattern name : List Char}
    (plain : isMagic pattern = false) :
    accepts pattern name = true ↔ name = pattern := by
  constructor
  case mpr =>
      rintro rfl
      exact accepts_self plain
  intro accepted
  unfold accepts at accepted
  induction pattern generalizing name with
  | nil =>
      rw [items] at accepted
      cases name with
      | nil => rfl
      | cons => cases accepted
  | cons c rest ih =>
      simp only [isMagic, List.any_cons, Bool.or_eq_false_iff, decide_eq_false_iff_not] at plain
      obtain ⟨⟨⟨star, mark⟩, bracket⟩, others⟩ := plain
      rw [items, if_neg star, if_neg mark, if_neg bracket] at accepted
      cases name with
      | nil => rw [matchAll_one_nil] at accepted; cases accepted
      | cons other name =>
          rw [matchAll_one_cons, Bool.and_eq_true, holds_singleton_iff] at accepted
          rw [accepted.1, ih others accepted.2]

/-! ## Covered paths -/

/-- Patterns, one after the other, cover the segments of a path. -/
inductive Covers : List (List Char) → List (List Char) → Prop where
  | nil : Covers [] []
  /-- The pattern for any number of segments takes some. -/
  | any {patterns path : List (List Char)} (taken : List (List Char)) :
      Covers patterns path → Covers (anySegments :: patterns) (taken ++ path)
  /-- Any other pattern takes one segment. -/
  | one {pattern segment : List Char} {patterns path : List (List Char)} :
      pattern ≠ anySegments → accepts pattern segment = true →
        Covers patterns path → Covers (pattern :: patterns) (segment :: path)

/-- Matching decides which paths are covered. -/
theorem matchSegments_iff
    {patterns path : List (List Char)} :
    matchSegments patterns path = true ↔ Covers patterns path := by
  constructor
  · intro matched
    fun_induction matchSegments patterns path with
    | case1 path =>
        rw [List.isEmpty_iff.mp matched]
        exact .nil
    | case2 patterns path ih =>
        obtain ⟨count, -, matched⟩ := List.any_eq_true.mp matched
        have covered := Covers.any (path.take count) (ih count matched)
        rwa [List.take_append_drop] at covered
    | case3 pattern patterns other => cases matched
    | case4 pattern patterns other segment rest ih =>
        obtain ⟨accepted, matched⟩ := (Bool.and_eq_true _ _).mp matched
        exact .one other accepted (ih matched)
  · intro covered
    induction covered with
    | nil => rfl
    | @any patterns path taken _ ih =>
        unfold matchSegments
        rw [if_pos rfl]
        refine List.any_eq_true.mpr ⟨taken.length, ?_, ?_⟩
        · rw [List.mem_range, List.length_append]
          omega
        · rwa [List.drop_left]
    | one other accepted _ ih => rw [matchSegments, if_neg other, accepted, ih, Bool.and_self]

theorem isIgnored_iff
    {path pattern : String} :
    isIgnored path pattern = true ↔
      Covers (Path.segments pattern.toList) (Path.segments path.toList) :=
  matchSegments_iff

/-- Patterns one after the other cover what the first and then the second ones cover. -/
theorem Covers.append
    {patterns others path rest : List (List Char)}
    (front : Covers patterns path)
    (back : Covers others rest) :
    Covers (patterns ++ others) (path ++ rest) := by
  induction front with
  | nil => exact back
  | any taken _ ih =>
      rw [List.append_assoc]
      exact .any taken ih
  | one other accepted _ ih => exact .one other accepted ih

/-- The pattern for any number of segments covers every path. -/
theorem covers_anySegments
    (path : List (List Char)) :
    Covers [anySegments] path := by
  have covered := Covers.any path Covers.nil
  rwa [List.append_nil] at covered

theorem covers_singleton
    {pattern segment : List Char}
    (accepted : accepts pattern segment = true) :
    Covers [pattern] [segment] := by
  by_cases any : pattern = anySegments
  · subst any
    exact covers_anySegments [segment]
  · exact .one any accepted .nil

/-- Segments without special characters cover themselves. -/
theorem covers_self
    {path : List (List Char)}
    (plain : ∀ segment ∈ path, isMagic segment = false) :
    Covers path path := by
  induction path with
  | nil => exact .nil
  | cons segment rest ih =>
      obtain ⟨first, others⟩ := List.forall_mem_cons.mp plain
      exact (covers_singleton (accepts_self first)).append (ih others)

/-- Patterns that cover the empty path cover a path of one segment, unless there are none. -/
theorem Covers.single
    {patterns path : List (List Char)}
    (covered : Covers patterns path)
    (empty : path = [])
    (some : patterns ≠ [])
    (segment : List Char) :
    Covers patterns [segment] := by
  cases covered with
  | nil => exact absurd rfl some
  | any taken rest =>
      obtain ⟨-, rfl⟩ := List.append_eq_nil_iff.mp empty
      exact .any [segment] rest
  | one => cases empty

/-- A segment without special characters among the patterns is among the segments that they cover. -/
theorem Covers.mem_of_plain
    {patterns path : List (List Char)}
    (covered : Covers patterns path)
    {literal : List Char}
    (plain : isMagic literal = false)
    (member : literal ∈ patterns) :
    literal ∈ path := by
  induction covered with
  | nil => cases member
  | any taken _ ih =>
      rcases List.mem_cons.mp member with rfl | below
      · cases plain
      · exact List.mem_append_right taken (ih below)
  | one _ accepted _ ih =>
      rcases List.mem_cons.mp member with rfl | below
      · exact (accepts_iff_eq plain).mp accepted ▸ List.mem_cons_self
      · exact List.mem_cons_of_mem _ (ih below)

/-- Every pattern but that for any number of segments takes one. -/
theorem Covers.length_le
    {patterns path : List (List Char)}
    (covered : Covers patterns path) :
    (patterns.filter (· ≠ anySegments)).length ≤ path.length := by
  induction covered with
  | nil => exact Nat.le_refl 0
  | any taken _ ih =>
      rw [List.filter_cons_of_neg (by simp), List.length_append]
      exact Nat.le_add_left_of_le ih
  | one other _ _ ih =>
      rw [List.filter_cons_of_pos (by simpa using other)]
      exact Nat.succ_le_succ ih

/-- Patterns for any number of segments may take none. -/
theorem covers_of_filter
    {patterns path : List (List Char)}
    (covered : Covers (patterns.filter (· ≠ anySegments)) path) :
    Covers patterns path := by
  induction patterns generalizing path with
  | nil => exact covered
  | cons pattern rest ih =>
      by_cases any : pattern = anySegments
      · rw [List.filter_cons_of_neg (by simp [any])] at covered
        subst any
        exact .any [] (ih covered)
      · rw [List.filter_cons_of_pos (by simpa using any)] at covered
        cases covered with
        | any => exact absurd rfl any
        | one other accepted below => exact .one other accepted (ih below)

end ConfigTokens.Wildcard
