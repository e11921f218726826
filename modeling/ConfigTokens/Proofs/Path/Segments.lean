import ConfigTokens.Path.Basic
/-!
# Segments of joined paths

The segments of a path are what its meaning hangs on. Joining two paths puts their segments one after
the other, unless the second path starts at the root, names that are united with slashes come back as the
segments of the text, and a path has the segments of its directory and its last one.
-/

namespace ConfigTokens.Text

/-! ## Uniting pieces -/

@[simp]
theorem unite_nil
    (separator : Char) :
    unite separator [] = [] := rfl

@[simp]
theorem unite_singleton
    (separator : Char)
    (piece : List Char) :
    unite separator [piece] = piece := by
  simp [unite, List.intercalate]

theorem unite_cons_of_ne_nil
    (separator : Char)
    (piece : List Char)
    {pieces : List (List Char)}
    (more : pieces ≠ []) :
    unite separator (piece :: pieces) = piece ++ separator :: unite separator pieces := by
  cases pieces with
  | nil => exact absurd rfl more
  | cons next rest => simp [unite, List.intercalate]

theorem mem_unite
    {separator c : Char}
    {pieces : List (List Char)}
    {piece : List Char}
    (member : piece ∈ pieces)
    (inside : c ∈ piece) :
    c ∈ unite separator pieces := by
  induction pieces with
  | nil => cases member
  | cons first rest ih =>
      by_cases alone : rest = []
      · subst alone
        rw [unite_singleton]
        exact List.mem_singleton.mp member ▸ inside
      · rw [unite_cons_of_ne_nil separator first alone]
        rcases List.mem_cons.mp member with rfl | later
        · exact List.mem_append_left _ inside
        · exact List.mem_append_right _ (List.mem_cons_of_mem _ (ih later))

theorem exists_mem_of_mem_unite
    {separator c : Char}
    {pieces : List (List Char)}
    (member : c ∈ unite separator pieces) :
    (∃ piece ∈ pieces, c ∈ piece) ∨ c = separator := by
  induction pieces with
  | nil => cases member
  | cons first rest ih =>
      by_cases alone : rest = []
      · subst alone
        rw [unite_singleton] at member
        exact .inl ⟨first, List.mem_singleton_self first, member⟩
      · rw [unite_cons_of_ne_nil separator first alone] at member
        rcases List.mem_append.mp member with inside | later
        · exact .inl ⟨first, List.mem_cons_self, inside⟩
        · rcases List.mem_cons.mp later with same | later
          · exact .inr same
          · rcases ih later with ⟨piece, among, inside⟩ | same
            · exact .inl ⟨piece, List.mem_cons_of_mem first among, inside⟩
            · exact .inr same

/-- Pieces without separators are found again when their text is cut. -/
theorem fields_unite
    {separator : Char}
    {pieces : List (List Char)}
    (some : pieces ≠ [])
    (clean : ∀ piece ∈ pieces, separator ∉ piece) :
    fields separator (unite separator pieces) = pieces := by
  induction pieces with
  | nil => exact absurd rfl some
  | cons piece rest ih =>
      obtain ⟨first, others⟩ := List.forall_mem_cons.mp clean
      cases rest with
      | nil => rw [unite_singleton, fields_of_not_mem first]
      | cons next more =>
          rw [unite_cons_of_ne_nil separator piece (List.cons_ne_nil next more), fields_append_cons,
            fields_of_not_mem first, ih (List.cons_ne_nil next more) others, List.singleton_append]

end ConfigTokens.Text

namespace ConfigTokens.Path

open ConfigTokens.Text

/-! ## Names in segments -/

/-- A text that is a single segment. -/
def IsName
    (text : List Char) : Prop :=
  text ≠ [] ∧ '/' ∉ text

/-- A name that leads from a directory to something in it. -/
def IsProper
    (name : List Char) : Prop :=
  IsName name ∧ name ≠ here ∧ name ≠ parent

theorem isName_of_mem_segments
    {path segment : List Char}
    (member : segment ∈ segments path) :
    IsName segment := by
  obtain ⟨piece, filled⟩ := List.mem_filter.mp member
  exact ⟨of_decide_eq_true filled, not_mem_of_mem_fields piece⟩

theorem isAbsolute_of_single
    {text : List Char}
    (single : '/' ∉ text) :
    isAbsolute text = false := by
  cases text with
  | nil => rfl
  | cons c rest =>
      have other : c ≠ '/' := fun same => single (same ▸ List.mem_cons_self)
      unfold isAbsolute
      split
      · next shape => exact absurd (List.cons.inj shape).1 other
      · rfl

theorem not_isAbsolute_of_isName
    {text : List Char}
    (name : IsName text) :
    isAbsolute text = false :=
  isAbsolute_of_single name.2

theorem exists_cons_of_isAbsolute
    {path : List Char}
    (rooted : isAbsolute path = true) :
    ∃ rest, path = '/' :: rest := by
  unfold isAbsolute at rooted
  split at rooted
  · next rest => exact ⟨rest, rfl⟩
  · cases rooted

/-! ## Segments of a text -/

@[simp]
theorem segments_nil :
    segments [] = [] := rfl

theorem segments_append_cons
    (front back : List Char) :
    segments (front ++ '/' :: back) = segments front ++ segments back := by
  unfold segments
  rw [fields_append_cons, List.filter_append]

@[simp]
theorem segments_cons_slash
    (rest : List Char) :
    segments ('/' :: rest) = segments rest :=
  segments_append_cons [] rest

theorem segments_of_isName
    {text : List Char}
    (name : IsName text) :
    segments text = [text] := by
  unfold segments
  rw [fields_of_not_mem name.2]
  simp [name.1]

/-- Names that are united with slashes are the segments of the text. -/
theorem segments_unite
    {names : List (List Char)}
    (clean : ∀ name ∈ names, IsName name) :
    segments (unite '/' names) = names := by
  cases names with
  | nil => rfl
  | cons name rest =>
      unfold segments
      rw [fields_unite (List.cons_ne_nil name rest) fun piece member => (clean piece member).2]
      exact List.filter_eq_self.mpr fun piece member => decide_eq_true (clean piece member).1

/-! ## Characters of segments -/

theorem mem_of_mem_segments
    {path segment : List Char}
    {c : Char}
    (member : segment ∈ segments path)
    (inside : c ∈ segment) :
    c ∈ path := by
  have piece : segment ∈ fields '/' path := (List.mem_filter.mp member).1
  rw [← unite_fields '/' path]
  exact mem_unite piece inside

/-- Every character but a slash stands in a segment. -/
theorem exists_mem_segments
    {path : List Char}
    {c : Char}
    (inside : c ∈ path)
    (other : c ≠ '/') :
    ∃ segment ∈ segments path, c ∈ segment := by
  rw [← unite_fields '/' path] at inside
  rcases exists_mem_of_mem_unite inside with ⟨piece, member, held⟩ | slash
  · have filled : piece ≠ [] := List.ne_nil_of_mem held
    exact ⟨piece, List.mem_filter.mpr ⟨member, decide_eq_true filled⟩, held⟩
  · exact absurd slash other

theorem eq_slash_of_mem_lead
    {path : List Char}
    {c : Char}
    (member : c ∈ lead path) :
    c = '/' := by
  unfold lead at member
  split at member <;> simp_all

/-- A path without segments that does not start at the root is empty. -/
theorem eq_nil_of_segments_eq_nil
    {path : List Char}
    (none : segments path = [])
    (relative : lead path = []) :
    path = [] := by
  cases path with
  | nil => rfl
  | cons c rest =>
      by_cases slash : c = '/'
      · subst slash
        unfold lead at relative
        split at relative
        · cases relative
        · cases relative
        · cases relative
        · next other => exact absurd rfl (other rest)
      · obtain ⟨segment, member, -⟩ := exists_mem_segments List.mem_cons_self slash
        rw [none] at member
        cases member

/-! ## The last segment -/

theorem segments_of_slashes
    {path : List Char}
    (slashes : ∀ c ∈ path, c = '/') :
    segments path = [] := by
  induction path with
  | nil => rfl
  | cons c rest ih =>
      obtain ⟨rfl, others⟩ := List.forall_mem_cons.mp slashes
      rw [segments_cons_slash, ih others]

theorem segments_append_slashes
    (path : List Char)
    {slashes : List Char}
    (all : ∀ c ∈ slashes, c = '/') :
    segments (path ++ slashes) = segments path := by
  cases slashes with
  | nil => rw [List.append_nil]
  | cons c rest =>
      obtain ⟨rfl, others⟩ := List.forall_mem_cons.mp all
      rw [segments_append_cons, segments_of_slashes others, List.append_nil]

theorem segments_slashes_append
    {slashes : List Char}
    (all : ∀ c ∈ slashes, c = '/')
    (path : List Char) :
    segments (slashes ++ path) = segments path := by
  induction slashes with
  | nil => rfl
  | cons c rest ih =>
      obtain ⟨rfl, others⟩ := List.forall_mem_cons.mp all
      rw [List.cons_append, segments_cons_slash, ih others]

/-- Names behind the slashes that a path keeps at its start are the segments. -/
theorem segments_lead_append_unite
    (path : List Char)
    {names : List (List Char)}
    (single : ∀ name ∈ names, IsName name) :
    segments (lead path ++ unite '/' names) = names := by
  rw [segments_slashes_append fun c => eq_slash_of_mem_lead, segments_unite single]

theorem cutLast_append
    (path : List Char) :
    (cutLast path).1 ++ (cutLast path).2 = path := by
  unfold cutLast
  split
  · next front back cut =>
    obtain ⟨shape, -⟩ := beforeLast_eq_some_iff.mp cut
    rw [shape, List.append_assoc, List.singleton_append]
  · rfl

theorem baseName_isSuffix
    (path : List Char) :
    baseName path <:+ path :=
  ⟨(cutLast path).1, cutLast_append path⟩

theorem slash_not_mem_baseName
    (path : List Char) :
    '/' ∉ baseName path := by
  unfold baseName cutLast
  split
  · next front back cut => exact (beforeLast_eq_some_iff.mp cut).2
  · next whole => exact beforeLast_eq_none_iff.mp whole

/-- A directory with some slashes behind it is what stands before the last segment. -/
theorem exists_slashes_directory
    (path : List Char) :
    ∃ slashes : List Char, (∀ c ∈ slashes, c = '/') ∧ directory path ++ slashes = (cutLast path).1 := by
  unfold directory
  dsimp only
  split
  case isTrue => exact ⟨[], List.forall_mem_nil _, List.append_nil _⟩
  case isFalse =>
      refine ⟨((cutLast path).1.reverse.takeWhile (· == '/')).reverse, fun c member => ?_, ?_⟩
      · have taken := List.all_eq_true.mp List.all_takeWhile c (List.mem_reverse.mp member)
        exact eq_of_beq taken
      · rw [← List.reverse_append, List.takeWhile_append_dropWhile, List.reverse_reverse]

theorem directory_isPrefix
    (path : List Char) :
    directory path <+: path := by
  obtain ⟨slashes, -, front⟩ := exists_slashes_directory path
  refine ⟨slashes ++ baseName path, ?_⟩
  rw [← List.append_assoc, front]
  exact cutLast_append path

theorem mem_of_mem_directory
    {path : List Char}
    {c : Char}
    (member : c ∈ directory path) :
    c ∈ path :=
  (directory_isPrefix path).subset member

theorem segments_cutLast
    (path : List Char) :
    segments path = segments (cutLast path).1 ++ segments (baseName path) := by
  unfold baseName cutLast
  split
  · next front back cut =>
    rw [(beforeLast_eq_some_iff.mp cut).1, segments_append_cons, segments_append_cons, segments_nil,
      List.append_nil]
  · rfl

/-- The segments of a path are those of its directory and the last one, if it has text. -/
theorem segments_directory_append
    (path : List Char) :
    segments (directory path) ++ segments (baseName path) = segments path := by
  obtain ⟨slashes, all, front⟩ := exists_slashes_directory path
  rw [segments_cutLast path, ← front, segments_append_slashes (directory path) all]

/-! ## Joined paths -/

/-- A path is joined to a base by its own text, or by a slash where the base needs one. -/
theorem segments_join
    (base path : List Char) :
    segments (join base path) =
      if isAbsolute path then segments path else segments base ++ segments path := by
  unfold join
  split
  case isTrue => rfl
  case isFalse =>
      split
      case isTrue closed =>
          rcases (Bool.or_eq_true _ _).mp closed with empty | slash
          · rw [of_decide_eq_true empty]
            rfl
          · obtain ⟨front, rfl⟩ := List.getLast?_eq_some_iff.mp (of_decide_eq_true slash)
            rw [List.append_assoc, List.singleton_append, segments_append_cons, segments_append_cons]
            simp
      case isFalse => exact segments_append_cons base path

theorem isAbsolute_append
    {front : List Char}
    (some : front ≠ [])
    (back : List Char) :
    isAbsolute (front ++ back) = isAbsolute front := by
  obtain ⟨c, rest, rfl⟩ := List.exists_cons_of_ne_nil some
  by_cases slash : c = '/'
  · subst slash
    rfl
  · unfold isAbsolute
    simp [slash]

theorem isAbsolute_join
    (base path : List Char) :
    isAbsolute (join base path) = (isAbsolute base || isAbsolute path) := by
  unfold join
  split
  case isTrue rooted => simp [rooted]
  case isFalse relative =>
      have plain : isAbsolute path = false := Bool.eq_false_iff.mpr relative
      rw [plain, Bool.or_false]
      by_cases empty : base = []
      · subst empty
        exact plain
      · split
        · exact isAbsolute_append empty path
        · exact isAbsolute_append empty ('/' :: path)

/-- A relative path goes on from its base. -/
theorem segments_join_of_relative
    (base : List Char)
    {path : List Char}
    (relative : isAbsolute path = false) :
    segments (join base path) = segments base ++ segments path := by
  rw [segments_join, if_neg (by simp [relative])]

/-- A name below a directory is one more segment. -/
theorem segments_join_of_isName
    (base : List Char)
    {text : List Char}
    (name : IsName text) :
    segments (join base text) = segments base ++ [text] := by
  rw [segments_join_of_relative base (not_isAbsolute_of_isName name), segments_of_isName name]

/-- Names that are joined to a base one after the other are appended to its segments. -/
theorem segments_foldl_join
    {names : List (List Char)}
    (base : List Char)
    (clean : ∀ name ∈ names, IsName name) :
    segments (names.foldl join base) = segments base ++ names := by
  induction names generalizing base with
  | nil => simp
  | cons name rest ih =>
      obtain ⟨first, others⟩ := List.forall_mem_cons.mp clean
      rw [List.foldl_cons, ih (join base name) others, segments_join_of_isName base first,
        List.append_assoc, List.singleton_append]

theorem isAbsolute_foldl_join
    {names : List (List Char)}
    (base : List Char)
    (clean : ∀ name ∈ names, IsName name) :
    isAbsolute (names.foldl join base) = isAbsolute base := by
  induction names generalizing base with
  | nil => rfl
  | cons name rest ih =>
      obtain ⟨first, others⟩ := List.forall_mem_cons.mp clean
      rw [List.foldl_cons, ih (join base name) others, isAbsolute_join, not_isAbsolute_of_isName first,
        Bool.or_false]

/-! ## The slashes at the start -/

theorem isAbsolute_eq
    (path : List Char) :
    isAbsolute path = !(lead path).isEmpty := by
  unfold isAbsolute lead
  split <;> split <;> simp_all

theorem lead_lead
    (path : List Char) :
    lead (lead path) = lead path := by
  generalize shape : lead path = kept
  unfold lead at shape
  split at shape <;> subst shape <;> rfl

/-- Only the slashes at the start of a path count for its lead. -/
theorem lead_takeWhile
    (path : List Char) :
    lead (path.takeWhile (· == '/')) = lead path := by
  match path with
  | [] => rfl
  | [a] => by_cases first : a = '/' <;> simp [lead, first]
  | [a, b] =>
      by_cases first : a = '/' <;> by_cases second : b = '/' <;> simp [lead, first, second]
  | a :: b :: c :: rest =>
      by_cases first : a = '/' <;> by_cases second : b = '/' <;> by_cases third : c = '/' <;>
        simp [lead, first, second, third]

/-- What follows does not add to the slashes at the start. -/
theorem lead_append
    {front back : List Char}
    (apart : isAbsolute back = false ∨ ∃ c ∈ front, c ≠ '/') :
    lead (front ++ back) = lead front := by
  rw [← lead_takeWhile (front ++ back), List.takeWhile_append]
  split
  case isTrue whole =>
      have slashes : front.takeWhile (· == '/') = front :=
        (List.takeWhile_prefix _).eq_of_length whole
      rcases apart with relative | ⟨c, inside, other⟩
      · have none : back.takeWhile (· == '/') = [] := by
          cases back with
          | nil => rfl
          | cons d rest =>
              refine List.takeWhile_cons_of_neg fun slash => ?_
              rw [eq_of_beq slash] at relative
              cases relative
        rw [none, List.append_nil]
      · rw [← slashes] at inside
        have slash : (c == '/') = true := List.all_eq_true.mp List.all_takeWhile c inside
        exact absurd (eq_of_beq slash) other
  case isFalse => exact lead_takeWhile front

theorem lead_join
    (base : List Char)
    {path : List Char}
    (relative : isAbsolute path = false) :
    lead (join base path) = lead base := by
  unfold join
  rw [if_neg (by simp [relative])]
  split
  case isTrue => exact lead_append (.inl relative)
  case isFalse closed =>
      obtain ⟨filled, last⟩ : base ≠ [] ∧ base.getLast? ≠ some '/' := by simpa using closed
      refine lead_append (.inr ⟨base.getLast filled, List.getLast_mem filled, fun slash => last ?_⟩)
      rw [List.getLast?_eq_some_getLast filled, slash]

theorem isAbsolute_baseName
    (path : List Char) :
    isAbsolute (baseName path) = false :=
  isAbsolute_of_single (slash_not_mem_baseName path)

/-- A path starts with the slashes of its directory. -/
theorem lead_directory
    (path : List Char) :
    lead (directory path) = lead path := by
  have whole : (cutLast path).1 ++ baseName path = path := cutLast_append path
  by_cases slashes : (cutLast path).1.all (· == '/') = true
  · have same : directory path = (cutLast path).1 := if_pos slashes
    rw [same, ← lead_append (.inl (isAbsolute_baseName path)), whole]
  · obtain ⟨cut, all, front⟩ := exists_slashes_directory path
    obtain ⟨c, inside, other⟩ : ∃ c ∈ (cutLast path).1, c ≠ '/' := by simpa using slashes
    rw [← front] at inside
    rcases List.mem_append.mp inside with kept | dropped
    · have same : lead (directory path ++ (cut ++ baseName path)) = lead (directory path) :=
        lead_append (.inr ⟨c, kept, other⟩)
      rw [← same, ← List.append_assoc, front, whole]
    · exact absurd (all c dropped) other

end ConfigTokens.Path
