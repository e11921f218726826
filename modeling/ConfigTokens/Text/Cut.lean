/-!
# Cutting text at a separator

`fields` cuts at every separator and `unite` puts the pieces together again. `beforeFirst` and
`beforeLast` cut once, at the first or at the last separator, and say with `none` that there is none.
-/

namespace ConfigTokens.Text

/-- The pieces between separators; there is one more piece than separators. -/
def fields
    (separator : Char) :
    List Char → List (List Char)
  | [] => [[]]
  | c :: rest =>
    if c = separator then [] :: fields separator rest
    else
      match fields separator rest with
      | [] => [[c]]
      | first :: others => (c :: first) :: others

/-- The pieces with one separator between neighbours. -/
def unite
    (separator : Char)
    (pieces : List (List Char)) : List Char :=
  [separator].intercalate pieces

@[simp]
theorem fields_nil
    (separator : Char) :
    fields separator [] = [[]] := rfl

@[simp]
theorem fields_cons_self
    (separator : Char)
    (rest : List Char) :
    fields separator (separator :: rest) = [] :: fields separator rest := by
  simp [fields]

theorem fields_ne_nil
    (separator : Char)
    (text : List Char) :
    fields separator text ≠ [] := by
  cases text with
  | nil => simp
  | cons c rest =>
    simp only [fields]
    split
    · simp
    · split <;> simp

/-- Nothing is lost by cutting. -/
theorem unite_fields
    (separator : Char)
    (text : List Char) :
    unite separator (fields separator text) = text := by
  induction text with
  | nil => simp [unite, List.intercalate]
  | cons c rest ih =>
    unfold fields
    split
    case isTrue same =>
      subst same
      cases pieces : fields c rest with
      | nil => exact absurd pieces (fields_ne_nil c rest)
      | cons first others =>
        rw [pieces] at ih
        simp [unite, List.intercalate] at ih ⊢
        exact ih
    case isFalse other =>
      cases pieces : fields separator rest with
      | nil => exact absurd pieces (fields_ne_nil separator rest)
      | cons first others =>
        rw [pieces] at ih
        cases others with
        | nil =>
          simp [unite, List.intercalate] at ih ⊢
          exact ih
        | cons second more =>
          simp [unite, List.intercalate] at ih ⊢
          exact ih

/-- No piece holds a separator. -/
theorem not_mem_of_mem_fields
    {separator : Char}
    {text piece : List Char}
    (member : piece ∈ fields separator text) :
    separator ∉ piece := by
  induction text generalizing piece with
  | nil => simp_all
  | cons c rest ih =>
    unfold fields at member
    split at member
    · rcases List.mem_cons.1 member with rfl | later
      · simp
      · exact ih later
    case isFalse other =>
      cases pieces : fields separator rest with
      | nil => exact absurd pieces (fields_ne_nil separator rest)
      | cons first others =>
        rw [pieces] at member ih
        rcases List.mem_cons.1 member with rfl | later
        · intro inside
          rcases List.mem_cons.1 inside with rfl | inside
          · exact other rfl
          · exact ih (List.mem_cons_self) inside
        · exact ih (List.mem_cons_of_mem _ later)

/-- A text with a separator in it is cut there. -/
theorem fields_append_cons
    (separator : Char)
    (front back : List Char) :
    fields separator (front ++ separator :: back) =
      fields separator front ++ fields separator back := by
  induction front with
  | nil => simp
  | cons c rest ih =>
    by_cases same : c = separator
    · subst same
      simp [ih]
    · cases pieces : fields separator rest with
      | nil => exact absurd pieces (fields_ne_nil separator rest)
      | cons first others =>
        rw [pieces] at ih
        simp [fields, same, ih, pieces]

/-- A text without a separator is one piece. -/
theorem fields_of_not_mem
    {separator : Char}
    {text : List Char}
    (clean : separator ∉ text) :
    fields separator text = [text] := by
  induction text with
  | nil => rfl
  | cons c rest ih =>
    rw [List.mem_cons, not_or] at clean
    simp [fields, Ne.symm clean.1, ih clean.2]

/-- What stands before and after the first separator. -/
def beforeFirst
    (separator : Char) :
    List Char → Option (List Char × List Char)
  | [] => none
  | c :: rest =>
    if c = separator then some ([], rest)
    else (beforeFirst separator rest).map fun (front, back) => (c :: front, back)

/-- What stands before and after the last separator. -/
def beforeLast
    (separator : Char) :
    List Char → Option (List Char × List Char)
  | [] => none
  | c :: rest =>
    match beforeLast separator rest with
    | some (front, back) => some (c :: front, back)
    | none => if c = separator then some ([], rest) else none

/-- A text with a separator in it is cut there, if none comes before. -/
theorem beforeFirst_append_cons
    {separator : Char}
    {front : List Char}
    (clean : separator ∉ front)
    (back : List Char) :
    beforeFirst separator (front ++ separator :: back) = some (front, back) := by
  induction front with
  | nil => exact if_pos rfl
  | cons c rest ih =>
    rw [List.mem_cons, not_or] at clean
    rw [List.cons_append, beforeFirst, if_neg (Ne.symm clean.1), ih clean.2]
    rfl

theorem whole_of_beforeFirst
    {separator : Char}
    {text front back : List Char}
    (cut : beforeFirst separator text = some (front, back)) :
    text = front ++ separator :: back ∧ separator ∉ front := by
  induction text generalizing front with
  | nil => cases cut
  | cons c rest ih =>
    rw [beforeFirst] at cut
    split at cut
    case isTrue same =>
      cases cut
      exact ⟨by rw [same]; rfl, List.not_mem_nil⟩
    case isFalse other =>
      obtain ⟨⟨shorter, _⟩, inner, equal⟩ := Option.map_eq_some_iff.1 cut
      cases equal
      obtain ⟨whole, clean⟩ := ih inner
      exact ⟨by rw [whole]; rfl, List.not_mem_cons_of_ne_of_not_mem (Ne.symm other) clean⟩

/-- The first cut is where the text has its first separator. -/
theorem beforeFirst_eq_some_iff
    {separator : Char}
    {text front back : List Char} :
    beforeFirst separator text = some (front, back) ↔
      text = front ++ separator :: back ∧ separator ∉ front := by
  constructor
  · exact whole_of_beforeFirst
  · rintro ⟨rfl, clean⟩
    exact beforeFirst_append_cons clean back

/-- There is no first cut exactly when there is no separator. -/
theorem beforeFirst_eq_none_iff
    {separator : Char}
    {text : List Char} :
    beforeFirst separator text = none ↔ separator ∉ text := by
  induction text with
  | nil => simp [beforeFirst]
  | cons c rest ih =>
    by_cases same : c = separator
    · simp [beforeFirst, same]
    · simp [beforeFirst, same, ih, Ne.symm same]

/-- There is no cut exactly when there is no separator. -/
theorem beforeLast_eq_none_iff
    {separator : Char}
    {text : List Char} :
    beforeLast separator text = none ↔ separator ∉ text := by
  induction text with
  | nil => simp [beforeLast]
  | cons c rest ih =>
    simp only [beforeLast]
    cases cut : beforeLast separator rest with
    | some pair =>
      have inside : separator ∈ rest :=
        Decidable.byContradiction fun outside => by simp [ih.2 outside] at cut
      simp [inside]
    | none =>
      have outside := ih.1 cut
      by_cases same : c = separator
      · simp [same]
      · simp [same, outside, Ne.symm same]

/-- A text with a separator in it is cut there, if none comes behind. -/
theorem beforeLast_append_cons
    {separator : Char}
    (front : List Char)
    {back : List Char}
    (clean : separator ∉ back) :
    beforeLast separator (front ++ separator :: back) = some (front, back) := by
  induction front with
  | nil =>
    rw [List.nil_append, beforeLast, beforeLast_eq_none_iff.2 clean]
    exact if_pos rfl
  | cons c rest ih => rw [List.cons_append, beforeLast, ih]

theorem whole_of_beforeLast
    {separator : Char}
    {text front back : List Char}
    (cut : beforeLast separator text = some (front, back)) :
    text = front ++ separator :: back ∧ separator ∉ back := by
  induction text generalizing front with
  | nil => cases cut
  | cons c rest ih =>
    rw [beforeLast] at cut
    split at cut
    case h_1 inner =>
      cases cut
      obtain ⟨whole, clean⟩ := ih inner
      exact ⟨by rw [whole]; rfl, clean⟩
    case h_2 none =>
      split at cut
      case isTrue same =>
        cases cut
        exact ⟨by rw [same]; rfl, beforeLast_eq_none_iff.1 none⟩
      case isFalse => cases cut

/-- The last cut is where the text has its last separator. -/
theorem beforeLast_eq_some_iff
    {separator : Char}
    {text front back : List Char} :
    beforeLast separator text = some (front, back) ↔
      text = front ++ separator :: back ∧ separator ∉ back := by
  constructor
  · exact whole_of_beforeLast
  · rintro ⟨rfl, clean⟩
    exact beforeLast_append_cons front clean

end ConfigTokens.Text
