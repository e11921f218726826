/-!
# Association lists

Values by name in the order in which the names came. `put` changes the value of a name that is there in
its place and appends a new one; `erase` takes a name out. `List.lookup` reads: the lemmas say what it
finds after each of the two.
-/

namespace ConfigTokens.Assoc

variable {κ α : Type} [DecidableEq κ]

/-- The list with a value for a name. -/
def put
    (entries : List (κ × α))
    (name : κ)
    (value : α) : List (κ × α) :=
  match entries with
  | [] => [(name, value)]
  | (other, old) :: rest =>
    if other = name then (name, value) :: rest else (other, old) :: put rest name value

/-- The list without a name. -/
def erase
    (entries : List (κ × α))
    (name : κ) : List (κ × α) :=
  entries.filter fun entry => entry.1 ≠ name

/-- The name has a value. -/
def contains
    (entries : List (κ × α))
    (name : κ) : Bool :=
  (entries.lookup name).isSome

/-- The names in order. -/
def keys
    (entries : List (κ × α)) : List κ :=
  entries.map (·.1)

variable [BEq κ] [LawfulBEq κ]

@[simp]
theorem lookup_put_self
    (entries : List (κ × α))
    (name : κ)
    (value : α) :
    (put entries name value).lookup name = some value := by
  induction entries with
  | nil => simp [put]
  | cons entry rest ih =>
    obtain ⟨other, old⟩ := entry
    by_cases same : other = name
    · simp [put, same]
    · have apart : (name == other) = false := beq_false_of_ne (Ne.symm same)
      simp [put, same, List.lookup_cons, apart, ih]

theorem lookup_put_of_ne
    {entries : List (κ × α)}
    {name other : κ}
    {value : α}
    (different : other ≠ name) :
    (put entries name value).lookup other = entries.lookup other := by
  have apart : (other == name) = false := beq_false_of_ne different
  induction entries with
  | nil => simp [put, List.lookup_cons, apart]
  | cons entry rest ih =>
    obtain ⟨first, old⟩ := entry
    by_cases same : first = name
    · subst same
      simp [put, List.lookup_cons, apart]
    · simp [put, same, List.lookup_cons, ih]

@[simp]
theorem lookup_erase_self
    (entries : List (κ × α))
    (name : κ) :
    (erase entries name).lookup name = none := by
  simp only [erase, List.lookup_eq_none_iff, List.mem_filter]
  rintro entry ⟨-, other⟩
  simpa using Ne.symm (of_decide_eq_true other)

theorem lookup_erase_of_ne
    {entries : List (κ × α)}
    {name other : κ}
    (different : other ≠ name) :
    (erase entries name).lookup other = entries.lookup other := by
  have apart : (other == name) = false := beq_false_of_ne different
  induction entries with
  | nil => rfl
  | cons entry rest ih =>
    obtain ⟨first, old⟩ := entry
    simp only [erase, ne_eq, decide_not] at ih
    by_cases same : first = name
    · subst same
      simp [erase, List.lookup_cons, apart, ih]
    · simp [erase, same, List.lookup_cons, ih]

end ConfigTokens.Assoc
