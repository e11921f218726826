import ConfigTokens.Module.Import
/-!
# Names of modules and their parts

A dotted name has parts without dots, and parts without dots make a name that is cut into them again.
The name that is made for a file is a single part.
-/

namespace ConfigTokens

/-! ## Characters -/

theorem Text.hexDigit_ne_dot
    {value : Nat}
    (small : value < 16) :
    hexDigit value ≠ '.' := by
  have all : ∀ digit : Fin 16, hexDigit digit ≠ '.' := by decide
  exact all ⟨value, small⟩

theorem Text.dot_not_mem_hexDigits
    (width value : Nat) :
    '.' ∉ hexDigits width value := by
  intro member
  obtain ⟨digit, small, same⟩ := exists_of_mem_hexDigits member
  exact hexDigit_ne_dot small same.symm

theorem Digest.Sha1.dot_not_mem_hexDigest
    (message : List UInt8) :
    '.' ∉ hexDigest message := by
  intro member
  obtain ⟨word, -, digit⟩ := List.mem_flatMap.mp member
  exact Text.dot_not_mem_hexDigits _ _ digit

namespace Module

/-! ## Parts -/

/-- A text without a dot. -/
def IsPart
    (text : String) : Prop :=
  '.' ∉ text.toList

/-- The parts of a name, the last one first. -/
def nameParts
    (name : String) : List String :=
  ((Text.fields '.' name.toList).map String.ofList).reverse

theorem nameParts_ne_nil
    (name : String) :
    nameParts name ≠ [] := by
  have some : Text.fields '.' name.toList ≠ [] := Text.fields_ne_nil _ _
  simpa [nameParts] using some

theorem not_isPart_below
    (above sub : String) :
    ¬IsPart (above ++ "." ++ sub) := by
  simp [IsPart]

theorem below_ne_empty
    (above sub : String) :
    above ++ "." ++ sub ≠ "" := by
  intro empty
  have dotted := not_isPart_below above sub
  rw [empty] at dotted
  exact dotted List.not_mem_nil

theorem isPart_of_mem_nameParts
    {name part : String}
    (member : part ∈ nameParts name) :
    IsPart part := by
  simp only [nameParts, List.mem_reverse, List.mem_map] at member
  obtain ⟨piece, inside, rfl⟩ := member
  simpa [IsPart] using Text.not_mem_of_mem_fields inside

@[simp]
theorem nameOfParts_nil :
    nameOfParts [] = "" := by
  simp [nameOfParts]

@[simp]
theorem nameOfParts_singleton
    (part : String) :
    nameOfParts [part] = part := by
  simp [nameOfParts]

theorem nameOfParts_cons
    {above : List String}
    (nonempty : above ≠ [])
    (last : String) :
    nameOfParts (last :: above) = nameOfParts above ++ "." ++ last := by
  unfold nameOfParts
  rw [List.reverse_cons, String.intercalate_append_of_ne_nil (by simpa using nonempty) (by simp),
    String.intercalate_singleton]

/-- The parts of two names make the name of the one below the other. -/
theorem nameOfParts_append
    {below above : List String}
    (some : below ≠ [])
    (more : above ≠ []) :
    nameOfParts (below ++ above) = nameOfParts above ++ "." ++ nameOfParts below := by
  unfold nameOfParts
  rw [List.reverse_append, String.intercalate_append_of_ne_nil (by simpa using more) (by simpa using some)]

/-- A name that is spelled in another way can be continued in that way. -/
theorem nameOfParts_cons_of_spelled
    {above names : List String}
    (inner : nameOfParts above ≠ "")
    (spelled : nameOfParts above = ".".intercalate names)
    (last : String) :
    nameOfParts (last :: above) = ".".intercalate (names ++ [last]) := by
  have more : above ≠ [] := by
    rintro rfl
    exact inner nameOfParts_nil
  have some : names ≠ [] := by
    rintro rfl
    exact inner (spelled.trans String.intercalate_nil)
  rw [nameOfParts_cons more, spelled, String.intercalate_append_of_ne_nil some (by simp),
    String.intercalate_singleton]

/-- A name below another one has the parts of both. -/
theorem nameParts_below
    (above below : String) :
    nameParts (above ++ "." ++ below) = nameParts below ++ nameParts above := by
  have text : (above ++ "." ++ below).toList = above.toList ++ '.' :: below.toList := by simp
  simp [nameParts, text, Text.fields_append_cons]

theorem nameParts_of_isPart
    {part : String}
    (single : IsPart part) :
    nameParts part = [part] := by
  simp [nameParts, Text.fields_of_not_mem single]

/-- Parts make a name that is cut into them again. -/
theorem nameParts_nameOfParts
    {parts : List String}
    (nonempty : parts ≠ [])
    (single : ∀ part ∈ parts, IsPart part) :
    nameParts (nameOfParts parts) = parts := by
  induction parts with
  | nil => exact absurd rfl nonempty
  | cons last above ih =>
      have alone : IsPart last := single last List.mem_cons_self
      rcases List.eq_nil_or_concat above with rfl | ⟨more, first, rfl⟩
      · rw [nameOfParts_singleton, nameParts_of_isPart alone]
      · have some : more.concat first ≠ [] := by simp
        have rest := ih some fun part member => single part (List.mem_cons_of_mem _ member)
        rw [nameOfParts_cons some, nameParts_below, rest, nameParts_of_isPart alone]
        rfl

/-- The parts of a name make it again. -/
theorem nameOfParts_nameParts
    (name : String) :
    nameOfParts (nameParts name) = name := by
  apply String.toList_injective
  rw [nameOfParts, nameParts, List.reverse_reverse, String.toList_intercalate, List.map_map]
  have same : String.toList ∘ String.ofList = id := by
    funext text
    exact String.toList_ofList
  rw [same, List.map_id]
  exact Text.unite_fields '.' name.toList

/-- The name of parts is empty only for no part, and for one empty part. -/
theorem eq_of_nameOfParts_eq_empty
    {parts : List String}
    (empty : nameOfParts parts = "") :
    parts = [] ∨ parts = [""] := by
  cases parts with
  | nil => exact .inl rfl
  | cons last above =>
      cases above with
      | nil => exact .inr (by simpa using empty)
      | cons next rest =>
          rw [nameOfParts_cons (List.cons_ne_nil next rest)] at empty
          exact absurd empty (below_ne_empty _ last)

/-! ## Synthesized names -/

/-- The name that is made for a file is a single part. -/
theorem isPart_synthesizedName
    (file : String) :
    IsPart (synthesizedName file) := by
  have safe (text : List Char) :
      '.' ∉ text.map fun c => if Text.isWordChar c then c else '_' := by
    intro member
    obtain ⟨c, -, same⟩ := List.mem_map.mp member
    split at same
    case isTrue word =>
        subst same
        exact absurd word (by decide)
    case isFalse => cases same
  have digest (message : List UInt8) : '.' ∉ (Digest.Sha1.hexDigest message).take 12 := fun member =>
    Digest.Sha1.dot_not_mem_hexDigest message (List.mem_of_mem_take member)
  unfold IsPart synthesizedName
  simp only [String.toList_append, String.toList_ofList, List.mem_append, not_or]
  exact ⟨⟨⟨by decide, safe _⟩, by decide⟩, digest _⟩

/-- A name with a dot is made for no file. -/
theorem ne_synthesizedName_of_dotted
    {name : String}
    (dotted : ¬IsPart name)
    (file : String) :
    name ≠ synthesizedName file := by
  rintro rfl
  exact dotted (isPart_synthesizedName file)

theorem head?_synthesizedName
    (file : String) :
    (synthesizedName file).toList.head? = some '_' := by
  simp [synthesizedName]

end Module

end ConfigTokens
