import ConfigTokens.Module.Site
/-!
# Data that is nested too deep

A reader has a limit on the nesting of arrays. A text that opens more of them than that stops it, whether
they are closed again or not, and a file with such a text is no data.
-/

namespace ConfigTokens

namespace Json

/-- More brackets than arrays may be nested stop a reader, whatever follows them. -/
theorem readValue_of_open
    {depth count : Nat}
    (deep : depth < count)
    (limit : DigitLimit)
    (fuel offset : Nat)
    (rest : List Char) :
    readValue limit fuel depth (List.replicate count '[' ++ rest) offset = .error (.tooDeep .array) := by
  induction depth generalizing count fuel offset with
  | zero =>
      obtain ⟨more, rfl⟩ := Nat.exists_eq_succ_of_ne_zero (Nat.ne_of_gt deep)
      cases fuel with
      | zero => rw [readValue]
      | succ fuel => rw [List.replicate_succ, List.cons_append, readValue]
  | succ depth inner =>
      cases fuel with
      | zero => rw [readValue]
      | succ fuel =>
          obtain ⟨more, rfl⟩ : ∃ more, count = more + 2 := ⟨count - 2, by omega⟩
          -- The next character opens an array too, so there are items to read.
          have items :
              readItems limit fuel depth ('[' :: (List.replicate more '[' ++ rest)) (offset + 1) =
                .error (.tooDeep .array) := by
            cases fuel with
            | zero => rw [readItems]
            | succ fuel =>
                rw [readItems]
                have first := @inner (more + 1) (by omega) fuel (offset + 1)
                rw [List.replicate_succ, List.cons_append] at first
                rw [first]
          have start :
              skipSpace ('[' :: (List.replicate more '[' ++ rest)) (offset + 1) =
                ('[' :: (List.replicate more '[' ++ rest), offset + 1) :=
            rfl
          rw [List.replicate_succ, List.replicate_succ, List.cons_append, List.cons_append, readValue]
          simp [start, items]

/-- A text that opens more arrays than the limit is nested too deep. -/
theorem read_of_open
    {count : Nat}
    (deep : nestingLimit < count)
    (rest : List Char) :
    read (String.ofList (List.replicate count '[' ++ rest)) = .error (.tooDeep .array) := by
  obtain ⟨more, rfl⟩ := Nat.exists_eq_add_of_lt deep
  have stopped :
      readChars digitLimit nestingLimit (List.replicate (nestingLimit + more + 1) '[' ++ rest) =
        .error (.tooDeep .array) := by
    have value := readValue_of_open deep digitLimit
      (2 * (List.replicate (nestingLimit + more + 1) '[' ++ rest).length + 2) 0 rest
    rw [List.replicate_succ, List.cons_append] at value ⊢
    unfold readChars
    have start : skipSpace ('[' :: (List.replicate (nestingLimit + more) '[' ++ rest)) 0 =
        ('[' :: (List.replicate (nestingLimit + more) '[' ++ rest), 0) :=
      rfl
    rw [if_neg (by simp), start]
    dsimp only
    rw [value]
  unfold read readWithin
  rw [String.toList_ofList, stopped]
  rfl

end Json

namespace Codec

/-- Bytes below 128 stand for one character each. -/
theorem decodeUtf8_of_ascii
    {bytes : List UInt8}
    (ascii : ∀ byte ∈ bytes, byte < 0x80) :
    decodeUtf8 bytes = bytes.map fun byte => .char (Char.ofNat byte.toNat) := by
  have pieces (offset : Nat) :
      utf8Pieces bytes.length offset bytes =
        bytes.map fun byte => .char (Char.ofNat byte.toNat) := by
    induction bytes generalizing offset with
    | nil => rfl
    | cons first rest later =>
        rw [List.forall_mem_cons] at ascii
        have head : Text.utf8Head first rest = .char (Char.ofNat first.toNat) 1 :=
          if_pos ascii.1
        rw [List.length_cons, utf8Pieces, head]
        exact congrArg _ (later ascii.2 (offset + 1))
  exact pieces 0

theorem ofNormalised?_utf8 :
    Encoding.ofNormalised? "utf_8" = some .utf8 := by
  have others :
      ((Encoding.known.take 79).map (·.2)).all (!·.contains "utf_8") = true := by
    decide +kernel
  have absent :
      (Encoding.known.take 79).find? (fun entry => entry.2.contains "utf_8") = none := by
    rw [List.find?_eq_none]
    intro entry member
    simpa using List.all_eq_true.mp others _ (List.mem_map_of_mem member)
  unfold Encoding.ofNormalised?
  rw [← List.take_append_drop 79 Encoding.known, List.find?_append, absent]
  rfl

theorem lookup_utf8 :
    Encoding.lookup "utf-8" = .ok .utf8 := by
  have plain : Encoding.normalise "utf-8" = "utf_8" := by decide +kernel
  unfold Encoding.lookup
  dsimp only
  rw [plain, ofNormalised?_utf8, Option.some_or]

/-- Bytes below 128 are their own text. -/
theorem decode_of_ascii
    {bytes : List UInt8}
    (ascii : ∀ byte ∈ bytes, byte < 0x80) :
    decode "utf-8" "strict" bytes =
      .ok (String.ofList (bytes.map fun byte => Char.ofNat byte.toNat)) := by
  have chars (policy : Policy) :
      policy.apply (bytes.map fun byte => .char (Char.ofNat byte.toNat)) =
        .ok (bytes.map fun byte => Char.ofNat byte.toNat) := by
    induction bytes with
    | nil => rfl
    | cons first rest later =>
        rw [List.forall_mem_cons] at ascii
        rw [List.map_cons, Policy.apply, later ascii.2]
        rfl
  unfold decode
  rw [if_neg (by decide)]
  split
  case isTrue empty =>
      rw [List.isEmpty_iff.mp empty]
      rfl
  case isFalse =>
      rw [lookup_utf8]
      dsimp only
      simp only [Encoding.pieces, textOf, decodeUtf8_of_ascii ascii, chars]
      rfl

end Codec

/-- A text without carriage returns keeps its line ends. -/
theorem Text.unifyLineEnds_of_not_mem
    {text : List Char}
    (plain : '\r' ∉ text) :
    unifyLineEnds text = text := by
  induction text with
  | nil => rfl
  | cons c rest later =>
      rw [List.mem_cons, not_or] at plain
      unfold unifyLineEnds
      split
      case h_1 same => cases same
      case h_2 same => exact absurd (List.cons.inj same).1.symm plain.1
      case h_3 same => exact absurd (List.cons.inj same).1.symm plain.1
      case h_4 first others _ _ same =>
          obtain ⟨rfl, rfl⟩ := List.cons.inj same
          rw [later plain.2]

namespace Module

/-- Arrays in each other, as bytes. -/
def nestedArrays
    (count : Nat) : List UInt8 :=
  List.replicate count 0x5B ++ List.replicate count 0x5D

/-- A file with arrays that are nested deeper than the limit cannot be read as data. -/
theorem Site.document_of_nestedArrays
    {site : Site}
    {file : String}
    {count : Nat}
    (deep : Json.nestingLimit < count)
    (content : site.tree.read site.cwd file = .ok (.bytes (nestedArrays count))) :
    site.document file = .error (.document (.tooDeep .array)) := by
  have ascii : ∀ byte ∈ nestedArrays count, byte < 0x80 := by
    intro byte member
    simp only [nestedArrays, List.mem_append, List.mem_replicate] at member
    rcases member with ⟨-, rfl⟩ | ⟨-, rfl⟩ <;> decide
  have chars :
      (nestedArrays count).map (fun byte => Char.ofNat byte.toNat) =
        List.replicate count '[' ++ List.replicate count ']' := by
    rw [nestedArrays, List.map_append, List.map_replicate, List.map_replicate]
    rfl
  have plain : '\r' ∉ List.replicate count '[' ++ List.replicate count ']' := by
    simp [List.mem_replicate]
  unfold document
  rw [content]
  dsimp only
  rw [Codec.decode_of_ascii ascii, chars]
  dsimp only
  rw [String.toList_ofList, Text.unifyLineEnds_of_not_mem plain, Json.read_of_open deep]
  rfl

end Module

end ConfigTokens
