import Mathlib.Data.List.ModifyLast
import ConfigTokens.Base64.Padded
import ConfigTokens.Proofs.Base64.Spelling
/-!
# The bytes of any text

What a text is decoded to is told by the characters that count, whatever stands between them: their six-bit
values, one after the other, are cut into bytes, and bits that fill no byte at the end are left out. So no
text is refused. A reader of padded text, which does refuse some, takes every text that has been brought into
its form and gives the same bytes.

Encoded again, the bytes give the characters that count, without the bits that were left out.
-/

namespace ConfigTokens.Base64

/-! ## Characters that count -/

/-- What holds of the first 128 characters holds of both alphabets. -/
theorem of_inAlphabet
    (holds : Char → Prop)
    (each : ∀ code < 128, holds (Char.ofNat code))
    {c : Char}
    (known : InAlphabet c) :
    holds c := by
  have below {d : Char} (less : c ≤ d) (ascii : d.toNat < 128) : c.toNat < 128 :=
    Nat.lt_of_le_of_lt less ascii
  have signs : ∀ d ∈ ['+', '/', '-', '_'], d.toNat < 128 := by
    intro d member
    simp only [List.mem_cons, List.not_mem_nil, or_false] at member
    rcases member with rfl | rfl | rfl | rfl
    all_goals decide
  have ascii : c.toNat < 128 := by
    rcases known with ⟨-, upper⟩ | ⟨-, lower⟩ | ⟨-, digit⟩ | sign
    · exact below upper (by decide)
    · exact below lower (by decide)
    · exact below digit (by decide)
    · exact signs c sign
  rw [← Char.ofNat_toNat c]
  exact each c.toNat ascii

theorem clean_singleton_of_not_inAlphabet
    {c : Char}
    (other : ¬InAlphabet c) :
    clean [c] = [] := by
  simp only [InAlphabet, List.mem_cons, List.not_mem_nil, or_false, not_or] at other
  obtain ⟨upper, lower, digit, plus, slash, minus, underscore⟩ := other
  simp [clean, standard, isStandard, upper, lower, digit, plus, slash, minus, underscore]

/-- A character counts if it has six bits, and what is left of it is the character for them. -/
theorem clean_singleton
    (c : Char) :
    clean [c] = (sextets [c]).map sextetChar := by
  by_cases known : InAlphabet c
  · exact of_inAlphabet (fun c => clean [c] = (sextets [c]).map sextetChar) (by decide) known
  · have none : sextets [c] = [] := List.filterMap_cons_none (sextet?_eq_none known)
    rw [clean_singleton_of_not_inAlphabet known, none, List.map_nil]

/-- The characters that count are those for the values that a text carries. -/
theorem clean_eq
    (text : List Char) :
    clean text = (sextets text).map sextetChar := by
  induction text with
  | nil => rfl
  | cons c rest ih =>
      have cleaned : clean (c :: rest) = clean [c] ++ clean rest := by
        simp only [clean, List.map_cons, List.map_nil, ← List.filter_append, List.singleton_append]
      have carried : sextets (c :: rest) = sextets [c] ++ sextets rest := by
        simp only [sextets, ← List.filterMap_append, List.singleton_append]
      rw [cleaned, carried, clean_singleton, ih, List.map_append]

theorem lt_of_mem_sextets
    {text : List Char}
    {value : Nat}
    (member : value ∈ sextets text) :
    value < 64 := by
  obtain ⟨c, -, known⟩ := List.mem_filterMap.mp member
  have alphabet : InAlphabet c := by
    refine Decidable.byContradiction fun other => ?_
    rw [sextet?_eq_none other] at known
    cases known
  exact of_inAlphabet (fun c => ∀ value ∈ sextet? c, value < 64) (by decide) alphabet value known

theorem sextets_clean
    (text : List Char) :
    sextets (clean text) = sextets text := by
  rw [clean_eq]
  exact sextets_map_sextetChar fun _ => lt_of_mem_sextets

theorem length_clean
    (text : List Char) :
    (clean text).length = (sextets text).length := by
  rw [clean_eq, List.length_map]

/-! ## Bits of packed values -/

@[simp]
theorem length_bits
    (width value : Nat) :
    (bits width value).length = width := by
  induction width with
  | zero => rfl
  | succ width ih => rw [bits, List.length_cons, ih]

theorem length_flatMap_bits {α : Type}
    (width : Nat)
    (number : α → Nat)
    (elements : List α) :
    (elements.flatMap fun element => bits width (number element)).length = width * elements.length := by
  induction elements with
  | nil => rfl
  | cons element rest ih =>
      rw [List.flatMap_cons, List.length_append, ih, length_bits, List.length_cons, Nat.mul_succ,
        Nat.add_comm]

/-- Values that are no group of four, and no group of three or two, are one or none. -/
theorem eq_nil_or_singleton
    {values : List Nat}
    (notFour : ∀ a b c d rest, values = a :: b :: c :: d :: rest → False)
    (notThree : ∀ a b c, values = [a, b, c] → False)
    (notTwo : ∀ a b, values = [a, b] → False) :
    values = [] ∨ ∃ a, values = [a] := by
  match values with
  | [] => exact .inl rfl
  | [a] => exact .inr ⟨a, rfl⟩
  | [a, b] => exact (notTwo a b rfl).elim
  | [a, b, c] => exact (notThree a b c rfl).elim
  | a :: b :: c :: d :: rest => exact (notFour a b c d rest rfl).elim

/-- The bytes of values hold the bits of the values in order, less than eight at the end left out. -/
theorem exists_spare_bits
    {values : List Nat}
    (small : ∀ value ∈ values, value < 64) :
    ∃ spare : List Bool, spare.length < 8 ∧
      values.flatMap (bits 6) =
        (pack values).flatMap (fun byte => bits 8 byte.toNat) ++ spare := by
  -- Each byte is made of two values, and each value but the first of a group is cut where a byte ends.
  have byte (value : Nat) : bits 8 (UInt8.ofNat value).toNat = bits 8 value := by
    rw [UInt8.toNat_ofNat']
    exact bits_mod 8 value
  have second (b : Nat) : bits 6 b = bits 2 (b / 16) ++ bits 4 b :=
    bits_cut 2 4 rfl rfl
  have third (c : Nat) : bits 6 c = bits 4 (c / 4) ++ bits 2 c :=
    bits_cut 4 2 rfl rfl
  have firstSecond (a b : Nat) (small : b < 64) :
      bits 8 (a * 4 + b / 16) = bits 6 a ++ bits 2 (b / 16) :=
    bits_join 6 2 a (show b / 16 < 4 by omega)
  have secondThird (b c : Nat) (small : c < 64) :
      bits 8 (b % 16 * 16 + c / 4) = bits 4 b ++ bits 4 (c / 4) :=
    bits_join_mod 4 4 b (show c / 4 < 16 by omega)
  have thirdFourth (c d : Nat) (small : d < 64) :
      bits 8 (c % 4 * 64 + d) = bits 2 c ++ bits 6 d :=
    bits_join_mod 2 6 c small
  fun_induction pack values with
  | case1 a b c d rest ih =>
      simp only [List.forall_mem_cons] at small
      obtain ⟨-, smallB, smallC, smallD, others⟩ := small
      obtain ⟨spare, few, same⟩ := ih others
      refine ⟨spare, few, ?_⟩
      simp only [List.flatMap_cons, same, byte, firstSecond a b smallB, secondThird b c smallC,
        thirdFourth c d smallD, second b, third c, List.append_assoc]
  | case2 a b c =>
      simp only [List.forall_mem_cons] at small
      obtain ⟨-, smallB, smallC, -⟩ := small
      refine ⟨bits 2 c, by simp, ?_⟩
      simp only [List.flatMap_cons, List.flatMap_nil, byte, firstSecond a b smallB,
        secondThird b c smallC, second b, third c, List.append_assoc, List.append_nil]
  | case3 a b =>
      simp only [List.forall_mem_cons] at small
      obtain ⟨-, smallB, -⟩ := small
      refine ⟨bits 4 b, by simp, ?_⟩
      simp only [List.flatMap_cons, List.flatMap_nil, byte, firstSecond a b smallB, second b,
        List.append_assoc, List.append_nil]
  | case4 values notFour notThree notTwo =>
      rcases eq_nil_or_singleton notFour notThree notTwo with rfl | ⟨a, rfl⟩
      · exact ⟨[], by simp, rfl⟩
      · exact ⟨bits 6 a, by simp, by simp⟩

/-! ## Encoding what has been decoded -/

theorem whole_group {α : Type}
    (a b c d : α)
    (rest : List α) :
    whole (a :: b :: c :: d :: rest) = [a, b, c, d] ++ whole rest := by
  have period : (a :: b :: c :: d :: rest).length % 4 = rest.length % 4 := by
    simp only [List.length_cons]
    omega
  unfold whole
  rw [period]
  split
  case isTrue alone =>
      have some : rest ≠ [] := by
        rintro rfl
        cases alone
      simp [List.dropLast_cons_of_ne_nil, some]
  case isFalse => rfl

theorem length_whole_mod {α : Type}
    (elements : List α) :
    (whole elements).length % 4 ≠ 1 := by
  unfold whole
  split
  case isTrue alone =>
      rw [List.length_dropLast]
      omega
  case isFalse other => exact other

theorem mem_of_mem_whole {α : Type}
    {elements : List α}
    {element : α}
    (member : element ∈ whole elements) :
    element ∈ elements := by
  unfold whole at member
  split at member
  · exact List.dropLast_subset elements member
  · exact member

theorem whole_map {α β : Type}
    (action : α → β)
    (elements : List α) :
    whole (elements.map action) = (whole elements).map action := by
  unfold whole
  rw [List.length_map]
  split
  · exact List.map_dropLast.symm
  · rfl

/-- A value without its low bits. -/
def clearLow
    (count value : Nat) : Nat :=
  (value >>> count) <<< count

/-- Values that can be grouped, the last one without the bits that fill no byte. -/
def settle
    (values : List Nat) : List Nat :=
  (whole values).modifyLast (clearLow (6 * (whole values).length % 8))

theorem settle_group
    (a b c d : Nat)
    (rest : List Nat) :
    settle (a :: b :: c :: d :: rest) = [a, b, c, d] ++ settle rest := by
  have period : 6 * (whole (a :: b :: c :: d :: rest)).length % 8 = 6 * (whole rest).length % 8 := by
    simp only [whole_group, List.length_append, List.length_cons, List.length_nil]
    omega
  unfold settle
  rw [period, whole_group]
  by_cases full : whole rest = []
  · have same : clearLow 0 d = d := by simp [clearLow]
    have last := List.modifyLast_concat (clearLow 0) d [a, b, c]
    rw [full, List.append_nil]
    rw [same] at last
    exact last
  · exact List.modifyLast_append_of_right_ne_nil _ [a, b, c, d] (whole rest) full

/-- Unpacking what has been packed gives back the values, as far as they fill bytes. -/
theorem unpack_pack
    {values : List Nat}
    (small : ∀ value ∈ values, value < 64) :
    unpack (pack values) = settle values := by
  have byte {value : Nat} (small : value < 256) : (UInt8.ofNat value).toNat = value := by
    rw [UInt8.toNat_ofNat']
    exact Nat.mod_eq_of_lt small
  fun_induction pack values with
  | case1 a b c d rest ih =>
      simp only [List.forall_mem_cons] at small
      obtain ⟨smallA, smallB, smallC, smallD, others⟩ := small
      have first : a * 4 + b / 16 < 256 := by omega
      have second : b % 16 * 16 + c / 4 < 256 := by omega
      have third : c % 4 * 64 + d < 256 := by omega
      rw [unpack, ih others, settle_group, byte first, byte second, byte third]
      simp only [List.cons_append, List.nil_append, List.cons.injEq, and_true]
      omega
  | case2 a b c =>
      simp only [List.forall_mem_cons] at small
      obtain ⟨smallA, smallB, smallC, -⟩ := small
      have first : a * 4 + b / 16 < 256 := by omega
      have second : b % 16 * 16 + c / 4 < 256 := by omega
      have kept : whole [a, b, c] = [a, b] ++ [c] := rfl
      have settled : settle [a, b, c] = [a, b, clearLow 2 c] := by
        rw [settle, kept, List.modifyLast_concat]
        simp
      rw [unpack, settled, clearLow, byte first, byte second]
      simp only [List.cons.injEq, and_true]
      omega
  | case3 a b =>
      simp only [List.forall_mem_cons] at small
      obtain ⟨smallA, smallB, -⟩ := small
      have first : a * 4 + b / 16 < 256 := by omega
      have kept : whole [a, b] = [a] ++ [b] := rfl
      have settled : settle [a, b] = [a, clearLow 4 b] := by
        rw [settle, kept, List.modifyLast_concat]
        simp
      rw [unpack, settled, clearLow, byte first]
      simp only [List.cons.injEq, and_true]
      omega
  | case4 values notFour notThree notTwo =>
      rcases eq_nil_or_singleton notFour notThree notTwo with rfl | ⟨a, rfl⟩
      · rfl
      · rfl

theorem map_modifyLast {α β : Type}
    {action : α → β}
    {change : α → α}
    {changed : β → β}
    {elements : List α}
    (same : ∀ element ∈ elements, action (change element) = changed (action element)) :
    (elements.modifyLast change).map action = (elements.map action).modifyLast changed := by
  rcases List.eq_nil_or_concat elements with rfl | ⟨front, last, rfl⟩
  · rfl
  · rw [List.concat_eq_append, List.modifyLast_concat, List.map_append, List.map_append,
      List.map_singleton, List.map_singleton, List.modifyLast_concat,
      same last (by simp)]

/-- A character without its low bits; a character without bits stays. -/
def clearLowBits
    (count : Nat)
    (c : Char) : Char :=
  (sextet? c).elim c fun value => sextetChar (clearLow count value)

/-- What a text is written as, once it has been decoded. -/
theorem encode_decode
    (text : String) :
    (encode (decode text)).toList =
      (whole (clean text.toList)).modifyLast
        (clearLowBits (6 * (whole (clean text.toList)).length % 8)) := by
  have small : ∀ value ∈ sextets text.toList, value < 64 := fun _ => lt_of_mem_sextets
  have cleared (count : Nat) :
      ∀ value ∈ whole (sextets text.toList),
        sextetChar (clearLow count value) = clearLowBits count (sextetChar value) := by
    intro value member
    have known := sextet?_sextetChar value (small value (mem_of_mem_whole member))
    rw [clearLowBits, known, Option.elim_some]
  rw [encode, String.toList_ofList, decode, unpack_pack small, settle, map_modifyLast (cleared _),
    clean_eq, whole_map, List.length_map]

/-! ## Padded text -/

theorem standardSextet?_sextetChar :
    ∀ value < 64,
      standardSextet? (sextetChar value) = some value ∧ sextetChar value ≠ '=' ∧
        (sextetChar value).toNat < 128 := by
  decide

/-- How the reader goes on with a character that counts. -/
theorem readGroups_sextetChar
    {value : Nat}
    (small : value < 64)
    (phase : Phase)
    (rest : List Char) :
    readGroups phase (sextetChar value :: rest) =
      match phase with
      | .start => readGroups (.one value) rest
      | .one left =>
        (UInt8.ofNat (left * 4 + value / 16) :: ·) <$> readGroups (.two (value % 16) false) rest
      | .two left _ =>
        (UInt8.ofNat (left * 16 + value / 4) :: ·) <$> readGroups (.three (value % 4)) rest
      | .three left => (UInt8.ofNat (left * 64 + value) :: ·) <$> readGroups .start rest := by
  obtain ⟨known, other, -⟩ := standardSextet?_sextetChar value small
  rw [readGroups.eq_def]
  dsimp only
  rw [if_neg other, known]
  cases phase <;> rfl

/-- Characters for values, filled up, are read without a fault, unless one is alone in its group. -/
theorem readGroups_filled
    {values : List Nat}
    (small : ∀ value ∈ values, value < 64)
    (grouped : values.length % 4 ≠ 1) :
    readGroups .start
        (values.map sextetChar ++ List.replicate ((4 - values.length % 4) % 4) '=') =
      .ok (pack values) := by
  fun_induction pack values with
  | case1 a b c d rest ih =>
      simp only [List.forall_mem_cons] at small
      obtain ⟨smallA, smallB, smallC, smallD, others⟩ := small
      have period : (a :: b :: c :: d :: rest).length % 4 = rest.length % 4 := by
        simp only [List.length_cons]
        omega
      rw [period] at grouped ⊢
      simp only [List.map_cons, List.cons_append, readGroups_sextetChar smallA,
        readGroups_sextetChar smallB, readGroups_sextetChar smallC, readGroups_sextetChar smallD,
        ih others grouped]
      rfl
  | case2 a b c =>
      simp only [List.forall_mem_cons] at small
      obtain ⟨smallA, smallB, smallC, -⟩ := small
      simp only [List.map_cons, List.cons_append, readGroups_sextetChar smallA,
        readGroups_sextetChar smallB, readGroups_sextetChar smallC]
      rfl
  | case3 a b =>
      simp only [List.forall_mem_cons] at small
      obtain ⟨smallA, smallB, -⟩ := small
      simp only [List.map_cons, List.cons_append, readGroups_sextetChar smallA,
        readGroups_sextetChar smallB]
      rfl
  | case4 values notFour notThree notTwo =>
      rcases eq_nil_or_singleton notFour notThree notTwo with rfl | ⟨a, rfl⟩
      · rfl
      · exact absurd rfl grouped

/-- A last value that is alone in its group fills no byte. -/
theorem pack_whole
    (values : List Nat) :
    pack (whole values) = pack values := by
  fun_induction pack values with
  | case1 a b c d rest ih =>
      rw [whole_group]
      simp only [List.cons_append, List.nil_append, pack, ih]
  | case2 a b c => rfl
  | case3 a b => rfl
  | case4 values notFour notThree notTwo =>
      rcases eq_nil_or_singleton notFour notThree notTwo with rfl | ⟨a, rfl⟩
      · rfl
      · rfl

/-- Brought into its form, any text is taken by the reader of padded text. -/
theorem decodePadded_padded
    (text : String) :
    decodePadded (padded text.toList) = .ok (decode text) := by
  have small : ∀ value ∈ whole (sextets text.toList), value < 64 := fun _ member =>
    lt_of_mem_sextets (mem_of_mem_whole member)
  have filled :
      padded text.toList =
        (whole (sextets text.toList)).map sextetChar ++
          List.replicate ((4 - (whole (sextets text.toList)).length % 4) % 4) '=' := by
    unfold padded
    dsimp only
    rw [clean_eq, whole_map, List.length_map]
  have ascii : (padded text.toList).all (·.toNat < 128) = true := by
    rw [filled, List.all_eq_true]
    intro c member
    rcases List.mem_append.mp member with inside | padding
    · obtain ⟨value, among, rfl⟩ := List.mem_map.mp inside
      exact decide_eq_true (standardSextet?_sextetChar value (small value among)).2.2
    · rw [List.eq_of_mem_replicate padding]
      rfl
  unfold decodePadded
  rw [if_pos ascii, filled, readGroups_filled small (length_whole_mod _), pack_whole]
  rfl

/-! ## Decoding -/

/--
For any text, of whose characters those of the two alphabets count:

* Six bits for each character that counts are cut into bytes, as many as are full.
* The bits of the bytes, the highest first, are the first of the bits of the characters in order.
* A last character that is alone in its group of four adds nothing.
* The characters that count, without such a last one and filled up to whole groups, are a text that a reader
  of padded text takes, and it gives the same bytes.
* The bytes are encoded as the characters that count, without such a last one, and with the bits of the last
  of them cleared that fill no byte.
-/
theorem decode_leading_bytes
    (text : String) :
    (decode text).length = 6 * (clean text.toList).length / 8 ∧
      (decode text).flatMap (fun byte => bits 8 byte.toNat) <+:
        (sextets (clean text.toList)).flatMap (bits 6) ∧
      decode (String.ofList (whole (clean text.toList))) = decode text ∧
      decodePadded (padded text.toList) = .ok (decode text) ∧
      (encode (decode text)).toList =
        (whole (clean text.toList)).modifyLast
          (clearLowBits (6 * (whole (clean text.toList)).length % 8)) := by
  have small : ∀ value ∈ sextets text.toList, value < 64 := fun _ => lt_of_mem_sextets
  obtain ⟨spare, few, cut⟩ := exists_spare_bits small
  have sizes :
      6 * (sextets text.toList).length = 8 * (pack (sextets text.toList)).length + spare.length := by
    rw [← length_flatMap_bits 6 id, ← length_flatMap_bits 8 UInt8.toNat, ← List.length_append]
    exact congrArg List.length cut
  have wholeKept : decode (String.ofList (whole (clean text.toList))) = decode text := by
    have carried : sextets (whole (clean text.toList)) = whole (sextets text.toList) := by
      rw [clean_eq, whole_map]
      exact sextets_map_sextetChar fun _ member => small _ (mem_of_mem_whole member)
    unfold decode
    rw [String.toList_ofList, carried, pack_whole]
  refine ⟨?_, ?_, wholeKept, decodePadded_padded text, encode_decode text⟩
  · unfold decode
    rw [length_clean]
    omega
  · rw [sextets_clean, cut]
    exact List.prefix_append _ spare

/-- Characters of no alphabet are passed over, and a fifth character fills no byte. -/
example : decode "QU=J\nDE" = [65, 66, 67] := by decide

end ConfigTokens.Base64
