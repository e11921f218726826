import ConfigTokens.Base64
/-!
# Spellings of encoded bytes

Encoded bytes can be spelled in many ways: in either alphabet or in a mixture, with or without padding, and
with any other characters in between. `Spells` says so one character at a time. The main theorem says that
decoding undoes every spelling. It rests on three facts: a spelling keeps the six-bit values, the encoded
text has the values that it was made from, and packing these gives the bytes back.
-/

namespace ConfigTokens.Base64

/-! ## Texts that spell an encoding -/

/-- A character of one of the two alphabets. -/
def InAlphabet
    (c : Char) : Prop :=
  ('A' ≤ c ∧ c ≤ 'Z') ∨ ('a' ≤ c ∧ c ≤ 'z') ∨ ('0' ≤ c ∧ c ≤ '9') ∨ c ∈ ['+', '/', '-', '_']

instance (c : Char) : Decidable (InAlphabet c) :=
  inferInstanceAs (Decidable (_ ∨ _))

/-- A character of the standard alphabet in the alphabet that is safe in addresses. -/
def urlSafe
    (c : Char) : Char :=
  if c = '+' then '-' else if c = '/' then '_' else c

/-- The text of bytes in the standard alphabet, filled up with `=` to whole groups of four. -/
def encodePadded
    (bytes : List UInt8) : List Char :=
  (encode bytes).toList ++ List.replicate ((3 - bytes.length % 3) % 3) '='

/-- A text spells an encoded one: each character in either alphabet, padding taken away at will, and
characters of no alphabet put in anywhere. -/
inductive Spells : List Char → List Char → Prop where
  | nil : Spells [] []
  | same {encoded text : List Char} (c : Char) :
      Spells encoded text → Spells (c :: encoded) (c :: text)
  | safe {encoded text : List Char} (c : Char) :
      Spells encoded text → Spells (c :: encoded) (urlSafe c :: text)
  | unpad {encoded text : List Char} :
      Spells encoded text → Spells ('=' :: encoded) text
  | noise {encoded text : List Char} (c : Char) :
      ¬InAlphabet c → Spells encoded text → Spells encoded (c :: text)

/-! ## Six-bit values of a spelling -/

theorem sextet?_eq_none
    {c : Char}
    (other : ¬InAlphabet c) :
    sextet? c = none := by
  simp only [InAlphabet, List.mem_cons, List.not_mem_nil, or_false, not_or] at other
  obtain ⟨upper, lower, digit, plus, slash, minus, underscore⟩ := other
  simp [sextet?, upper, lower, digit, plus, slash, minus, underscore]

@[simp]
theorem sextet?_urlSafe
    (c : Char) :
    sextet? (urlSafe c) = sextet? c := by
  unfold urlSafe
  split
  case isTrue plus =>
      subst plus
      rfl
  case isFalse =>
      split
      case isTrue slash =>
          subst slash
          rfl
      case isFalse => rfl

/-- A spelling has the six-bit values of what it spells. -/
theorem sextets_of_spells
    {encoded text : List Char}
    (spells : Spells encoded text) :
    sextets text = sextets encoded := by
  unfold sextets
  induction spells with
  | nil => rfl
  | same c _ ih => rw [List.filterMap_cons, List.filterMap_cons, ih]
  | safe c _ ih => rw [List.filterMap_cons, List.filterMap_cons, sextet?_urlSafe, ih]
  | unpad _ ih =>
      rw [ih]
      rfl
  | noise c other _ ih => rw [List.filterMap_cons_none (sextet?_eq_none other), ih]

/-! ## Six-bit values of encoded bytes -/

theorem sextet?_sextetChar :
    ∀ value < 64, sextet? (sextetChar value) = some value := by
  decide

theorem lt_of_mem_unpack
    {bytes : List UInt8}
    {value : Nat}
    (member : value ∈ unpack bytes) :
    value < 64 := by
  fun_induction unpack bytes with
  | case1 a b c rest ih =>
      have := a.toNat_lt
      have := b.toNat_lt
      rcases List.mem_cons.mp member with rfl | member
      · omega
      rcases List.mem_cons.mp member with rfl | member
      · omega
      rcases List.mem_cons.mp member with rfl | member
      · have := c.toNat_lt
        omega
      rcases List.mem_cons.mp member with rfl | member
      · omega
      · exact ih member
  | case2 a b =>
      have := a.toNat_lt
      have := b.toNat_lt
      simp only [List.mem_cons, List.not_mem_nil, or_false] at member
      omega
  | case3 a =>
      have := a.toNat_lt
      simp only [List.mem_cons, List.not_mem_nil, or_false] at member
      omega
  | case4 => cases member

theorem sextets_map_sextetChar
    {values : List Nat}
    (small : ∀ value ∈ values, value < 64) :
    sextets (values.map sextetChar) = values := by
  unfold sextets
  induction values with
  | nil => rfl
  | cons value rest ih =>
      obtain ⟨first, others⟩ := List.forall_mem_cons.mp small
      rw [List.map_cons, List.filterMap_cons_some (sextet?_sextetChar value first), ih others]

/-- Encoded text has the values that it was made from; padding adds none. -/
theorem sextets_encodePadded
    (bytes : List UInt8) :
    sextets (encodePadded bytes) = unpack bytes := by
  have padding (count : Nat) : (List.replicate count '=').filterMap sextet? = [] :=
    List.filterMap_eq_nil_iff.mpr fun c member => by
      rw [List.eq_of_mem_replicate member]
      rfl
  have values : sextets (encode bytes).toList = unpack bytes := by
    rw [encode, String.toList_ofList]
    exact sextets_map_sextetChar fun value => lt_of_mem_unpack
  unfold sextets at values ⊢
  rw [encodePadded, List.filterMap_append, padding, values, List.append_nil]

/-! ## Regrouping bits -/

theorem ofNat_eq_self
    {byte : UInt8}
    {value : Nat}
    (same : value = byte.toNat) :
    UInt8.ofNat value = byte := by
  rw [same, UInt8.ofNat_toNat]

/-- Packing undoes unpacking, whether the last group is full or not. -/
theorem pack_unpack
    (bytes : List UInt8) :
    pack (unpack bytes) = bytes := by
  fun_induction unpack bytes with
  | case1 a b c rest ih =>
      have := b.toNat_lt
      have := c.toNat_lt
      have first : a.toNat / 4 * 4 + (a.toNat % 4 * 16 + b.toNat / 16) / 16 = a.toNat := by omega
      have second :
          (a.toNat % 4 * 16 + b.toNat / 16) % 16 * 16 +
            (b.toNat % 16 * 4 + c.toNat / 64) / 4 = b.toNat := by
        omega
      have third : (b.toNat % 16 * 4 + c.toNat / 64) % 4 * 64 + c.toNat % 64 = c.toNat := by omega
      rw [pack, ofNat_eq_self first, ofNat_eq_self second, ofNat_eq_self third, ih]
  | case2 a b =>
      have := b.toNat_lt
      have first : a.toNat / 4 * 4 + (a.toNat % 4 * 16 + b.toNat / 16) / 16 = a.toNat := by omega
      have second :
          (a.toNat % 4 * 16 + b.toNat / 16) % 16 * 16 + b.toNat % 16 * 4 / 4 = b.toNat := by
        omega
      rw [pack, ofNat_eq_self first, ofNat_eq_self second]
  | case3 a =>
      have first : a.toNat / 4 * 4 + a.toNat % 4 * 16 / 16 = a.toNat := by omega
      rw [pack, ofNat_eq_self first]
  | case4 => rfl

/-- The bits of a number, the highest of a given width first. -/
def bits : Nat → Nat → List Bool
  | 0, _ => []
  | width + 1, value => value.testBit width :: bits width value

/-- The bits of a given width are those of the remainder. -/
theorem bits_congr
    {width value other : Nat}
    (same : value % (1 <<< width) = other % (1 <<< width)) :
    bits width value = bits width other := by
  have each : ∀ index < width, value.testBit index = other.testBit index := by
    intro index within
    rw [Nat.one_shiftLeft] at same
    have kept (number : Nat) : (number % 2 ^ width).testBit index = number.testBit index := by
      rw [Nat.testBit_mod_two_pow, decide_eq_true within, Bool.true_and]
    rw [← kept value, same, kept]
  clear same
  induction width with
  | zero => rfl
  | succ width ih =>
      rw [bits, bits, each width (Nat.lt_succ_self width),
        ih fun index within => each index (Nat.lt_succ_of_lt within)]

theorem bits_append
    (high low value : Nat) :
    bits high (value / (1 <<< low)) ++ bits low value = bits (high + low) value := by
  rw [Nat.one_shiftLeft, ← Nat.shiftRight_eq_div_pow]
  induction high with
  | zero => rw [Nat.zero_add, bits, List.nil_append]
  | succ high ih =>
      rw [Nat.succ_add, bits, bits, List.cons_append, ih, Nat.testBit_shiftRight, Nat.add_comm low]

/-- The bits of a number are those of its upper and of its lower part. -/
theorem bits_cut
    (high low : Nat)
    {value upper lower : Nat}
    (above : value / (1 <<< low) % (1 <<< high) = upper % (1 <<< high))
    (below : value % (1 <<< low) = lower % (1 <<< low)) :
    bits (high + low) value = bits high upper ++ bits low lower := by
  rw [← bits_append, bits_congr above, bits_congr below]

theorem bits_mod
    (width value : Nat) :
    bits width (value % (1 <<< width)) = bits width value :=
  bits_congr (Nat.mod_mod value _)

/-- A number put together from two parts has the bits of the upper part and then those of the lower one. -/
theorem bits_join
    (high low upper : Nat)
    {lower : Nat}
    (small : lower < 1 <<< low) :
    bits (high + low) (upper * (1 <<< low) + lower) = bits high upper ++ bits low lower := by
  have filled : 0 < 1 <<< low := Nat.zero_lt_of_lt small
  have above : (upper * (1 <<< low) + lower) / (1 <<< low) = upper := by
    rw [Nat.mul_comm, Nat.mul_add_div filled, Nat.div_eq_of_lt small, Nat.add_zero]
  have below : (upper * (1 <<< low) + lower) % (1 <<< low) = lower % (1 <<< low) := by
    rw [Nat.mul_comm, Nat.mul_add_mod]
  exact bits_cut high low (by rw [above]) below

/-- A number put together from the lower end of one and from another has the bits of both. -/
theorem bits_join_mod
    (high low upper : Nat)
    {lower : Nat}
    (small : lower < 1 <<< low) :
    bits (high + low) (upper % (1 <<< high) * (1 <<< low) + lower) = bits high upper ++ bits low lower := by
  rw [bits_join high low _ small, bits_mod]

/-! ## Decoding -/

/-- Decoding any spelling of encoded bytes gives the bytes. -/
theorem decode_of_spells
    {bytes : List UInt8}
    {text : String}
    (spells : Spells (encodePadded bytes) text.toList) :
    decode text = bytes := by
  unfold decode
  rw [sextets_of_spells spells, sextets_encodePadded, pack_unpack]

/-- Both alphabets, padding in wrong places, and a letter and a digit of other scripts. -/
theorem decode_of_spells_mixed :
    encodePadded [251, 255, 62, 1] = "+/8+AQ==".toList ∧
      Spells (encodePadded [251, 255, 62, 1]) "=-\n/8é +A=٣Q".toList ∧
      decode "=-\n/8é +A=٣Q" = [251, 255, 62, 1] := by
  have encoded : encodePadded [251, 255, 62, 1] = "+/8+AQ==".toList := by decide
  have spells : Spells (encodePadded [251, 255, 62, 1]) "=-\n/8é +A=٣Q".toList := by
    rw [encoded]
    exact .noise '=' (by decide) <| .safe '+' <| .noise '\n' (by decide) <| .same '/' <| .same '8' <|
      .noise 'é' (by decide) <| .noise ' ' (by decide) <| .same '+' <| .same 'A' <|
      .noise '=' (by decide) <| .noise '٣' (by decide) <| .same 'Q' <| .unpad <| .unpad .nil
  exact ⟨encoded, spells, decode_of_spells spells⟩

end ConfigTokens.Base64
