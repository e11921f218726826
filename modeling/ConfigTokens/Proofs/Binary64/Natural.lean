import ConfigTokens.Binary64.Basic
import ConfigTokens.Proofs.Text.Decimal
/-!
# Natural numbers as floating point numbers

A natural number is scaled by `2 ^ 1074`, so that the unit of the smallest floating point numbers is one, and
rounded to a multiple of the unit of its binade. The result is the nearest number, a tie going to the even
significand, and it overflows exactly from `2 ^ 1024 - 2 ^ 970` on, half a unit above the greatest finite number:
there the tie goes to the significand that is too large.

Decimal digits are rounded as the number that they denote. The digits that are too many to be looked at denote a
number far beyond that bound.
-/

namespace ConfigTokens.Binary64

open ConfigTokens.Text

/-! ## Rounding to a multiple -/

/-- A quotient is rounded down if the remainder is at most half, and up if it is at least half; where it is
half, an odd quotient is rounded up. -/
theorem roundHalfEven_cases
    (numerator denominator : Nat) :
    (roundHalfEven numerator denominator = numerator / denominator ∧
        2 * (numerator % denominator) ≤ denominator ∧
        (2 * (numerator % denominator) = denominator → numerator / denominator % 2 = 0)) ∨
      (roundHalfEven numerator denominator = numerator / denominator + 1 ∧
        denominator ≤ 2 * (numerator % denominator) ∧
        (2 * (numerator % denominator) = denominator → numerator / denominator % 2 = 1)) := by
  simp only [roundHalfEven, Bool.or_eq_true, Bool.and_eq_true, decide_eq_true_eq]
  split
  · next down => exact .inl ⟨rfl, by omega, by omega⟩
  · next up => exact .inr ⟨rfl, by omega, by omega⟩

/-- A multiple of a unit that lies nearest: it is off by at most half a unit, and even where it is off by half. -/
structure IsNearest
    (unit scaled significand : Nat) : Prop where
  above : 2 * (significand * unit) ≤ 2 * scaled + unit
  below : 2 * scaled ≤ 2 * (significand * unit) + unit
  even :
    2 * (significand * unit) = 2 * scaled + unit ∨ 2 * scaled = 2 * (significand * unit) + unit →
      significand % 2 = 0

theorem roundHalfEven_isNearest
    {unit : Nat}
    (positive : 0 < unit)
    (scaled : Nat) :
    IsNearest unit scaled (roundHalfEven scaled unit) := by
  have whole := Nat.div_add_mod scaled unit
  have rest := Nat.mod_lt scaled positive
  rw [Nat.mul_comm] at whole
  rcases roundHalfEven_cases scaled unit with ⟨down, small, tie⟩ | ⟨up, large, tie⟩
  · rw [down]
    exact ⟨by omega, by omega, by omega⟩
  · have next : (scaled / unit + 1) * unit = scaled / unit * unit + unit := Nat.succ_mul _ _
    rw [up]
    exact ⟨by omega, by omega, by omega⟩

/-! ## Binades -/

/-- Half a unit above the greatest finite number. -/
def overflowBound : Nat :=
  (2 ^ 54 - 1) * twoTo 970

/-- A finite number is the nearest to a natural number: its significand is normal, and nearest in the unit of its
exponent. -/
structure Rounds
    (n significand exponent : Nat) : Prop where
  low : twoTo 52 ≤ significand ∨ exponent = 0
  high : significand < twoTo 53
  range : exponent ≤ 2045
  nearest : IsNearest (twoTo exponent) (n * twoTo 1074) significand

theorem twoTo_pos
    (exponent : Nat) :
    0 < twoTo exponent :=
  Nat.two_pow_pos exponent

theorem twoTo_of_add
    {a b sum : Nat}
    (isSum : a + b = sum) :
    twoTo sum = twoTo a * twoTo b := by
  rw [← isSum]
  exact Nat.pow_add 2 a b

theorem twoTo_le
    {a b : Nat}
    (le : a ≤ b) :
    twoTo a ≤ twoTo b :=
  Nat.pow_le_pow_right (by decide) le

theorem overflowBound_scaled :
    overflowBound * twoTo 1074 = (2 ^ 54 - 1) * twoTo 2044 := by
  have places : twoTo 2044 = twoTo 970 * twoTo 1074 := twoTo_of_add (by decide)
  rw [places, overflowBound, Nat.mul_assoc]

/-- The binade of a scaled number: a significand in its unit has 53 bits. -/
theorem binade
    {n : Nat}
    (positive : 0 < n) :
    twoTo 52 * twoTo ((n * twoTo 1074).log2 - 52) ≤ n * twoTo 1074 ∧
      n * twoTo 1074 < twoTo 53 * twoTo ((n * twoTo 1074).log2 - 52) := by
  have large : twoTo 1074 ≤ n * twoTo 1074 := Nat.le_mul_of_pos_left _ positive
  have some : n * twoTo 1074 ≠ 0 := (Nat.lt_of_lt_of_le (twoTo_pos _) large).ne'
  have places : 52 ≤ (n * twoTo 1074).log2 :=
    (Nat.le_log2 some).mpr (Nat.le_trans (twoTo_le (by decide)) large)
  rw [← twoTo_of_add (Nat.add_sub_cancel' places),
    ← twoTo_of_add (show 53 + ((n * twoTo 1074).log2 - 52) = (n * twoTo 1074).log2 + 1 by omega)]
  exact ⟨Nat.log2_self_le some, Nat.lt_log2_self⟩

/-- A rounded significand has 53 bits, or is the least one that does not. -/
theorem roundHalfEven_bounds
    {unit scaled : Nat}
    (low : twoTo 52 * unit ≤ scaled)
    (high : scaled < twoTo 53 * unit) :
    twoTo 52 ≤ roundHalfEven scaled unit ∧ roundHalfEven scaled unit ≤ twoTo 53 := by
  have positive : 0 < unit := Nat.pos_of_ne_zero fun zero => by
    rw [zero, Nat.mul_zero] at high
    exact Nat.not_lt_zero _ high
  have quotientLow : twoTo 52 ≤ scaled / unit := (Nat.le_div_iff_mul_le positive).mpr low
  have quotientHigh : scaled / unit < twoTo 53 := (Nat.div_lt_iff_lt_mul positive).mpr high
  rcases roundHalfEven_cases scaled unit with ⟨down, -⟩ | ⟨up, -⟩
  · rw [down]
    exact ⟨quotientLow, quotientHigh.le⟩
  · rw [up]
    exact ⟨Nat.le_succ_of_le quotientLow, quotientHigh⟩

/-! ## Overflow -/

section

variable {unit scaled significand bound : Nat}

/-- Up to the last unit, a significand of 53 bits is rounded to from below the bound. -/
theorem lt_bound_of_short
    (positive : 0 < unit)
    (nearest : IsNearest unit scaled significand)
    (short : significand < 2 ^ 53)
    (small : unit ≤ 2 * bound) :
    scaled < (2 ^ 54 - 1) * bound := by
  obtain ⟨-, below, even⟩ := nearest
  rcases Nat.lt_or_ge significand (2 ^ 53 - 1) with smaller | largest
  · have most : significand * unit ≤ (2 ^ 53 - 2) * unit := Nat.mul_le_mul_right _ (by omega)
    omega
  · -- The largest significand is odd, so that it is no tie.
    have odd : significand = 2 ^ 53 - 1 := Nat.le_antisymm (Nat.le_sub_one_of_lt short) largest
    have noTie : 2 * scaled ≠ 2 * (significand * unit) + unit := fun tie => by
      have parity := even (.inr tie)
      omega
    rw [odd] at below noTie
    omega

/-- In a binade below the last one, every number is below the bound. -/
theorem lt_bound_of_unit_le
    (high : scaled < 2 ^ 53 * unit)
    (small : 2 * unit ≤ 2 * bound) :
    scaled < (2 ^ 54 - 1) * bound := by
  omega

/-- In a binade above the last one, no number is below the bound. -/
theorem bound_le_of_le_unit
    (low : 2 ^ 52 * unit ≤ scaled)
    (large : 2 * (2 * bound) ≤ unit) :
    (2 ^ 54 - 1) * bound ≤ scaled := by
  omega

/-- From the last unit on, the least significand of 54 bits is rounded to from the bound on. -/
theorem bound_le_of_long
    (nearest : IsNearest unit scaled (2 ^ 53))
    (large : 2 * bound ≤ unit) :
    (2 ^ 54 - 1) * bound ≤ scaled := by
  have above := nearest.above
  omega

/-- The least significand of 54 bits is the least of 53 bits in the next unit. -/
theorem IsNearest.carry
    (nearest : IsNearest unit scaled (2 ^ 53)) :
    IsNearest (2 * unit) scaled (2 ^ 52) := by
  obtain ⟨above, below, -⟩ := nearest
  exact ⟨by omega, by omega, fun _ => by decide⟩

end

theorem overflowBound_le_iff
    {n : Nat} :
    overflowBound ≤ n ↔ (2 ^ 54 - 1) * twoTo 2044 ≤ n * twoTo 1074 := by
  rw [← Nat.mul_le_mul_right_iff (twoTo_pos 1074), overflowBound_scaled]

theorem two_mul_twoTo
    {exponent next : Nat}
    (isNext : exponent + 1 = next) :
    2 * twoTo exponent = twoTo next := by
  rw [← isNext]
  exact Nat.pow_succ'.symm

/-- The unit of every finite number is at most the last one. -/
theorem unit_le
    {exponent : Nat}
    (small : exponent ≤ 2045) :
    twoTo exponent ≤ 2 * twoTo 2044 := by
  rw [two_mul_twoTo (show 2044 + 1 = 2045 by decide)]
  exact twoTo_le small

theorem le_unit
    {exponent : Nat}
    (large : 2045 ≤ exponent) :
    2 * twoTo 2044 ≤ twoTo exponent := by
  rw [two_mul_twoTo (show 2044 + 1 = 2045 by decide)]
  exact twoTo_le large

theorem le_unit_of_lt
    {exponent : Nat}
    (large : 2045 < exponent) :
    2 * (2 * twoTo 2044) ≤ twoTo exponent := by
  rw [two_mul_twoTo (show 2044 + 1 = 2045 by decide), two_mul_twoTo (show 2045 + 1 = 2046 by decide)]
  exact twoTo_le large

/-- A natural number is rounded in the unit of its binade, and a significand of 54 bits is carried. -/
theorem ofRatio_one_eq
    (negative : Bool)
    {n scaled exponent significand : Nat}
    (isScaled : n * twoTo 1074 = scaled)
    (isExponent : scaled.log2 - 52 = exponent)
    (isSignificand : roundHalfEven scaled (twoTo exponent) = significand) :
    ofRatio negative n 1 =
      if significand = twoTo 53 then
        if exponent + 1 ≤ 2045 then .finite negative (twoTo 52) (exponent + 1) else .infinity negative
      else if exponent ≤ 2045 then .finite negative significand exponent else .infinity negative := by
  -- The scale has to be out of sight before the definition is opened: nothing may evaluate at that power.
  obtain ⟨scale, isScale⟩ : ∃ scale, scale = twoTo 1074 := ⟨_, rfl⟩
  generalize opened : ofRatio = round
  delta ofRatio at opened
  rw [← isScale] at opened isScaled
  clear isScale
  subst opened isScaled isExponent isSignificand
  simp only [Nat.div_one, Nat.one_mul]
  by_cases carry : roundHalfEven (n * scale) (twoTo ((n * scale).log2 - 52)) = twoTo 53
  · rw [if_pos carry, if_pos carry]
  · rw [if_neg carry, if_neg carry]

/-- A positive natural number is rounded to an infinity from the bound on, and to the nearest number below it. -/
theorem ofRatio_one
    (negative : Bool)
    {n : Nat}
    (positive : 0 < n) :
    (overflowBound ≤ n ∧ ofRatio negative n 1 = .infinity negative) ∨
      (n < overflowBound ∧ ∃ significand exponent,
        ofRatio negative n 1 = .finite negative significand exponent ∧ Rounds n significand exponent) := by
  obtain ⟨low, high⟩ := binade positive
  obtain ⟨least, most⟩ := roundHalfEven_bounds low high
  have nearest := roundHalfEven_isNearest (twoTo_pos ((n * twoTo 1074).log2 - 52)) (n * twoTo 1074)
  rw [overflowBound_le_iff, ← Nat.not_le, overflowBound_le_iff, ofRatio_one_eq negative rfl rfl rfl]
  generalize (n * twoTo 1074).log2 - 52 = exponent at *
  generalize roundHalfEven (n * twoTo 1074) (twoTo exponent) = significand at *
  by_cases carry : significand = twoTo 53
  · subst carry
    rw [if_pos rfl]
    by_cases small : exponent + 1 ≤ 2045
    · have next : 2 * twoTo exponent = twoTo (exponent + 1) := two_mul_twoTo rfl
      have fits := unit_le small
      rw [← next] at fits
      have under := lt_bound_of_unit_le high fits
      refine .inr ⟨Nat.not_le.mpr under, twoTo 52, exponent + 1, if_pos small, .inl le_rfl, by decide, small, ?_⟩
      rw [← next]
      exact nearest.carry
    · have large := le_unit (Nat.le_of_lt_succ (Nat.lt_of_not_le small))
      exact .inl ⟨bound_le_of_long nearest large, if_neg small⟩
  · have short : significand < twoTo 53 := Nat.lt_of_le_of_ne most carry
    rw [if_neg carry]
    by_cases small : exponent ≤ 2045
    · have under := lt_bound_of_short (twoTo_pos _) nearest short (unit_le small)
      exact .inr ⟨Nat.not_le.mpr under, significand, exponent, if_pos small, .inl least, short, small, nearest⟩
    · have large := le_unit_of_lt (Nat.lt_of_not_le small)
      exact .inl ⟨bound_le_of_le_unit low large, if_neg small⟩

/-! ## Decimal digits -/

theorem overflowBound_le_pow :
    overflowBound ≤ 10 ^ 309 := by
  decide +kernel

theorem overflowBound_pos :
    0 < overflowBound := by
  decide +kernel

theorem isNearest_zero
    (unit scale : Nat) :
    IsNearest unit (0 * scale) 0 := by
  rw [Nat.zero_mul]
  exact ⟨by omega, by omega, fun _ => rfl⟩

section

variable {digits : List Char}
variable (allDigits : ∀ c ∈ digits, isDigit c = true)

include allDigits

/-- Digits that go on for 310 places behind their leading zeros denote a number that overflows. -/
theorem overflowBound_le_placeValue
    (many : 309 < (digits.dropWhile (· == '0')).length) :
    overflowBound ≤ placeValue digits :=
  Nat.le_trans overflowBound_le_pow (pow_le_placeValue allDigits many)

/-- Digits without a power of ten are rounded as the natural number that they denote. -/
theorem ofDecimal_zero
    (negative : Bool) :
    (overflowBound ≤ placeValue digits ∧ ofDecimal negative digits 0 = .infinity negative) ∨
      (placeValue digits < overflowBound ∧ ∃ significand exponent,
        ofDecimal negative digits 0 = .finite negative significand exponent ∧
          Rounds (placeValue digits) significand exponent) := by
  unfold ofDecimal
  dsimp only
  by_cases zeros : digits.dropWhile (· == '0') = []
  · have value : placeValue digits = 0 := by
      rw [← placeValue_dropWhile, zeros]
      rfl
    rw [if_pos zeros, value]
    exact .inr ⟨overflowBound_pos, 0, 0, rfl, .inr rfl, twoTo_pos _, Nat.zero_le _, isNearest_zero _ _⟩
  · have places : 0 < (digits.dropWhile (· == '0')).length := List.length_pos_iff.mpr zeros
    rw [if_neg zeros]
    by_cases many : 400 < (digits.dropWhile (· == '0')).length
    · exact .inl ⟨overflowBound_le_placeValue allDigits (by omega), if_pos (by omega)⟩
    · have value : decimalValue (digits.dropWhile (· == '0')) * tenTo (0 : Int).toNat = placeValue digits := by
        rw [decimalValue_eq, placeValue_dropWhile]
        exact Nat.mul_one _
      rw [if_neg (by omega), if_neg (by omega), if_pos (by decide), value]
      exact ofRatio_one negative (Nat.lt_of_lt_of_le Nat.one_pos (pow_le_placeValue allDigits places))

end

end ConfigTokens.Binary64
