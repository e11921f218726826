import ConfigTokens.Proofs.Binary64.Natural
import ConfigTokens.Proofs.EnvToken.Integer
/-!
# Values with more digits than an integer may have

A run of more than 4300 digits is read as a floating point number, which rounds what the run denotes: an infinity
if that is as large as `2 ^ 1024 - 2 ^ 970`, and otherwise the nearest finite number. Leading zeros count for the
limit, but not for the size, so that there are overlong runs on both sides. A decimal conversion gives a finite
floating point number for no other value.
-/

namespace ConfigTokens.EnvFilter

open ConfigTokens.Text

theorem numberOfRun_of_long
    (negative : Bool)
    {digits : List Char}
    (long : integerDigitLimit < digits.length) :
    numberOfRun negative digits = .float (Binary64.ofDecimal negative digits 0) :=
  if_neg (Nat.not_le.mpr long)

/-- An overlong run is rounded to an infinity from the bound on, and to the nearest number below it. -/
theorem toDecimal_of_long
    {value : String}
    {blank : List Char}
    {sign : Sign}
    {digits rest : List Char}
    (begins : BeginsWith isBlank value.toList blank sign digits rest)
    (long : integerDigitLimit < digits.length) :
    (Binary64.overflowBound ≤ placeValue digits ∧
        toDecimal (some value) = .float (.infinity sign.isNegative)) ∨
      (placeValue digits < Binary64.overflowBound ∧ ∃ significand exponent,
        toDecimal (some value) = .float (.finite sign.isNegative significand exponent) ∧
          Binary64.Rounds (placeValue digits) significand exponent) := by
  rw [toDecimal_of_begins begins, numberOfRun_of_long _ long]
  rcases Binary64.ofDecimal_zero begins.digits sign.isNegative with
    ⟨large, infinite⟩ | ⟨small, significand, exponent, finite, rounds⟩
  · exact .inl ⟨large, congrArg Number.float infinite⟩
  · exact .inr ⟨small, significand, exponent, congrArg Number.float finite, rounds⟩

/-- A finite floating point number comes from an overlong run. -/
theorem begins_of_toDecimal_eq_finite
    {value : Option String}
    {negative : Bool}
    {significand exponent : Nat}
    (finite : toDecimal value = .float (.finite negative significand exponent)) :
    ∃ text blank sign digits rest,
      value = some text ∧ BeginsWith isBlank text.toList blank sign digits rest ∧
        integerDigitLimit < digits.length := by
  cases value with
  | none => cases finite
  | some text =>
      rw [toDecimal_eq_scan] at finite
      split at finite
      · cases finite
      · next found =>
        obtain ⟨blank, sign, rest, begins, negative⟩ := exists_begins_of_scan found
        refine ⟨text, blank, sign, _, rest, rfl, begins, Nat.not_le.mp fun short => ?_⟩
        rw [← negative, numberOfRun_of_short sign short] at finite
        cases finite

/-- Nothing but nines, one more than an integer may have. -/
def nines : List Char :=
  List.replicate (integerDigitLimit + 1) '9'

/-- A seven behind as many zeros as an integer may have digits. -/
def sevenBehindZeros : List Char :=
  List.replicate integerDigitLimit '0' ++ ['7']

theorem begins_nines :
    BeginsWith isBlank (String.ofList ('-' :: nines)).toList [] .minus nines [] where
  spelled := by
    rw [String.toList_ofList, List.append_nil]
    rfl
  blank := by simp
  filled := by simp [nines]
  digits := by simp [nines, isDigit]
  ends := by simp

theorem begins_sevenBehindZeros :
    BeginsWith isBlank (String.ofList sevenBehindZeros).toList [] .absent sevenBehindZeros [] where
  spelled := by
    rw [String.toList_ofList, List.append_nil]
    rfl
  blank := by simp
  filled := by simp [sevenBehindZeros]
  digits := by
    intro c member
    rcases List.mem_append.mp member with zero | seven
    · rw [List.eq_of_mem_replicate zero]
      rfl
    · rw [List.mem_singleton.mp seven]
      rfl
  ends := by simp

theorem length_sevenBehindZeros :
    integerDigitLimit < sevenBehindZeros.length := by
  rw [sevenBehindZeros, List.length_append, List.length_replicate]
  exact Nat.lt_succ_self _

theorem dropWhile_sevenBehindZeros :
    sevenBehindZeros.dropWhile (· == '0') = ['7'] :=
  List.dropWhile_append_of_pos fun _ member => beq_iff_eq.mpr (List.eq_of_mem_replicate member)

theorem toDecimal_sevenBehindZeros :
    toDecimal (some (String.ofList sevenBehindZeros)) = .float (.finite false (7 * 2 ^ 50) 1024) := by
  rw [toDecimal_of_begins begins_sevenBehindZeros, numberOfRun_of_long _ length_sevenBehindZeros]
  unfold Binary64.ofDecimal
  rw [dropWhile_sevenBehindZeros]
  decide +kernel

/--
What a decimal conversion makes of a run that is too long for an integer:

* A value that begins with white space, an optional sign, and a run of more than 4300 digits gives the infinity
  of that sign exactly if the run denotes a number from `2 ^ 1024 - 2 ^ 970` on. A run that goes on for 310 digits
  behind its leading zeros does. Below the bound the value gives the floating point number nearest to the number.
* So a value gives a finite floating point number exactly if it begins with an overlong run that denotes a number
  below the bound.
-/
theorem toDecimal_rounds_overlong
    (value : Option String) :
    (∀ (text : String) (blank : List Char) (sign : Sign) (digits rest : List Char),
      value = some text → BeginsWith isBlank text.toList blank sign digits rest →
        integerDigitLimit < digits.length →
          (toDecimal value = .float (.infinity sign.isNegative) ↔
            Binary64.overflowBound ≤ placeValue digits) ∧
          (309 < (digits.dropWhile (· == '0')).length → Binary64.overflowBound ≤ placeValue digits) ∧
          (placeValue digits < Binary64.overflowBound → ∃ significand exponent,
            toDecimal value = .float (.finite sign.isNegative significand exponent) ∧
              Binary64.Rounds (placeValue digits) significand exponent)) ∧
    ((∃ negative significand exponent, toDecimal value = .float (.finite negative significand exponent)) ↔
      ∃ text blank sign digits rest,
        value = some text ∧ BeginsWith isBlank text.toList blank sign digits rest ∧
          integerDigitLimit < digits.length ∧ placeValue digits < Binary64.overflowBound) := by
  constructor
  · rintro text blank sign digits rest rfl begins long
    have many := Binary64.overflowBound_le_placeValue begins.digits
    rcases toDecimal_of_long begins long with
      ⟨large, infinite⟩ | ⟨small, significand, exponent, finite, rounds⟩
    · exact ⟨iff_of_true infinite large, many, fun small => absurd large (Nat.not_le.mpr small)⟩
    · refine ⟨iff_of_false (fun infinite => ?_) (Nat.not_le.mpr small), many, fun _ => ?_⟩
      · cases finite.symm.trans infinite
      · exact ⟨significand, exponent, finite, rounds⟩
  · constructor
    · rintro ⟨negative, significand, exponent, finite⟩
      obtain ⟨text, blank, sign, digits, rest, rfl, begins, long⟩ := begins_of_toDecimal_eq_finite finite
      refine ⟨text, blank, sign, digits, rest, rfl, begins, long, ?_⟩
      rcases toDecimal_of_long begins long with ⟨-, infinite⟩ | ⟨small, -⟩
      · cases finite.symm.trans infinite
      · exact small
    · rintro ⟨text, blank, sign, digits, rest, rfl, begins, long, small⟩
      rcases toDecimal_of_long begins long with ⟨large, -⟩ | ⟨-, significand, exponent, finite, -⟩
      · exact absurd large (Nat.not_le.mpr small)
      · exact ⟨sign.isNegative, significand, exponent, finite⟩

/-- Nines overflow, and a seven behind zeros does not. -/
theorem toDecimal_rounds_overlong_runs :
    toDecimal (some (String.ofList ('-' :: nines))) = .float (.infinity true) ∧
      ∃ text blank sign digits rest,
        some (String.ofList sevenBehindZeros) = some text ∧
          BeginsWith isBlank text.toList blank sign digits rest ∧
          integerDigitLimit < digits.length ∧ placeValue digits < Binary64.overflowBound := by
  have long : integerDigitLimit < nines.length := by
    rw [nines, List.length_replicate]
    exact Nat.lt_succ_self _
  have many : 309 < (nines.dropWhile (· == '0')).length := by
    rw [List.dropWhile_eq_self_iff.mpr (by simp [nines])]
    exact Nat.lt_trans (by decide) long
  obtain ⟨overlong, -⟩ := toDecimal_rounds_overlong (some (String.ofList ('-' :: nines)))
  obtain ⟨infinite, large, -⟩ := overlong _ _ _ _ _ rfl begins_nines long
  obtain ⟨-, comes⟩ := toDecimal_rounds_overlong (some (String.ofList sevenBehindZeros))
  exact ⟨infinite.mpr (large many), comes.mp ⟨_, _, _, toDecimal_sevenBehindZeros⟩⟩

/-- A run of 4301 digits that is no infinity. -/
theorem toDecimal_finite_of_overlong :
    BeginsWith isBlank (String.ofList sevenBehindZeros).toList [] .absent sevenBehindZeros [] ∧
      integerDigitLimit < sevenBehindZeros.length ∧
      toDecimal (some (String.ofList sevenBehindZeros)) = .float (.finite false (7 * 2 ^ 50) 1024) ∧
      toDecimal (some (String.ofList sevenBehindZeros)) ≠ .float (.infinity false) := by
  refine ⟨begins_sevenBehindZeros, length_sevenBehindZeros, toDecimal_sevenBehindZeros, ?_⟩
  rw [toDecimal_sevenBehindZeros]
  exact nofun

end ConfigTokens.EnvFilter
