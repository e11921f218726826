import Mathlib.Data.List.TakeWhile
import ConfigTokens.Proofs.EnvToken.Grammar
import ConfigTokens.Proofs.Text.Decimal
/-!
# Integers at the start of a value

A value begins with an integer if white space, a sign and a run of ASCII digits stand in front, in this order
and with nothing between them. Since no digit and no sign is white space, there is only one way to cut a value
like that, and a scan finds it: it drops white space, takes a sign, and takes digits as long as there are any
(`EnvFilter.scan_of_begins`). The class of white space is left open, so that readers with different classes can be
compared.

A decimal conversion gives the number that the run denotes by the places of its digits, up to the limit on
digits, and no number where the value does not begin with an integer.
-/

namespace ConfigTokens

namespace Text

/-! ## Signs -/

/-- What may stand between white space and digits. -/
inductive Sign where
  | absent
  | plus
  | minus
  deriving DecidableEq, Repr

namespace Sign

/-- The characters of a sign. -/
def text : Sign → List Char
  | .absent => []
  | .plus => ['+']
  | .minus => ['-']

/-- The number below the sign is negative. -/
def isNegative : Sign → Bool
  | .minus => true
  | .absent | .plus => false

/-- A number under a sign. -/
def apply
    (sign : Sign)
    (n : Nat) : Int :=
  if sign.isNegative then -n else n

end Sign

/-! ## Beginning with an integer -/

/-- A text begins with white space, a sign, and digits that go as far as they can; the rest is behind them. -/
structure BeginsWith
    (white : Char → Bool)
    (text blank : List Char)
    (sign : Sign)
    (digits rest : List Char) : Prop where
  spelled : text = blank ++ (sign.text ++ (digits ++ rest))
  blank : ∀ c ∈ blank, white c = true
  filled : digits ≠ []
  digits : ∀ c ∈ digits, isDigit c = true
  ends : ∀ c, rest.head? = some c → isDigit c = false

/-- No character of a class of white space belongs to an integer. -/
structure IsSeparate
    (white : Char → Bool) : Prop where
  digit : ∀ {c}, isDigit c = true → white c = false
  plus : white '+' = false
  minus : white '-' = false

end Text

namespace EnvFilter

open ConfigTokens.Text

/-- A sign and a run of digits behind white space of a class; the run may be empty. -/
def scan
    (white : Char → Bool)
    (text : List Char) : Bool × List Char :=
  let (negative, rest) := cutSign (text.dropWhile white)
  (negative, rest.takeWhile isDigit)

theorem cutSign_spelled
    (sign : Sign)
    {digits rest : List Char}
    (filled : digits ≠ [])
    (allDigits : ∀ c ∈ digits, isDigit c = true) :
    cutSign (sign.text ++ (digits ++ rest)) = (sign.isNegative, digits ++ rest) := by
  cases sign with
  | plus => rfl
  | minus => rfl
  | absent =>
      obtain ⟨first, more, rfl⟩ := List.exists_cons_of_ne_nil filled
      have digit := allDigits first List.mem_cons_self
      unfold cutSign
      split
      · next shape =>
        cases shape
        cases digit
      · next shape =>
        cases shape
        cases digit
      · rfl

theorem exists_cutSign
    (text : List Char) :
    ∃ sign : Sign, text = sign.text ++ (cutSign text).2 ∧ sign.isNegative = (cutSign text).1 := by
  unfold cutSign
  split
  · exact ⟨.minus, rfl, rfl⟩
  · exact ⟨.plus, rfl, rfl⟩
  · exact ⟨.absent, rfl, rfl⟩

theorem takeWhile_digits
    {digits rest : List Char}
    (allDigits : ∀ c ∈ digits, isDigit c = true)
    (ends : ∀ c, rest.head? = some c → isDigit c = false) :
    (digits ++ rest).takeWhile isDigit = digits := by
  rw [List.takeWhile_append_of_pos allDigits]
  cases rest with
  | nil => rw [List.takeWhile_nil, List.append_nil]
  | cons c more => rw [List.takeWhile_cons_of_neg (by simp [ends c rfl]), List.append_nil]

section

variable {white : Char → Bool}
variable (separate : IsSeparate white)

include separate

/-- White space ends where a sign or a digit stands. -/
theorem dropWhile_spelled
    {blank : List Char}
    (sign : Sign)
    {digits rest : List Char}
    (allWhite : ∀ c ∈ blank, white c = true)
    (filled : digits ≠ [])
    (allDigits : ∀ c ∈ digits, isDigit c = true) :
    (blank ++ (sign.text ++ (digits ++ rest))).dropWhile white =
      sign.text ++ (digits ++ rest) := by
  rw [List.dropWhile_append_of_pos allWhite]
  cases sign with
  | plus => exact List.dropWhile_cons_of_neg (by simp [separate.plus])
  | minus => exact List.dropWhile_cons_of_neg (by simp [separate.minus])
  | absent =>
      obtain ⟨first, more, rfl⟩ := List.exists_cons_of_ne_nil filled
      have digit := allDigits first List.mem_cons_self
      exact List.dropWhile_cons_of_neg (by simp [separate.digit digit])

/-- A scan finds the integer at the start of a text. -/
theorem scan_of_begins
    {text blank : List Char}
    {sign : Sign}
    {digits rest : List Char}
    (begins : BeginsWith white text blank sign digits rest) :
    scan white text = (sign.isNegative, digits) := by
  obtain ⟨rfl, allWhite, filled, allDigits, ends⟩ := begins
  unfold scan
  rw [dropWhile_spelled separate sign allWhite filled allDigits, cutSign_spelled sign filled allDigits]
  dsimp only
  rw [takeWhile_digits allDigits ends]

end

/-- Where a scan finds digits, the text begins with them. -/
theorem exists_begins_of_scan
    {white : Char → Bool}
    {text : List Char}
    (found : (scan white text).2 ≠ []) :
    ∃ blank sign rest,
      BeginsWith white text blank sign (scan white text).2 rest ∧
        sign.isNegative = (scan white text).1 := by
  obtain ⟨sign, signed, negative⟩ := exists_cutSign (text.dropWhile white)
  refine ⟨text.takeWhile white, sign, (cutSign (text.dropWhile white)).2.dropWhile isDigit, ?_, negative⟩
  refine ⟨?_, fun c => List.mem_takeWhile_imp, found, fun c => List.mem_takeWhile_imp, fun c stops => ?_⟩
  · calc
      text = text.takeWhile white ++ text.dropWhile white := List.takeWhile_append_dropWhile.symm
      _ = text.takeWhile white ++ (sign.text ++ (cutSign (text.dropWhile white)).2) := by
          rw [← signed]
      _ = _ := by
          unfold scan
          rw [List.takeWhile_append_dropWhile]
  · have stopped := List.head?_dropWhile_not isDigit (cutSign (text.dropWhile white)).2
    rw [stops] at stopped
    exact stopped

/-! ## White space -/

/-- White space by ranges that leave out everything from the plus sign to the last digit. -/
theorem isSeparate_of_apart
    {ranges : List CodeRange}
    (apart : ∀ range ∈ ranges, range.2 < 43 ∨ 57 < range.1) :
    IsSeparate fun c => CodeRange.covers ranges c.toNat := by
  have outside {code : Nat} (low : 43 ≤ code) (high : code ≤ 57) : CodeRange.covers ranges code = false := by
    refine Bool.eq_false_iff.mpr fun covered => ?_
    obtain ⟨range, member, first, last⟩ := CodeRange.covers_iff.mp covered
    have away := apart range member
    omega
  refine ⟨fun digit => ?_, outside (by decide) (by decide), outside (by decide) (by decide)⟩
  have code := isDigit_iff.mp digit
  exact outside (by omega) code.2

theorem isBlank_isSeparate :
    IsSeparate isBlank :=
  isSeparate_of_apart (show ∀ range ∈ blankRanges, range.2 < 43 ∨ 57 < range.1 by decide)

/-! ## Conversions -/

/-- A conversion scans the value and reads the run that it finds. -/
theorem toDecimal_eq_scan
    (value : String) :
    toDecimal (some value) =
      if (scan isBlank value.toList).2 = [] then .float .nan
      else numberOfRun (scan isBlank value.toList).1 (scan isBlank value.toList).2 := by
  unfold toDecimal scan
  dsimp only
  split
  · next empty => exact (if_pos empty).symm
  · next filled => exact (if_neg filled).symm

theorem toDecimal_of_begins
    {value : String}
    {blank : List Char}
    {sign : Sign}
    {digits rest : List Char}
    (begins : BeginsWith isBlank value.toList blank sign digits rest) :
    toDecimal (some value) = numberOfRun sign.isNegative digits := by
  rw [toDecimal_eq_scan, scan_of_begins isBlank_isSeparate begins, if_neg begins.filled]

/-- A value that does not begin with an integer is no number. -/
theorem toDecimal_of_not_begins
    {value : String}
    (none : ∀ blank sign digits rest, ¬BeginsWith isBlank value.toList blank sign digits rest) :
    toDecimal (some value) = .float .nan := by
  rw [toDecimal_eq_scan]
  refine if_pos (not_not.mp fun found => ?_)
  obtain ⟨blank, sign, rest, begins, -⟩ := exists_begins_of_scan found
  exact none _ _ _ _ begins

/-- A run within the limit is read as an integer. -/
theorem numberOfRun_of_short
    (sign : Sign)
    {digits : List Char}
    (short : digits.length ≤ integerDigitLimit) :
    numberOfRun sign.isNegative digits = .int (sign.apply (placeValue digits)) := by
  rw [numberOfRun, if_pos short, decimalValue_eq, Sign.apply]

/-! ## Texts of integers -/

/-- The sign of the decimal text of an integer. -/
def signOf : Int → Sign
  | .ofNat _ => .absent
  | .negSucc _ => .minus

theorem toList_intText
    (n : Int) :
    (intText n).toList = (signOf n).text ++ (natText n.natAbs).toList := by
  cases n with
  | ofNat n => rfl
  | negSucc n => exact String.toList_append

theorem apply_signOf
    (n : Int) :
    (signOf n).apply n.natAbs = n := by
  cases n with
  | ofNat n => rfl
  | negSucc n => rfl

/-- White space, the decimal text of an integer, and what does not go on with a digit. -/
theorem begins_intText
    {white : Char → Bool}
    {blank : List Char}
    (allWhite : ∀ c ∈ blank, white c = true)
    (n : Int)
    {rest : List Char}
    (ends : ∀ c, rest.head? = some c → isDigit c = false) :
    BeginsWith white (blank ++ ((intText n).toList ++ rest)) blank (signOf n) (natText n.natAbs).toList
      rest where
  spelled := by rw [toList_intText, List.append_assoc]
  blank := allWhite
  filled := by
    rw [toList_natText]
    exact Nat.toDigits_ne_nil
  digits := fun _ => isDigit_of_mem_natText
  ends := ends

theorem length_natText_le
    {n : Nat}
    (small : n < 10 ^ integerDigitLimit) :
    (natText n).toList.length ≤ integerDigitLimit := by
  rw [toList_natText]
  exact (Nat.length_toDigits_le_iff (by decide) (by decide)).mpr small

/--
What a decimal conversion makes of a value:

* A value that begins with white space, an optional sign, and a run of at most 4300 digits gives the signed
  number that the run denotes, whatever comes behind the run. Leading zeros count for nothing but the limit.
* A value that does not begin like that, with a run of any length, is no number; nor is one that is not set.
* So the decimal text of an integer within the limit gives that integer, behind any white space and in front
  of anything that does not go on with a digit.
* The handler for variables answers a token for such a conversion with the number, whatever the value is, and
  throws nothing.
-/
theorem toDecimal_reads :
    (∀ (value : String) (blank : List Char) (sign : Sign) (digits rest : List Char),
      BeginsWith isBlank value.toList blank sign digits rest → digits.length ≤ integerDigitLimit →
        toDecimal (some value) = .int (sign.apply (placeValue digits))) ∧
    (∀ value : String,
      (∀ blank sign digits rest, ¬BeginsWith isBlank value.toList blank sign digits rest) →
        toDecimal (some value) = .float .nan) ∧
    toDecimal none = .float .nan ∧
    (∀ n : Int, n.natAbs < 10 ^ integerDigitLimit → ∀ blank rest : String,
      isBlankText blank = true → (∀ c, rest.toList.head? = some c → isDigit c = false) →
        toDecimal (some (blank ++ (intText n ++ rest))) = .int n) ∧
    ∀ (environment : Option (List (String × String))) (name : String) (host : Host),
      (Handler.env environment).call (EnvToken.spell name .decimal) host =
        .ok (.plain (Handler.convertedValue (.number (toDecimal (host.raw? environment name)))))
          (host.afterLookup environment name (EnvToken.spell name .decimal)) := by
  have reads (value : String) (blank : List Char) (sign : Sign) (digits rest : List Char)
      (begins : BeginsWith isBlank value.toList blank sign digits rest)
      (short : digits.length ≤ integerDigitLimit) :
      toDecimal (some value) = .int (sign.apply (placeValue digits)) := by
    rw [toDecimal_of_begins begins, numberOfRun_of_short sign short]
  refine ⟨reads, fun value => toDecimal_of_not_begins, rfl, ?_, fun environment name host => ?_⟩
  · intro n small blank rest allWhite ends
    have begins := begins_intText (isBlankText_iff.mp allWhite) n ends
    rw [← String.toList_append, ← String.toList_append] at begins
    rw [reads _ _ _ _ _ begins (length_natText_le small), placeValue_natText, apply_signOf]
  · rw [Handler.call_env, EnvToken.parse_spell]
    rfl

/-- White space outside ASCII, leading zeros, and a digit of another script behind the run. -/
theorem toDecimal_reads_spaced :
    BeginsWith isBlank "\u2003\t-0042٣px".toList "\u2003\t".toList .minus "0042".toList "٣px".toList ∧
      toDecimal (some "\u2003\t-0042٣px") = .int (-42) ∧
      toDecimal (some ("\u2003\t" ++ (intText (-42) ++ "٣px"))) = .int (-42) := by
  obtain ⟨reads, -, -, inverts, -⟩ := toDecimal_reads
  have begins :
      BeginsWith isBlank "\u2003\t-0042٣px".toList "\u2003\t".toList .minus "0042".toList "٣px".toList :=
    ⟨by decide, List.all_eq_true.mp (by decide), by decide, List.all_eq_true.mp (by decide), by simp; decide⟩
  have small : (-42 : Int).natAbs < 10 ^ integerDigitLimit :=
    Nat.lt_of_lt_of_le (by decide : 42 < 10 ^ 2) (Nat.pow_le_pow_right (by decide) (by decide))
  refine ⟨begins, ?_, inverts (-42) small "\u2003\t" "٣px" (by decide) (by simp; decide)⟩
  rw [reads _ _ _ _ _ begins (by decide), ← decimalValue_eq]
  decide

end EnvFilter

end ConfigTokens
