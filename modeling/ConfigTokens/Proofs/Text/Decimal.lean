import Mathlib.Data.List.Induction
import Mathlib.Data.Nat.Digits.Defs
import ConfigTokens.Text.Digits
/-!
# Decimal digits

A run of decimal digits denotes the number in which each digit stands at the power of ten of its place. Reading
the digits from the left gives that number (`decimalValue_eq`), and the decimal text of a number denotes it.
With a first digit other than zero, the number of digits bounds the number from below.
-/

namespace ConfigTokens.Text

theorem isDigit_iff
    {c : Char} :
    isDigit c = true ↔ 48 ≤ c.toNat ∧ c.toNat ≤ 57 := by
  simp [isDigit, Char.le_def, UInt32.le_iff_toNat_le]

/-- The number that digits denote, each of them at the power of ten of its place. -/
def placeValue
    (digits : List Char) : Nat :=
  Nat.ofDigits 10 (digits.reverse.map digitValue)

theorem placeValue_concat
    (front : List Char)
    (last : Char) :
    placeValue (front ++ [last]) = digitValue last + 10 * placeValue front := by
  rw [placeValue, List.reverse_concat, List.map_cons, Nat.ofDigits_cons]
  rfl

theorem placeValue_cons
    (first : Char)
    (more : List Char) :
    placeValue (first :: more) = placeValue more + 10 ^ more.length * digitValue first := by
  rw [placeValue, List.reverse_cons, List.map_append, Nat.ofDigits_append, List.length_map,
    List.length_reverse, List.map_singleton, Nat.ofDigits_singleton]
  rfl

/-- Zeros at the start count for nothing. -/
theorem placeValue_dropWhile
    (digits : List Char) :
    placeValue (digits.dropWhile (· == '0')) = placeValue digits := by
  induction digits with
  | nil => rfl
  | cons first more ih =>
      by_cases zero : first = '0'
      · subst zero
        rw [List.dropWhile_cons_of_pos rfl, ih, placeValue_cons]
        rfl
      · rw [List.dropWhile_cons_of_neg (by simpa using zero)]

/-- A number has at least the size of its first digit's place, if that digit is not zero. -/
theorem pow_le_placeValue_cons
    {first : Char}
    (digit : isDigit first = true)
    (some : first ≠ '0')
    (more : List Char) :
    10 ^ more.length ≤ placeValue (first :: more) := by
  have value : 1 ≤ digitValue first := by
    have code : first.toNat ≠ 48 := fun same => some (Char.toNat_inj.mp same)
    have low := (isDigit_iff.mp digit).1
    unfold digitValue
    omega
  rw [placeValue_cons]
  exact Nat.le_add_left_of_le (Nat.le_mul_of_pos_right _ value)

/-- The digits behind the leading zeros bound a number from below. -/
theorem pow_le_placeValue
    {digits : List Char}
    (allDigits : ∀ c ∈ digits, isDigit c = true)
    {places : Nat}
    (many : places < (digits.dropWhile (· == '0')).length) :
    10 ^ places ≤ placeValue digits := by
  obtain ⟨first, more, shape⟩ := List.exists_cons_of_length_pos (Nat.zero_lt_of_lt many)
  have member : first ∈ digits.dropWhile (· == '0') := shape ▸ List.mem_cons_self
  have digit := allDigits first ((List.dropWhile_sublist _).mem member)
  have some : first ≠ '0' := by
    have stopped := List.head?_dropWhile_not (· == '0') digits
    rw [shape] at stopped
    simpa using stopped
  rw [shape, List.length_cons] at many
  rw [← placeValue_dropWhile, shape]
  calc
    10 ^ places ≤ 10 ^ more.length := Nat.pow_le_pow_right (by decide) (Nat.le_of_lt_succ many)
    _ ≤ placeValue (first :: more) := pow_le_placeValue_cons digit some more

/-- Reading digits from the left gives every digit the power of ten of its place. -/
theorem decimalValue_eq
    (digits : List Char) :
    decimalValue digits = placeValue digits := by
  induction digits using List.reverseRecOn with
  | nil => rfl
  | append_singleton front last ih =>
      rw [placeValue_concat, ← ih, decimalValue, List.foldl_append]
      exact Nat.add_comm _ _

theorem toList_natText
    (n : Nat) :
    (natText n).toList = Nat.toDigits 10 n :=
  Nat.toList_repr

/-- The decimal text of a number denotes it. -/
theorem placeValue_natText
    (n : Nat) :
    placeValue (natText n).toList = n := by
  rw [← decimalValue_eq, toList_natText]
  exact Nat.ofDigitChars_ten_toDigits

theorem isDigit_of_mem_natText
    {n : Nat}
    {c : Char}
    (member : c ∈ (natText n).toList) :
    isDigit c = true := by
  rw [toList_natText] at member
  have digit := Nat.isDigit_of_mem_toDigits (by decide) (by decide) member
  simp only [Char.isDigit, Bool.and_eq_true, decide_eq_true_eq, ge_iff_le, UInt32.le_iff_toNat_le] at digit
  exact isDigit_iff.mpr digit

end ConfigTokens.Text
