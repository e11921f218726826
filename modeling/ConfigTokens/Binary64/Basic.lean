import ConfigTokens.Text.Digits
/-!
# Binary floating point numbers

IEEE 754 binary64 numbers by meaning: not a number, an infinity, or a sign with a significand and an
exponent. `ofRatio` rounds a quotient of naturals to the nearest number, ties to the even one;
`ofDecimal` reads a decimal notation that way.
-/

namespace ConfigTokens

/--
A finite number is `significand * 2 ^ (exponent - 1074)` with its sign; the significand is below
`2 ^ 53` and, unless the exponent is zero, at least `2 ^ 52`.
-/
inductive Binary64 where
  | nan
  | infinity (negative : Bool)
  | finite (negative : Bool) (significand exponent : Nat)
  deriving DecidableEq, Repr

namespace Binary64

/-- A power of two. -/
abbrev twoTo
    (exponent : Nat) : Nat :=
  Nat.pow 2 exponent

/-- A power of ten. -/
abbrev tenTo
    (exponent : Nat) : Nat :=
  Nat.pow 10 exponent

/-- Zero with a sign. -/
def zero
    (negative : Bool) : Binary64 :=
  .finite negative 0 0

/-- The quotient rounded to the nearest natural number, a half to the even one. -/
def roundHalfEven
    (numerator denominator : Nat) : Nat :=
  let quotient := numerator / denominator
  let rest := 2 * (numerator % denominator)
  if rest < denominator || (rest = denominator && quotient % 2 = 0) then quotient else quotient + 1

/-- The number nearest to a quotient of naturals, with a sign. -/
def ofRatio
    (negative : Bool)
    (numerator denominator : Nat) : Binary64 :=
  let scaled := numerator * twoTo 1074
  let exponent := (scaled / denominator).log2 - 52
  let significand := roundHalfEven scaled (denominator * twoTo exponent)
  let (significand, exponent) :=
    if significand = twoTo 53 then (twoTo 52, exponent + 1) else (significand, exponent)
  if exponent ≤ 2045 then .finite negative significand exponent else .infinity negative

/--
The number nearest to the decimal digits times a power of ten. Beyond 400 places on either side of
the point the result is an infinity or zero, whatever the digits are.
-/
def ofDecimal
    (negative : Bool)
    (digits : List Char)
    (power : Int) : Binary64 :=
  let digits := digits.dropWhile (· == '0')
  let places := digits.length + power
  if digits = [] then zero negative
  else if 400 < places then .infinity negative
  else if places < -400 then zero negative
  else if 0 ≤ power then ofRatio negative (Text.decimalValue digits * tenTo power.toNat) 1
  else ofRatio negative (Text.decimalValue digits) (tenTo (-power).toNat)

/-- The 64 bits of a number; a quiet one stands for every number that is none. -/
def bits : Binary64 → Nat
  | .nan => 0x7FF8000000000000
  | .infinity negative => (if negative then twoTo 63 else 0) + 0x7FF0000000000000
  | .finite negative significand exponent =>
    (if negative then twoTo 63 else 0) + significand + exponent * twoTo 52

/-- The sign, which zero has too. -/
def isNegative : Binary64 → Bool
  | .nan => false
  | .infinity negative => negative
  | .finite negative _ _ => negative

end Binary64

end ConfigTokens
