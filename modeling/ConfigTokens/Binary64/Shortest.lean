import ConfigTokens.Binary64.Basic
/-!
# Shortest decimal text

`shortest` finds the decimal with the fewest digits that reads back as the same number, and of those
the nearest. It works with exact naturals: for one digit, two digits and so on it tests the two
decimals next to the value, until one lies in the interval of values that round to the number.
-/

namespace ConfigTokens.Binary64

/-- Decimal digits as a natural number, times a power of ten. -/
structure Decimal where
  digits : Nat
  power : Int

/-- Two non-negative decimals compared through a common power of ten and of two. -/
private def scaleDecimal
    (decimal : Decimal) : Nat × Nat :=
  if 0 ≤ decimal.power then (decimal.digits * tenTo decimal.power.toNat, 1)
  else (decimal.digits, tenTo (-decimal.power).toNat)

/-- A positive number with the ends of the interval that rounds to it, all over `2 ^ 1076`. -/
structure Interval where
  low : Nat
  value : Nat
  high : Nat
  closed : Bool

namespace Interval

/-- The interval of a positive significand and its exponent. -/
def around
    (significand exponent : Nat) : Interval where
  low := (4 * significand - if significand = twoTo 52 && 0 < exponent then 1 else 2) * twoTo exponent
  value := 4 * significand * twoTo exponent
  high := (4 * significand + 2) * twoTo exponent
  closed := significand % 2 = 0

/-- The decimal lies in the interval. -/
def contains
    (interval : Interval)
    (decimal : Decimal) : Bool :=
  let (top, bottom) := scaleDecimal decimal
  let point := top * twoTo 1076
  if interval.closed then
    interval.low * bottom ≤ point && point ≤ interval.high * bottom
  else interval.low * bottom < point && point < interval.high * bottom

/-- The number of decimal places before the point: the least `k` with the value below `10 ^ k`. -/
def places
    (interval : Interval) : Int :=
  let guess : Int := ((interval.value.log2 : Int) - 1076) * 30103 / 100000
  let below (k : Int) : Bool :=
    let (top, bottom) := scaleDecimal ⟨1, k⟩
    interval.value * bottom < top * twoTo 1076
  if below (guess - 1) then guess - 1
  else if below guess then guess
  else if below (guess + 1) then guess + 1
  else guess + 2

/-- The decimals with so many digits next to the value, from below and from above. -/
def neighbours
    (interval : Interval)
    (count : Nat) : Decimal × Decimal :=
  let power := interval.places - count
  let quotient :=
    if 0 ≤ power then interval.value / (twoTo 1076 * tenTo power.toNat)
    else interval.value * tenTo (-power).toNat / twoTo 1076
  (⟨quotient, power⟩, ⟨quotient + 1, power⟩)

/-- The lower of two neighbours is nearer to the value, or as near and even. -/
def prefersLower
    (interval : Interval)
    (lower upper : Decimal) : Bool :=
  let (lowTop, bottom) := scaleDecimal lower
  let (highTop, _) := scaleDecimal upper
  let below := interval.value * bottom - lowTop * twoTo 1076
  let above := highTop * twoTo 1076 - interval.value * bottom
  below < above || (below = above && lower.digits % 2 = 0)

/-- The better of the decimals with so many digits that lie in the interval. -/
def candidate
    (interval : Interval)
    (count : Nat) : Option Decimal :=
  let (lower, upper) := interval.neighbours count
  match interval.contains lower, interval.contains upper with
  | true, true => some (if interval.prefersLower lower upper then lower else upper)
  | true, false => some lower
  | false, true => some upper
  | false, false => none

end Interval

/-- The shortest decimal of a positive number; seventeen digits always suffice. -/
def shortest
    (significand exponent : Nat) : Decimal :=
  let interval := Interval.around significand exponent
  match (List.range 17).findSome? fun count => interval.candidate (count + 1) with
  | some decimal => decimal
  | none => (interval.neighbours 17).1

/-- The digits without zeros at the end, and the place of the point counted from their start. -/
def Decimal.parts
    (decimal : Decimal) : List Char × Int :=
  let all := (Text.natText decimal.digits).toList
  ((all.reverse.dropWhile (· == '0')).reverse, all.length + decimal.power)

/-- An exponent with its sign and at least two digits. -/
def exponentText
    (exponent : Int) : List Char :=
  (if exponent < 0 then '-' else '+')
    :: Text.padLeft 2 '0' (Text.natText exponent.natAbs).toList

/-- Digits in positional notation from `10 ^ -4` up to `10 ^ 16`, otherwise with an exponent. -/
def layout
    (digits : List Char)
    (point : Int) : List Char :=
  if -4 < point && point ≤ 16 then
    if point ≤ 0 then '0' :: '.' :: List.replicate (-point).toNat '0' ++ digits
    else
      let whole := Text.padRight point.toNat '0' (digits.take point.toNat)
      let part := digits.drop point.toNat
      whole ++ '.' :: (if part = [] then ['0'] else part)
  else
    match digits with
    | [] => []
    | [d] => d :: 'e' :: exponentText (point - 1)
    | d :: more => d :: '.' :: more ++ 'e' :: exponentText (point - 1)

/-- The shortest text that reads back as the number. -/
def text : Binary64 → String
  | .nan => "nan"
  | .infinity negative => if negative then "-inf" else "inf"
  | .finite negative significand exponent =>
    let body :=
      if significand = 0 then ['0', '.', '0']
      else
        let (digits, point) := (shortest significand exponent).parts
        layout digits point
    String.ofList (if negative then '-' :: body else body)

end ConfigTokens.Binary64
