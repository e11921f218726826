import ConfigTokens.Binary64.Shortest
/-!
# Decimal text with a given number of places

A number is written with so many places after the point, in positional notation or with an exponent.
The exact value is rounded to the nearest such decimal, a tie to the even one.
-/

namespace ConfigTokens.Binary64

/-- The size of a finite number times a power of ten, rounded to a natural number. -/
def scaledDigits
    (significand exponent : Nat)
    (power : Int) : Nat :=
  let size := significand * twoTo exponent
  if 0 ≤ power then roundHalfEven (size * tenTo power.toNat) (twoTo 1074)
  else roundHalfEven size (twoTo 1074 * tenTo (-power).toNat)

/-- Digits with so many of them after a point; without places the point stands only on request. -/
def pointed
    (places : Nat)
    (keepPoint : Bool)
    (digits : List Char) : List Char :=
  let all := Text.padLeft (places + 1) '0' digits
  let whole := all.take (all.length - places)
  if places = 0 then if keepPoint then whole ++ ['.'] else whole
  else whole ++ '.' :: all.drop (all.length - places)

/-- The size of a finite number in positional notation. -/
def fixedText
    (significand exponent places : Nat)
    (keepPoint : Bool) : List Char :=
  pointed places keepPoint (Text.natText (scaledDigits significand exponent places)).toList

/-- The digits of a size, one more than there are places, and the exponent of the first one. -/
def leadingDigits
    (significand exponent places : Nat) : Nat × Int :=
  if significand = 0 then (0, 0)
  else
    let first := (Interval.around significand exponent).places - 1
    let digits := scaledDigits significand exponent (places - first)
    if digits = tenTo (places + 1) then (tenTo places, first + 1) else (digits, first)

/-- The size of a finite number with an exponent. -/
def exponentialText
    (significand exponent places : Nat)
    (keepPoint : Bool) : List Char :=
  let (digits, first) := leadingDigits significand exponent places
  pointed places keepPoint (Text.natText digits).toList ++ 'e' :: exponentText first

/-- Positional text without zeros at its end. -/
def dropZeros
    (text : List Char) : List Char :=
  if text.contains '.' then
    let kept := (text.reverse.dropWhile (· == '0')).reverse
    if kept.getLast? = some '.' then kept.dropLast else kept
  else text

/-- The size of a finite number with so many digits, in the shorter of the two notations. -/
def generalText
    (significand exponent digits : Nat)
    (keepZeros : Bool) : List Char :=
  let count := max 1 digits
  let (leading, first) := leadingDigits significand exponent (count - 1)
  let tidy (text : List Char) : List Char := if keepZeros then text else dropZeros text
  if -4 ≤ first && first < count then
    tidy (fixedText significand exponent (count - 1 - first).toNat keepZeros)
  else
    tidy (pointed (count - 1) keepZeros (Text.natText leading).toList) ++ 'e' :: exponentText first

end ConfigTokens.Binary64
