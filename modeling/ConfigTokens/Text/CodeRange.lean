/-!
# Ranges of code points

Character classes of Unicode are kept as ascending lists of closed ranges of code points.
`CodeRange.covers` is membership in such a list, and `covers_iff` says so without the function.
-/

namespace ConfigTokens.Text

/-- A closed range of code points, first and last. -/
abbrev CodeRange :=
  Nat × Nat

namespace CodeRange

/-- A code point lies between the two ends. -/
def holds
    (range : CodeRange)
    (code : Nat) : Bool :=
  range.1 ≤ code && code ≤ range.2

@[simp]
theorem holds_iff
    (range : CodeRange)
    (code : Nat) :
    range.holds code = true ↔ range.1 ≤ code ∧ code ≤ range.2 := by
  simp [holds]

/-- Some range of the list holds the code point. -/
def covers
    (ranges : List CodeRange)
    (code : Nat) : Bool :=
  ranges.any (·.holds code)

theorem covers_iff
    {ranges : List CodeRange}
    {code : Nat} :
    covers ranges code = true ↔
      ∃ range ∈ ranges, range.1 ≤ code ∧ code ≤ range.2 := by
  simp [covers]

end CodeRange

end ConfigTokens.Text
