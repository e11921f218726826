import ConfigTokens.Text.CodeRange
/-!
# White space

The white space of text: the controls between tab and carriage return, the four information
separators, and every Unicode character of bidirectional type white space or separator. It is what
stripping removes and what may stand before a number.
-/

namespace ConfigTokens.Text

/-- The ranges of white space; they hold 29 characters. -/
def blankRanges : List CodeRange := [
  (0x9, 0xD), (0x1C, 0x20), (0x85, 0x85), (0xA0, 0xA0), (0x1680, 0x1680), (0x2000, 0x200A),
  (0x2028, 0x2029), (0x202F, 0x202F), (0x205F, 0x205F), (0x3000, 0x3000)]

/-- A white space character. -/
def isBlank
    (c : Char) : Bool :=
  CodeRange.covers blankRanges c.toNat

/-- A text without any character that is not white space. -/
def isBlankText
    (text : String) : Bool :=
  text.toList.all isBlank

theorem isBlankText_iff
    {text : String} :
    isBlankText text = true ↔ ∀ c ∈ text.toList, isBlank c = true := by
  simp [isBlankText]

end ConfigTokens.Text
