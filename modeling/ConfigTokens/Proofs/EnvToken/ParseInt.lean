import ConfigTokens.Proofs.EnvToken.Integer
/-!
# Decimal conversions and parseInt

`parseInt` with the base ten is another reader of the integer at the start of a text: it skips white space,
reads a sign, and takes digits as they come, each of them ten times what stands before it. It shares the signs
and the digits with a decimal conversion, but not the white space. A decimal conversion also skips the four
information separators and the next line character, which are no white space there; and it does not skip the
byte order mark, which is.

So both read the same integer, or none, exactly if the white space in front of the integer is white space for
both of them or for neither (`toDecimal_eq_parseInt_iff`).
-/

namespace ConfigTokens

namespace Text

/-! ## Another class of white space -/

/-- The ranges of the white space and the line ends that `parseInt` skips: the controls between tab and carriage
return, the space separators, the line and the paragraph separator, and the byte order mark. -/
def skippedRanges : List CodeRange := [
  (0x9, 0xD), (0x20, 0x20), (0xA0, 0xA0), (0x1680, 0x1680), (0x2000, 0x200A), (0x2028, 0x2029),
  (0x202F, 0x202F), (0x205F, 0x205F), (0x3000, 0x3000), (0xFEFF, 0xFEFF)]

/-- A character that `parseInt` skips. -/
def isSkipped
    (c : Char) : Bool :=
  CodeRange.covers skippedRanges c.toNat

/-- White space of either class. -/
def isBlankOrSkipped
    (c : Char) : Bool :=
  isBlank c || isSkipped c

/-- The information separators, the next line character and the byte order mark. -/
def isDisputed
    (c : Char) : Bool :=
  c.toNat ∈ [0x1C, 0x1D, 0x1E, 0x1F, 0x85, 0xFEFF]

/-- The two classes differ in six characters. -/
theorem isBlank_ne_isSkipped_iff
    (c : Char) :
    isBlank c ≠ isSkipped c ↔ isDisputed c = true := by
  rw [ne_eq, Bool.eq_iff_iff, isBlank, isSkipped, isDisputed, CodeRange.covers_iff, CodeRange.covers_iff,
    decide_eq_true_iff]
  simp only [blankRanges, skippedRanges, List.mem_cons, List.not_mem_nil, or_false, exists_eq_or_imp,
    exists_eq_left]
  omega

/-- White space of two classes is told from an integer if that of each of them is. -/
theorem IsSeparate.or
    {first second : Char → Bool}
    (a : IsSeparate first)
    (b : IsSeparate second) :
    IsSeparate fun c => first c || second c where
  digit := fun digit => by rw [a.digit digit, b.digit digit, Bool.or_false]
  plus := by rw [a.plus, b.plus, Bool.or_false]
  minus := by rw [a.minus, b.minus, Bool.or_false]

/-- The same integer behind white space that is of another class too. -/
theorem BeginsWith.of_blank
    {first second : Char → Bool}
    {text blank : List Char}
    {sign : Sign}
    {digits rest : List Char}
    (begins : BeginsWith first text blank sign digits rest)
    (white : ∀ c ∈ blank, second c = true) :
    BeginsWith second text blank sign digits rest :=
  ⟨begins.spelled, white, begins.filled, begins.digits, begins.ends⟩

end Text

namespace EnvFilter

open ConfigTokens.Text

theorem isSkipped_isSeparate :
    IsSeparate isSkipped :=
  isSeparate_of_apart (show ∀ range ∈ skippedRanges, range.2 < 43 ∨ 57 < range.1 by decide)

theorem isBlankOrSkipped_isSeparate :
    IsSeparate isBlankOrSkipped :=
  isBlank_isSeparate.or isSkipped_isSeparate

theorem isBlankOrSkipped_of_isBlank
    {c : Char}
    (white : isBlank c = true) :
    isBlankOrSkipped c = true := by
  rw [isBlankOrSkipped, white, Bool.true_or]

theorem isBlankOrSkipped_of_isSkipped
    {c : Char}
    (white : isSkipped c = true) :
    isBlankOrSkipped c = true := by
  rw [isBlankOrSkipped, white, Bool.or_true]

/-! ## Reading digits as they come -/

/-- The number that digits denote behind those that are read, if there are any. -/
def readDigits
    (read : Option Nat) : List Char → Option Nat
  | [] => read
  | c :: rest => if isDigit c then readDigits (some (10 * read.getD 0 + digitValue c)) rest else read

/-- The integer at the start of a text: what the digits denote behind white space and a sign. -/
def parseInt
    (text : String) : Option Int :=
  let (negative, rest) := cutSign (text.toList.dropWhile isSkipped)
  (readDigits none rest).map fun value : Nat => if negative then -(value : Int) else value

theorem readDigits_some
    (value : Nat)
    (text : List Char) :
    readDigits (some value) text =
      some ((text.takeWhile isDigit).foldl (fun value c => 10 * value + digitValue c) value) := by
  induction text generalizing value with
  | nil => rfl
  | cons c rest ih =>
      by_cases digit : isDigit c = true
      · rw [readDigits, if_pos digit, ih, List.takeWhile_cons_of_pos digit, List.foldl_cons]
        rfl
      · rw [readDigits, if_neg digit, List.takeWhile_cons_of_neg digit]
        rfl

/-- The digits at the start of a text are read as the number that they denote. -/
theorem readDigits_none
    (text : List Char) :
    readDigits none text =
      if text.takeWhile isDigit = [] then none else some (placeValue (text.takeWhile isDigit)) := by
  cases text with
  | nil => rfl
  | cons c rest =>
      by_cases digit : isDigit c = true
      · rw [readDigits, if_pos digit, readDigits_some, List.takeWhile_cons_of_pos digit,
          if_neg (List.cons_ne_nil _ _), ← decimalValue_eq]
        rfl
      · rw [readDigits, if_neg digit, List.takeWhile_cons_of_neg digit]
        rfl

/-- `parseInt` scans the text and reads the run that it finds. -/
theorem parseInt_eq_scan
    (text : String) :
    parseInt text =
      if (scan isSkipped text.toList).2 = [] then none
      else
        some (if (scan isSkipped text.toList).1 then -(placeValue (scan isSkipped text.toList).2 : Int)
          else placeValue (scan isSkipped text.toList).2) := by
  unfold parseInt scan
  dsimp only
  rw [readDigits_none]
  by_cases found : ((cutSign (text.toList.dropWhile isSkipped)).2.takeWhile isDigit) = []
  · rw [if_pos found, if_pos found]
    rfl
  · rw [if_neg found, if_neg found]
    rfl

theorem parseInt_of_begins
    {text : String}
    {blank : List Char}
    {sign : Sign}
    {digits rest : List Char}
    (begins : BeginsWith isSkipped text.toList blank sign digits rest) :
    parseInt text = some (sign.apply (placeValue digits)) := by
  rw [parseInt_eq_scan, scan_of_begins isSkipped_isSeparate begins, if_neg begins.filled]
  rfl

/-- A text that does not begin with an integer is no number. -/
theorem parseInt_of_not_begins
    {text : String}
    (none : ∀ blank sign digits rest, ¬BeginsWith isSkipped text.toList blank sign digits rest) :
    parseInt text = .none := by
  rw [parseInt_eq_scan]
  refine if_pos (not_not.mp fun found => ?_)
  obtain ⟨blank, sign, rest, begins, -⟩ := exists_begins_of_scan found
  exact none _ _ _ _ begins

/-! ## Comparing readers -/

/-- A reader of integers that skips a class of white space gives a result for a text. -/
structure Reads
    (white : Char → Bool)
    (text : List Char)
    (result : Number) : Prop where
  integer :
    ∀ {blank sign digits rest},
      BeginsWith white text blank sign digits rest → result = .int (sign.apply (placeValue digits))
  nothing :
    (∀ blank sign digits rest, ¬BeginsWith white text blank sign digits rest) → result = .float .nan

/-- The number for what `parseInt` gives. -/
def ofParsed : Option Int → Number
  | none => .float .nan
  | some n => .int n

theorem reads_parseInt
    (text : String) :
    Reads isSkipped text.toList (ofParsed (parseInt text)) where
  integer := fun begins => by
    rw [parseInt_of_begins begins]
    rfl
  nothing := fun none => by
    rw [parseInt_of_not_begins none]
    rfl

/-- Up to the limit on digits, a decimal conversion reads the integer behind its white space. -/
theorem reads_toDecimal
    {value : String}
    (short :
      ∀ {blank sign digits rest},
        BeginsWith isBlank value.toList blank sign digits rest → digits.length ≤ integerDigitLimit) :
    Reads isBlank value.toList (toDecimal (some value)) where
  integer := fun begins => by
    rw [toDecimal_of_begins begins, numberOfRun_of_short _ (short begins)]
  nothing := toDecimal_of_not_begins

section

variable {narrow wide : Char → Bool}
variable {text blank : List Char}
variable {sign : Sign}
variable {digits rest : List Char}

/-- The white space in front of an integer is all that there is at the start. -/
theorem takeWhile_of_begins
    (separate : IsSeparate wide)
    (begins : BeginsWith wide text blank sign digits rest) :
    text.takeWhile wide = blank := by
  have cut := List.takeWhile_append_dropWhile (p := wide) (l := text)
  have spelled := begins.spelled
  rw [spelled, dropWhile_spelled separate sign begins.blank begins.filled begins.digits] at cut
  rw [spelled]
  exact List.append_cancel_right cut

variable (within : ∀ {c}, narrow c = true → wide c = true)

include within

theorem not_begins_of_wide
    (none : ∀ blank sign digits rest, ¬BeginsWith wide text blank sign digits rest)
    (blank : List Char)
    (sign : Sign)
    (digits rest : List Char) :
    ¬BeginsWith narrow text blank sign digits rest :=
  fun begins => none blank sign digits rest (begins.of_blank fun c member => within (begins.blank c member))

/-- A reader reads the integer behind white space of a wider class exactly if it skips all of it. -/
theorem Reads.eq_int_or_eq_nan
    (separate : IsSeparate wide)
    {result : Number}
    (reads : Reads narrow text result)
    (begins : BeginsWith wide text blank sign digits rest) :
    ((∀ c ∈ blank, narrow c = true) ∧ result = .int (sign.apply (placeValue digits))) ∨
      ((¬∀ c ∈ blank, narrow c = true) ∧ result = .float .nan) := by
  by_cases white : ∀ c ∈ blank, narrow c = true
  · exact .inl ⟨white, reads.integer (begins.of_blank white)⟩
  · refine .inr ⟨white, reads.nothing fun blank' sign' digits' rest' begins' => white ?_⟩
    have widened := begins'.of_blank fun c member => within (begins'.blank c member)
    rw [← takeWhile_of_begins separate begins, takeWhile_of_begins separate widened]
    exact begins'.blank

end

/-- The run that a value begins with is the only one. -/
theorem short_of_begins
    {text blank : List Char}
    {sign : Sign}
    {digits rest : List Char}
    (begins : BeginsWith isBlankOrSkipped text blank sign digits rest)
    (short : digits.length ≤ integerDigitLimit)
    {blank' : List Char}
    {sign' : Sign}
    {digits' rest' : List Char}
    (begins' : BeginsWith isBlankOrSkipped text blank' sign' digits' rest') :
    digits'.length ≤ integerDigitLimit := by
  have same :=
    (scan_of_begins isBlankOrSkipped_isSeparate begins').symm.trans
      (scan_of_begins isBlankOrSkipped_isSeparate begins)
  rw [(Prod.mk.inj same).2]
  exact short

/-- Readers of two classes give the same behind white space of both exactly if they both skip it or both do not. -/
theorem Reads.eq_iff
    {text blank : List Char}
    {sign : Sign}
    {digits rest : List Char}
    {converted parsed : Number}
    (converts : Reads isBlank text converted)
    (parses : Reads isSkipped text parsed)
    (begins : BeginsWith isBlankOrSkipped text blank sign digits rest) :
    converted = parsed ↔ ((∀ c ∈ blank, isBlank c = true) ↔ ∀ c ∈ blank, isSkipped c = true) := by
  have separate := isBlankOrSkipped_isSeparate
  rcases converts.eq_int_or_eq_nan isBlankOrSkipped_of_isBlank separate begins with
      ⟨blanks, rfl⟩ | ⟨blanks, rfl⟩ <;>
    rcases parses.eq_int_or_eq_nan isBlankOrSkipped_of_isSkipped separate begins with
      ⟨skips, rfl⟩ | ⟨skips, rfl⟩
  · exact iff_of_true rfl (iff_of_true blanks skips)
  · exact iff_of_false nofun fun same => skips (same.mp blanks)
  · exact iff_of_false nofun fun same => blanks (same.mpr skips)
  · exact iff_of_true rfl (iff_of_false blanks skips)

/--
Where a decimal conversion and `parseInt` agree, on a value whose run of digits behind white space of either class,
if there is one, has at most 4300 digits:

* They give the same exactly if the white space in front of the integer, if there is one, is all of the one class
  and all of the other, or neither.
* So they both read the integer if no character stands in front of it in which the classes differ.
* These are the four information separators, the next line character and the byte order mark.
-/
theorem toDecimal_eq_parseInt_iff
    {value : String}
    (short :
      ∀ {blank sign digits rest},
        BeginsWith isBlankOrSkipped value.toList blank sign digits rest → digits.length ≤ integerDigitLimit) :
    (toDecimal (some value) = ofParsed (parseInt value) ↔
      ∀ blank sign digits rest, BeginsWith isBlankOrSkipped value.toList blank sign digits rest →
        ((∀ c ∈ blank, isBlank c = true) ↔ ∀ c ∈ blank, isSkipped c = true)) ∧
    (∀ blank sign digits rest,
      BeginsWith isBlankOrSkipped value.toList blank sign digits rest → (∀ c ∈ blank, isDisputed c = false) →
        toDecimal (some value) = .int (sign.apply (placeValue digits)) ∧
          parseInt value = some (sign.apply (placeValue digits))) ∧
    ∀ c : Char, isBlank c ≠ isSkipped c ↔ isDisputed c = true := by
  have converts : Reads isBlank value.toList (toDecimal (some value)) :=
    reads_toDecimal fun begins =>
      short (begins.of_blank fun c member => isBlankOrSkipped_of_isBlank (begins.blank c member))
  have parses := reads_parseInt value
  refine ⟨⟨fun same blank sign digits rest begins => ?_, fun alike => ?_⟩, ?_, isBlank_ne_isSkipped_iff⟩
  · exact (converts.eq_iff parses begins).mp same
  · by_cases none : ∀ blank sign digits rest, ¬BeginsWith isBlankOrSkipped value.toList blank sign digits rest
    · rw [converts.nothing (not_begins_of_wide isBlankOrSkipped_of_isBlank none),
        parses.nothing (not_begins_of_wide isBlankOrSkipped_of_isSkipped none)]
    · obtain ⟨blank, sign, digits, rest, begins⟩ :
          ∃ blank sign digits rest, BeginsWith isBlankOrSkipped value.toList blank sign digits rest := by
        simpa using none
      exact (converts.eq_iff parses begins).mpr (alike _ _ _ _ begins)
  · intro blank sign digits rest begins undisputed
    have same (c : Char) (member : c ∈ blank) : isBlank c = isSkipped c :=
      not_not.mp fun differ => by
        have disputed := (isBlank_ne_isSkipped_iff c).mp differ
        rw [undisputed c member] at disputed
        cases disputed
    have blanks (c : Char) (member : c ∈ blank) : isBlank c = true := by
      have white := begins.blank c member
      rwa [isBlankOrSkipped, ← same c member, Bool.or_self] at white
    have skips (c : Char) (member : c ∈ blank) : isSkipped c = true :=
      (same c member).symm.trans (blanks c member)
    exact ⟨converts.integer (begins.of_blank blanks), parseInt_of_begins (begins.of_blank skips)⟩

/-- White space of both classes, and of each of them alone. -/
theorem toDecimal_eq_parseInt_iff_mixed :
    (toDecimal (some "\u3000-42px") = .int (-42) ∧ parseInt "\u3000-42px" = some (-42)) ∧
      toDecimal (some "\x1c\uFEFF42") = ofParsed (parseInt "\x1c\uFEFF42") := by
  have plain : BeginsWith isBlankOrSkipped "\u3000-42px".toList ['\u3000'] .minus ['4', '2'] ['p', 'x'] :=
    ⟨by decide, List.all_eq_true.mp (by decide), by decide, List.all_eq_true.mp (by decide), by simp; decide⟩
  have mixed :
      BeginsWith isBlankOrSkipped "\x1c\uFEFF42".toList ['\x1c', '\uFEFF'] .absent ['4', '2'] [] :=
    ⟨by decide, List.all_eq_true.mp (by decide), by decide, List.all_eq_true.mp (by decide), nofun⟩
  have neither :
      (∀ c ∈ ['\x1c', '\uFEFF'], isBlank c = true) ↔ ∀ c ∈ ['\x1c', '\uFEFF'], isSkipped c = true := by
    rw [← List.all_eq_true, ← List.all_eq_true]
    decide
  obtain ⟨-, read, -⟩ := toDecimal_eq_parseInt_iff (short_of_begins plain (by decide))
  obtain ⟨agree, -, -⟩ := toDecimal_eq_parseInt_iff (short_of_begins mixed (by decide))
  refine ⟨read _ _ _ _ plain (List.forall_mem_singleton.mpr (by decide)), agree.mpr ?_⟩
  intro blank sign digits rest begins
  rw [← takeWhile_of_begins isBlankOrSkipped_isSeparate begins,
    takeWhile_of_begins isBlankOrSkipped_isSeparate mixed]
  exact neither

/-- The byte order mark and the information separators are white space for one of the two readers. -/
theorem toDecimal_ne_parseInt :
    (parseInt "\uFEFF42" = some 42 ∧ toDecimal (some "\uFEFF42") = .float .nan) ∧
      parseInt "\x1c42" = none ∧ toDecimal (some "\x1c42") = .int 42 := by
  decide

end EnvFilter

end ConfigTokens
