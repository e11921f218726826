import ConfigTokens.Json.Reader
import ConfigTokens.Json.Writer
import ConfigTokens.Proofs.Text.Decimal
/-!
# Reading strings and integers that were written

A character that stands for itself in a string is read as it is, and each escape is read as the character that
was escaped. The digits of an integer are read up to the first character that is none, so what follows an
integer may not go on with it.
-/

namespace ConfigTokens

open ConfigTokens.Text

theorem Text.hexDigitValue?_hexDigit
    {value : Nat}
    (small : value < 16) :
    hexDigitValue? (hexDigit value) = some value := by
  have all : ∀ digit : Fin 16, hexDigitValue? (hexDigit digit) = some digit.val := by decide
  exact all ⟨value, small⟩

namespace Json

/-! ## Strings -/

section

variable {start offset : Nat}
variable {read rest : List Char}
variable {c : Char}

theorem readString_of_plain
    (noQuote : c ≠ '"')
    (noEscape : c ≠ '\\')
    (printable : ¬c.toNat < 0x20) :
    readString start read (c :: rest) offset = readString start (c :: read) rest (offset + 1) := by
  rw [readString]
  · exact if_neg printable
  · exact noQuote
  · exact fun escape _ => noEscape escape
  · exact fun _ escape _ => noEscape escape
  · exact fun _ _ escape _ => noEscape escape

theorem readString_of_short
    {mark : Char}
    (escapes : shortEscape? mark = some c) :
    readString start read ('\\' :: mark :: rest) offset =
      readString start (c :: read) rest (offset + 2) := by
  have short : mark ≠ 'u' := by
    rintro rfl
    cases escapes
  rw [readString]
  · rw [escapes]
  · exact short

/-- Four hexadecimal digits are read as the number that was written. -/
theorem hexQuad?_hexDigits
    {code : Nat}
    (small : code < 0x10000) :
    ∃ a b c d, hexDigits 4 code = [a, b, c, d] ∧ hexQuad? a b c d = some code := by
  refine ⟨_, _, _, _, rfl, ?_⟩
  unfold hexQuad?
  simp only [hexDigitValue?_hexDigit (Nat.mod_lt _ (by decide : 0 < 16)), Option.bind_eq_bind,
    Option.bind_some, Option.pure_def, Option.some.injEq]
  omega

theorem isHighSurrogate_of_control
    {code : Nat}
    (control : code < 0x20) :
    isHighSurrogate code = false := by
  unfold isHighSurrogate
  rw [decide_eq_false (by omega)]
  rfl

theorem codeChar_of_control
    (control : c.toNat < 0x20) :
    codeChar c.toNat = c := by
  have low : isLowSurrogate c.toNat = false := by
    unfold isLowSurrogate
    rw [decide_eq_false (by omega)]
    rfl
  unfold codeChar
  rw [isHighSurrogate_of_control control, low]
  exact Char.ofNat_toNat c

/-- The code of a control character begins no pair, so what follows it is left alone. -/
theorem codeEscape_of_control
    (control : c.toNat < 0x20)
    (more : rest ≠ []) :
    codeEscape (hexDigits 4 c.toNat ++ rest) offset = .ok (c, 4) := by
  obtain ⟨first, second, third, fourth, digits, value⟩ :=
    hexQuad?_hexDigits (Nat.lt_trans control (by decide : 0x20 < 0x10000))
  obtain ⟨next, later, rfl⟩ := List.exists_cons_of_ne_nil more
  rw [digits]
  simp only [List.cons_append, List.nil_append, codeEscape, value]
  split
  · rw [isHighSurrogate_of_control control, if_neg Bool.false_ne_true, codeChar_of_control control]
  · rw [codeChar_of_control control]

theorem readString_of_code
    (control : c.toNat < 0x20)
    (more : rest ≠ []) :
    readString start read ('\\' :: 'u' :: (hexDigits 4 c.toNat ++ rest)) offset =
      readString start (c :: read) rest (offset + 6) := by
  have behind : (hexDigits 4 c.toNat ++ rest).drop 4 = rest :=
    List.drop_left' (length_hexDigits 4 c.toNat)
  rw [readString, codeEscape_of_control control more]
  dsimp only
  rw [behind]

end

/-- A character is written as a short escape, by its code, or as it is. -/
inductive Writing (c : Char) : List Char → Prop where
  | short {mark : Char} :
      shortEscape? mark = some c → Writing c ['\\', mark]
  | code :
      c.toNat < 0x20 → Writing c ('\\' :: 'u' :: hexDigits 4 c.toNat)
  | plain :
      c ≠ '"' → c ≠ '\\' → ¬c.toNat < 0x20 → Writing c [c]

theorem writing_writeChar
    (c : Char) :
    Writing c (writeChar c) := by
  by_cases marked : c = '"' ∨ c = '\\' ∨ c = '\n' ∨ c = '\r' ∨ c = '\t' ∨ c = '\x08' ∨ c = '\x0c'
  · rcases marked with rfl | rfl | rfl | rfl | rfl | rfl | rfl
    all_goals exact .short rfl
  · simp only [not_or] at marked
    obtain ⟨noQuote, noEscape, noFeed, noReturn, noTab, noBack, noPage⟩ := marked
    unfold writeChar
    rw [if_neg noQuote, if_neg noEscape, if_neg noFeed, if_neg noReturn, if_neg noTab, if_neg noBack,
      if_neg noPage]
    split
    case isTrue control => exact .code control
    case isFalse printable => exact .plain noQuote noEscape printable

theorem ne_of_control
    {control other : Char}
    (small : control.toNat < 0x20)
    (printable : ¬other.toNat < 0x20) :
    control ≠ other := by
  rintro rfl
  exact printable small

/-- No control character is written inside a string. -/
theorem Writing.not_mem_of_control
    {c control : Char}
    {written : List Char}
    (writing : Writing c written)
    (small : control.toNat < 0x20) :
    control ∉ written := by
  cases writing with
  | @short mark escapes =>
      have marked : control ≠ mark := by
        rintro rfl
        unfold shortEscape? at escapes
        split at escapes
        case h_9 => cases escapes
        all_goals exact absurd small (by decide)
      simp [ne_of_control small (show ¬ '\\'.toNat < 0x20 by decide), marked]
  | code _ =>
      simp only [List.mem_cons, not_or]
      refine ⟨ne_of_control small (by decide), ne_of_control small (by decide), fun member => ?_⟩
      obtain ⟨digit, below, rfl⟩ := exists_of_mem_hexDigits member
      have all : ∀ digit : Fin 16, ¬(hexDigit digit).toNat < 0x20 := by decide
      exact all ⟨digit, below⟩ small
  | plain _ _ printable =>
      rw [List.mem_singleton]
      exact ne_of_control small printable

theorem not_mem_writeString
    {control : Char}
    (small : control.toNat < 0x20)
    (text : String) :
    control ∉ writeString text := by
  have quote : control ≠ '"' := ne_of_control small (by decide)
  unfold writeString
  simp only [List.cons_append, List.mem_cons, List.mem_append, List.mem_flatMap, List.not_mem_nil, or_false,
    not_or]
  refine ⟨quote, ?_, quote⟩
  rintro ⟨c, -, member⟩
  exact (writing_writeChar c).not_mem_of_control small member

section

variable {start offset : Nat}
variable {read rest : List Char}
variable {c : Char}

/-- A character that was written is read, however it was written. -/
theorem Writing.readString
    {written : List Char}
    (writing : Writing c written)
    (more : rest ≠ []) :
    ∃ later,
      Json.readString start read (written ++ rest) offset =
        Json.readString start (c :: read) rest later := by
  cases writing with
  | short escapes => exact ⟨_, readString_of_short escapes⟩
  | code control => exact ⟨_, readString_of_code control more⟩
  | plain noQuote noEscape printable => exact ⟨_, readString_of_plain noQuote noEscape printable⟩

/-- The characters of a string are read up to the quote that closes it. -/
theorem readString_write
    (text : List Char) :
    ∃ later,
      readString start read (text.flatMap writeChar ++ '"' :: rest) offset =
        .ok (String.ofList (read.reverse ++ text), rest, later) := by
  induction text generalizing read offset with
  | nil =>
      refine ⟨offset + 1, ?_⟩
      rw [List.flatMap_nil, List.nil_append, readString, List.append_nil]
  | cons c text ih =>
      have more : text.flatMap writeChar ++ '"' :: rest ≠ [] :=
        List.append_ne_nil_of_right_ne_nil _ (List.cons_ne_nil '"' rest)
      obtain ⟨next, one⟩ := (writing_writeChar c).readString more
      obtain ⟨later, others⟩ := ih
      refine ⟨later, ?_⟩
      rw [List.flatMap_cons, List.append_assoc, one, others, List.reverse_cons, List.append_assoc]
      rfl

end

/-- A string that was written is read behind its opening quote. -/
theorem exists_readString
    (text : String)
    (rest : List Char) :
    ∃ inner, writeString text ++ rest = '"' :: inner ∧
      ∀ start offset, ∃ later, readString start [] inner offset = .ok (text, rest, later) := by
  refine ⟨text.toList.flatMap writeChar ++ '"' :: rest, ?_, fun start offset => ?_⟩
  · rw [writeString, List.cons_append, List.cons_append, List.append_assoc]
    rfl
  · obtain ⟨later, read⟩ := @readString_write start offset [] rest text.toList
    refine ⟨later, read.trans ?_⟩
    rw [List.reverse_nil, List.nil_append, String.ofList_toList]

/-! ## Integers -/

theorem natText_ne_nil
    (number : Nat) :
    (natText number).toList ≠ [] := by
  rw [toList_natText]
  exact Nat.toDigits_ne_nil

theorem exists_digit_natText
    (number : Nat) :
    ∃ first more, (natText number).toList = first :: more ∧ isDigit first = true := by
  obtain ⟨first, more, shape⟩ := List.exists_cons_of_ne_nil (natText_ne_nil number)
  exact ⟨first, more, shape, isDigit_of_mem_natText (shape ▸ List.mem_cons_self)⟩

theorem toList_intText_negSucc
    (size : Nat) :
    (intText (.negSucc size)).toList = '-' :: (natText (size + 1)).toList := by
  simp [intText]

/-- The text of an integer begins with a minus sign or a digit. -/
theorem exists_lead_intText
    (number : Int) :
    ∃ c more, (intText number).toList = c :: more ∧ (c = '-' ∨ isDigit c = true) := by
  cases number with
  | ofNat size =>
      obtain ⟨first, more, shape, digit⟩ := exists_digit_natText size
      exact ⟨first, more, shape, .inr digit⟩
  | negSucc size => exact ⟨'-', _, toList_intText_negSucc size, .inl rfl⟩

/-- The decimal text of a number that is not zero begins with another digit. -/
theorem head?_natText
    {number : Nat}
    (positive : 0 < number) :
    (natText number).toList.head? ≠ some '0' := by
  rw [toList_natText]
  induction number using Nat.strongRecOn with
  | ind number ih =>
      by_cases single : number < 10
      · have all : ∀ digit : Fin 10, 0 < digit.val → digit.val.digitChar ≠ '0' := by decide
        rw [Nat.toDigits_of_lt_base single]
        intro zero
        exact all ⟨number, single⟩ positive (Option.some.inj zero)
      · have front : 0 < number / 10 := by omega
        have some : Nat.toDigits 10 (number / 10) ≠ [] := Nat.toDigits_ne_nil
        rw [Nat.toDigits_of_base_le (by decide) (by omega), List.head?_append,
          List.head?_eq_some_head some, Option.some_or, ← List.head?_eq_some_head some]
        exact ih (number / 10) (by omega) front

/-- A text begins with no part of a number: with a character that closes or goes on, or with none. -/
def Closes
    (rest : List Char) : Prop :=
  ∀ c, rest.head? = some c → c = ',' ∨ c = ']' ∨ c = '}'

section

variable {rest : List Char}

theorem Closes.takeWhile
    (closes : Closes rest) :
    rest.takeWhile isDigit = [] ∧ rest.dropWhile isDigit = rest := by
  cases rest with
  | nil => exact ⟨rfl, rfl⟩
  | cons c more =>
      have other : isDigit c = false := by
        rcases closes c rfl with rfl | rfl | rfl
        all_goals rfl
      constructor
      · rw [List.takeWhile_cons_of_neg (by simp [other])]
      · rw [List.dropWhile_cons_of_neg (by simp [other])]

theorem Closes.cutFraction
    (closes : Closes rest) :
    cutFraction rest = none := by
  cases rest with
  | nil => rfl
  | cons c more =>
      rcases closes c rfl with rfl | rfl | rfl
      all_goals rfl

theorem Closes.cutExponent
    (closes : Closes rest) :
    cutExponent rest = none := by
  cases rest with
  | nil => rfl
  | cons c more =>
      rcases closes c rfl with rfl | rfl | rfl
      all_goals rfl

/-- The digits of a number are cut off as a whole. -/
theorem cutWhole_natText
    (closes : Closes rest)
    (number : Nat) :
    cutWhole ((natText number).toList ++ rest) = some ((natText number).toList, rest) := by
  have digits : ∀ c ∈ (natText number).toList, isDigit c = true := fun _ => isDigit_of_mem_natText
  have some := natText_ne_nil number
  rcases Nat.eq_zero_or_pos number with rfl | positive
  · rfl
  · unfold cutWhole
    split
    · next whole =>
        have lead := congrArg List.head? whole
        rw [List.head?_append, List.head?_eq_some_head some, Option.some_or,
          ← List.head?_eq_some_head some] at lead
        exact absurd lead (head?_natText positive)
    · rw [List.takeWhile_append_of_pos digits, List.dropWhile_append_of_pos digits, closes.takeWhile.1,
        closes.takeWhile.2, List.append_nil]
      split
      · next empty => exact absurd empty some
      · rfl

variable {limit : DigitLimit}

theorem readNumber_natText
    (closes : Closes rest)
    (negative : Bool)
    {number : Nat}
    (allowed : limit.allows (natText number).length = true) :
    readNumber limit negative ((natText number).toList ++ rest) =
      some (.ok (.int (if negative then -(number : Int) else number), rest)) := by
  have denotes : decimalValue (natText number).toList = number := by
    rw [decimalValue_eq, placeValue_natText]
  unfold readNumber
  rw [cutWhole_natText closes]
  dsimp only
  rw [closes.cutFraction]
  simp only [Option.map_none, Option.getD_none, closes.cutExponent, Option.isNone_none, Bool.and_self,
    if_true, String.length_toList, allowed, denotes]

variable {text left : List Char}
variable {offset : Nat}
variable {value : Json}

theorem readScalar_of_digit
    {c : Char}
    (digit : isDigit c = true)
    (number : readNumber limit false (c :: text) = some (.ok (value, left))) :
    ∃ later, readScalar limit (c :: text) offset = .ok (value, left, later) := by
  refine ⟨offset + ((c :: text).length - left.length), ?_⟩
  unfold readScalar
  split
  case h_7 =>
      dsimp only
      rw [number]
      rfl
  all_goals
    rename_i same
    cases same
    exact absurd digit (by decide)

theorem readScalar_of_minus
    {c : Char}
    (digit : isDigit c = true)
    (number : readNumber limit true (c :: text) = some (.ok (value, left))) :
    ∃ later, readScalar limit ('-' :: c :: text) offset = .ok (value, left, later) := by
  refine ⟨offset + (('-' :: c :: text).length - left.length), ?_⟩
  have noWord : cutWord "-Infinity".toList ('-' :: c :: text) = none := by
    have other : c ≠ 'I' := by
      rintro rfl
      exact absurd digit (by decide)
    simp [cutWord, List.isPrefixOf, other.symm]
  unfold readScalar
  simp only [noWord, number]
  rfl

/-- An integer that was written is read up to where it ends. -/
theorem readScalar_intText
    (closes : Closes rest)
    {number : Int}
    (allowed : limit.allows (digitCount number) = true) :
    ∃ later,
      readScalar limit ((intText number).toList ++ rest) offset = .ok (.int number, rest, later) := by
  cases number with
  | ofNat size =>
      obtain ⟨first, more, shape, digit⟩ := exists_digit_natText size
      have read := @readNumber_natText rest limit closes false size allowed
      rw [shape, List.cons_append] at read
      change ∃ later, readScalar limit ((natText size).toList ++ rest) offset = _
      rw [shape]
      exact readScalar_of_digit digit read
  | negSucc size =>
      obtain ⟨first, more, shape, digit⟩ := exists_digit_natText (size + 1)
      have read := @readNumber_natText rest limit closes true (size + 1) allowed
      rw [shape, List.cons_append] at read
      rw [toList_intText_negSucc, shape]
      exact readScalar_of_minus digit read

end

end Json

end ConfigTokens
