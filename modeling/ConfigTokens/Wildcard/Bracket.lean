/-!
# Bracket expressions

A bracket expression lists characters and ranges between "[" and "]"; "!" at its start turns it round.
A hyphen makes a range of its neighbours unless one of them is missing; a range whose ends are the wrong
way round is taken out together with its ends. `CharSet.ofBody` reads the text between the brackets.
-/

namespace ConfigTokens.Wildcard

/-- A set of characters given by ranges, or all others. -/
structure CharSet where
  negated : Bool
  ranges : List (Char × Char)
  deriving DecidableEq, Repr

namespace CharSet

/-- The set of all characters. -/
def all : CharSet :=
  ⟨true, []⟩

/-- The character belongs to the set. -/
def holds
    (set : CharSet)
    (c : Char) : Bool :=
  set.negated != set.ranges.any fun range => range.1 ≤ c && c ≤ range.2

@[simp]
theorem all_holds
    (c : Char) :
    all.holds c = true := rfl

/-- A part of a body: a character that stands for itself, or a hyphen between the ends of a range. -/
inductive Mark where
  | char (c : Char)
  | through
  deriving DecidableEq, Repr

/-- What stands before and after the first hyphen that has at least `least` characters before it. -/
def cutHyphen : Nat → List Char → Option (List Char × List Char)
  | _, [] => none
  | 0, c :: rest =>
    if c = '-' then some ([], rest)
    else (cutHyphen 0 rest).map fun (front, back) => (c :: front, back)
  | least + 1, c :: rest => (cutHyphen least rest).map fun (front, back) => (c :: front, back)

/-- The pieces of a body between hyphens that make ranges; `fuel` is at least the body's length. -/
def pieces : Nat → Nat → List Char → List (List Char)
  | 0, _, body => [body]
  | fuel + 1, least, body =>
    match cutHyphen least body with
    | none => [body]
    | some (front, []) => [front ++ ['-']]
    | some (front, back) => front :: pieces fuel 2 back

/-- Takes out the ranges whose first end is greater than the last, from right to left. -/
def dropEmptyRanges : List (List Char) → List (List Char)
  | [] => []
  | piece :: rest =>
    match dropEmptyRanges rest with
    | [] => [piece]
    | next :: more =>
      match piece.getLast?, next.head? with
      | some low, some high =>
        if high < low then (piece.dropLast ++ next.tail) :: more else piece :: next :: more
      | _, _ => piece :: next :: more

/-- The marks of pieces, with a range between neighbours. -/
def marks : List (List Char) → List Mark
  | [] => []
  | [piece] => piece.map .char
  | piece :: rest => piece.map .char ++ .through :: marks rest

/-- The ranges of marks; a hyphen without two neighbours stands for itself. -/
def rangesOf : List Mark → List (Char × Char)
  | [] => []
  | .char low :: .through :: .char high :: rest => (low, high) :: rangesOf rest
  | .char c :: rest => (c, c) :: rangesOf rest
  | .through :: rest => ('-', '-') :: rangesOf rest

/-- The set that the text between brackets stands for. -/
def ofBody
    (body : List Char) : CharSet :=
  let least := if body.head? = some '!' then 2 else 1
  match marks (dropEmptyRanges (pieces body.length least body)) with
  | .char '!' :: rest => ⟨true, rangesOf rest⟩
  | found => ⟨false, rangesOf found⟩

end CharSet

/-- The text between a bracket that has been read and its closing bracket, and the text after it. -/
def cutBracket
    (text : List Char) : Option (List Char × List Char) :=
  let (mark, text) :=
    match text with
    | '!' :: rest => (['!'], rest)
    | _ => ([], text)
  let (first, text) :=
    match text with
    | ']' :: rest => ([']'], rest)
    | _ => ([], text)
  match text.dropWhile (· != ']') with
  | ']' :: rest => some (mark ++ first ++ text.takeWhile (· != ']'), rest)
  | _ => none

theorem cutBracket_length
    {text body rest : List Char}
    (cut : cutBracket text = some (body, rest)) :
    rest.length < text.length := by
  unfold cutBracket at cut
  have tail_le (p : Char → Bool) (l : List Char) : (l.dropWhile p).length ≤ l.length :=
    (List.dropWhile_sublist p).length_le
  have step (l : List Char) (body rest : List Char)
      (found : (match l.dropWhile (· != ']') with
        | ']' :: rest => some (body, rest)
        | _ => none) = some (body, rest)) : rest.length < l.length := by
    have bound := tail_le (· != ']') l
    split at found
    · next shape =>
      simp only [Option.some.injEq, Prod.mk.injEq, true_and] at found
      rw [shape] at bound
      subst found
      simp only [List.length_cons] at bound
      omega
    · cases found
  grind

end ConfigTokens.Wildcard
