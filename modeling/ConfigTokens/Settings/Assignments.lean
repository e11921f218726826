import ConfigTokens.Assoc
import ConfigTokens.Text.Blank
/-!
# Files of variable assignments

A file assigns values to names, one assignment a line: `NAME=value`, with an optional `export` before
the name and an optional comment behind the value. A value may stand in single or double quotes, which
keep line breaks and have escapes. A name without an equals sign has no value. A line that is none of
this is passed over. In values a reference in braces after a dollar sign is replaced by the value of a
variable, or by a default.
-/

namespace ConfigTokens.Assignments

open ConfigTokens.Text

/-- The end of a line. -/
def isBreak
    (c : Char) : Bool :=
  c = '\n' || c = '\r'

/-- White space within a line. -/
def isGap
    (c : Char) : Bool :=
  isBlank c && !isBreak c

/-- The text after `export` and white space, if it begins so. -/
def skipExport
    (text : List Char) : List Char :=
  let word := "export".toList
  if word.isPrefixOf text then
    match text.drop word.length with
    | c :: rest => if isGap c then rest.dropWhile isGap else text
    | [] => text
  else text

/-- A character of a name that stands without quotes. -/
def isNameChar
    (c : Char) : Bool :=
  !(c = '=' || c = '#' || isBlank c)

/-- Reads a name: none before a comment, in single quotes, or up to an equals sign or white space. -/
def cutName
    (text : List Char) : Option (Option (List Char) × List Char) :=
  match text with
  | '#' :: _ => some (none, text)
  | '\'' :: rest =>
    match rest.takeWhile (· != '\''), rest.dropWhile (· != '\'') with
    | name, '\'' :: after => if name = [] then none else some (some name, after)
    | _, _ => none
  | _ =>
    match text.takeWhile isNameChar with
    | [] => none
    | name => some (some name, text.dropWhile isNameChar)

/-- Reads up to the quote that ends a value; a backslash before a quote keeps it in the value. -/
def cutQuoted
    (quote : Char) :
    List Char → Option (List Char × List Char)
  | [] => none
  | '\\' :: d :: more =>
    if d = quote then
      match cutQuoted quote more with
      | some (value, after) => some ('\\' :: d :: value, after)
      | none => some (['\\'], more)
    else (cutQuoted quote (d :: more)).map fun (value, after) => ('\\' :: value, after)
  | c :: rest =>
    if c = quote then some ([], rest)
    else (cutQuoted quote rest).map fun (value, after) => (c :: value, after)

/-- The character that a letter stands for behind a backslash in double quotes. -/
def escaped? : Char → Option Char
  | '\\' => some '\\'
  | '\'' => some '\''
  | '"' => some '"'
  | 'a' => some '\x07'
  | 'b' => some '\x08'
  | 'f' => some '\x0c'
  | 'n' => some '\n'
  | 'r' => some '\r'
  | 't' => some '\t'
  | 'v' => some '\x0b'
  | _ => none

/-- A value in single quotes has escapes for the backslash and the quote alone. -/
def escapedSingle? : Char → Option Char
  | '\\' => some '\\'
  | '\'' => some '\''
  | _ => none

/-- A text with its escapes replaced; a backslash before anything else stays. -/
def unescape
    (escape? : Char → Option Char) :
    List Char → List Char
  | [] => []
  | '\\' :: c :: rest =>
    match escape? c with
    | some found => found :: unescape escape? rest
    | none => '\\' :: unescape escape? (c :: rest)
  | c :: rest => c :: unescape escape? rest

/-- A value without quotes ends before white space and a number sign, and has no white space at its end. -/
def trimComment : List Char → List Char
  | [] => []
  | c :: rest =>
    if isBlank c && (rest.dropWhile isBlank).head? = some '#' then [] else c :: trimComment rest

/-- Drops white space from the end. -/
def trimEnd
    (text : List Char) : List Char :=
  (text.reverse.dropWhile isBlank).reverse

/-- Reads a value. -/
def cutValue
    (text : List Char) : Option (List Char × List Char) :=
  match text with
  | '\'' :: rest =>
    (cutQuoted '\'' rest).map fun (value, after) => (unescape escapedSingle? value, after)
  | '"' :: rest =>
    (cutQuoted '"' rest).map fun (value, after) => (unescape escaped? value, after)
  | _ =>
    some (trimEnd (trimComment (text.takeWhile (!isBreak ·))), text.dropWhile (!isBreak ·))

/-- The text after a comment, if there is one, and the end of the line; or the text behind the comment. -/
def cutLineEnd
    (text : List Char) : Except (List Char) (List Char) :=
  let afterComment :=
    match text.dropWhile isGap with
    | '#' :: rest => rest.dropWhile (!isBreak ·)
    | _ => text
  match afterComment.dropWhile isGap with
  | [] => .ok []
  | '\r' :: '\n' :: rest => .ok rest
  | c :: rest => if isBreak c then .ok rest else .error afterComment

/-- An assignment; a name on its own has no value. -/
structure Assignment where
  name : String
  value : Option String
  deriving DecidableEq, Repr

/--
Reads a line that holds something: an assignment, or a comment. Where it is neither, the text is given
back from the place up to which it could be read.
-/
def cutLine
    (text : List Char) : Except (List Char) (Option Assignment × List Char) :=
  let start := skipExport text
  match cutName start with
  | none => .error start
  | some (name, rest) =>
    let assign (value : Option (List Char)) : Option Assignment :=
      name.map fun name => ⟨String.ofList name, value.map String.ofList⟩
    let finish (value : Option (List Char)) (rest : List Char) :
        Except (List Char) (Option Assignment × List Char) :=
      match cutLineEnd rest with
      | .ok rest => .ok (assign value, rest)
      | .error rest => .error rest
    match rest.dropWhile isGap with
    | '=' :: after =>
      let after := after.dropWhile isGap
      match cutValue after with
      | some (value, rest) => finish (some value) rest
      | none => .error after
    | rest => finish none rest

/-- The text after the end of the line. -/
def skipLine
    (text : List Char) : List Char :=
  (text.dropWhile (!isBreak ·)).tail

/-- The assignments of a text; each line takes a character, so the length bounds the lines. -/
def assignments : Nat → List Char → List Assignment
  | 0, _ => []
  | fuel + 1, text =>
    match text.dropWhile isBlank with
    | [] => []
    | start =>
      match cutLine start with
      | .ok (some found, rest) => found :: assignments fuel rest
      | .ok (none, rest) => assignments fuel rest
      | .error rest => assignments fuel (skipLine rest)

/-- A reference: its name, its default, and the text after it. -/
def cutReference
    (text : List Char) : Option (List Char × List Char × List Char) :=
  let isName (c : Char) : Bool := !(c = '\x7d' || c = ':')
  match text.dropWhile isName with
  | '\x7d' :: rest => some (text.takeWhile isName, [], rest)
  | ':' :: '-' :: after =>
    match after.dropWhile (· != '\x7d') with
    | '\x7d' :: rest => some (text.takeWhile isName, after.takeWhile (· != '\x7d'), rest)
    | _ => none
  | _ => none

/-- A value with its references replaced; each takes a character, so the length bounds the steps. -/
def substitute
    (lookup : String → Option String) :
    Nat → List Char → List Char
  | 0, text => text
  | _ + 1, [] => []
  | fuel + 1, c :: rest =>
    match c, rest with
    | '$', '\x7b' :: after =>
      match cutReference after with
      | some (name, default, more) =>
        ((lookup (String.ofList name)).map String.toList).getD default
          ++ substitute lookup fuel more
      | none => c :: substitute lookup fuel rest
    | _, _ => c :: substitute lookup fuel rest

/--
The variables of a text in the order of the last assignments. References see the assignments above and
then the environment; a name without a value is known and empty to them.
-/
def read
    (environment : List (String × String))
    (text : String) : List (String × Option String) :=
  (assignments text.length text.toList).foldl
    (fun known found =>
      let lookup (name : String) : Option String :=
        match known.lookup name with
        | some value => some (value.getD "")
        | none => environment.lookup name
      let value := found.value.map fun value =>
        String.ofList (substitute lookup value.length value.toList)
      Assoc.put known found.name value) []

end ConfigTokens.Assignments
