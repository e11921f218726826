import ConfigTokens.Wildcard.Bracket
/-!
# Wildcard patterns

A pattern for a name: "*" stands for any characters, "?" for one character, and a bracket expression
for one character of a set; all else stands for itself. `Item.matches` decides a whole name. It works
from the back of the pattern with a table that says, for every tail of the name, whether the items seen
so far match it.
-/

namespace ConfigTokens.Wildcard

/-- A part of a pattern. -/
inductive Item where
  | anyText
  | one (set : CharSet)
  deriving DecidableEq, Repr

/-- The items of a pattern; a bracket that is not closed stands for itself. -/
def items : List Char → List Item
  | [] => []
  | c :: rest =>
    if c = '*' then .anyText :: items rest
    else if c = '?' then .one .all :: items rest
    else if c = '[' then
      match _closed : cutBracket rest with
      | some (body, after) => .one (CharSet.ofBody body) :: items after
      | none => .one ⟨false, [('[', '[')]⟩ :: items rest
    else .one ⟨false, [(c, c)]⟩ :: items rest
  termination_by text => text.length
  decreasing_by
    all_goals simp only [List.length_cons]
    any_goals omega
    have shorter := cutBracket_length _closed
    omega

/-- For each tail of a name, from the whole name down to the empty one: no item matches but the last. -/
def endTable : List Char → List Bool
  | [] => [true]
  | _ :: rest => false :: endTable rest

/-- The table with one more item in front. -/
def Item.extend
    (item : Item)
    (name : List Char)
    (table : List Bool) : List Bool :=
  match item with
  | .anyText => table.foldr (fun here after => (here || after.headD false) :: after) []
  | .one set => List.zipWith (fun c after => set.holds c && after) name table.tail ++ [false]

/-- The table of a list of items. -/
def table
    (found : List Item)
    (name : List Char) : List Bool :=
  found.foldr (fun item rows => item.extend name rows) (endTable name)

/-- The items match the whole name. -/
def Item.matchAll
    (found : List Item)
    (name : List Char) : Bool :=
  (table found name).headD false

/-- A pattern matches a whole name. -/
def accepts
    (pattern name : List Char) : Bool :=
  Item.matchAll (items pattern) name

/-- The pattern has a character with a special meaning. -/
def isMagic
    (pattern : List Char) : Bool :=
  pattern.any fun c => c = '*' || c = '?' || c = '['

end ConfigTokens.Wildcard
