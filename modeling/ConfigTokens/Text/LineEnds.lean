/-!
# Line ends

Text from a file may end its lines in a line feed, a carriage return, or both.
-/

namespace ConfigTokens.Text

/-- Line ends of any kind become line feeds. -/
def unifyLineEnds : List Char → List Char
  | [] => []
  | '\r' :: '\n' :: rest => '\n' :: unifyLineEnds rest
  | '\r' :: rest => '\n' :: unifyLineEnds rest
  | c :: rest => c :: unifyLineEnds rest

end ConfigTokens.Text
