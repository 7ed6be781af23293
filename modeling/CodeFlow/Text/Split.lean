/-!
# Pieces of a text

A text is cut at every occurrence of a separator. There is always one piece more than there are
separators, so that a text without any is one piece.
-/

namespace CodeFlow.Text

/-- A text cut at every occurrence of a character. -/
def splitOn (sep : Char) : List Char → List (List Char)
  | [] => [[]]
  | c :: cs =>
    if c = sep then [] :: splitOn sep cs
    else
      match splitOn sep cs with
      | [] => [[c]]
      | piece :: pieces => (c :: piece) :: pieces

end CodeFlow.Text
