/-!
# Lines

Lines are ended by the line feed alone. A text read from a file has its other line ends, a carriage
return with or without a line feed, turned into line feeds first.
-/

namespace Stencil.Text

def lineFeeds (s : List Char) : Nat := s.count '\n'

/-- The line, counted from one, on which the character at an offset stands. An offset below zero
counts from the end of the text. -/
def lineOf (text : List Char) (offset : Int) : Nat :=
  lineFeeds (text.take (if offset < 0 then text.length + offset else offset).toNat) + 1

def lineAt (text suffix : List Char) : Nat := lineFeeds text - lineFeeds suffix + 1

def unifyLines : List Char → List Char
  | [] => []
  | '\r' :: '\n' :: rest => '\n' :: unifyLines rest
  | c :: rest => (if c = '\r' then '\n' else c) :: unifyLines rest

end Stencil.Text
