/-!
# `SelectionTypes.Text.Lines`: lines of a text

`Text.lines` splits a text at every line boundary of Unicode: line feed, carriage return, the two
as one boundary, line tabulation, form feed, the three information separators, next line, and the
line and paragraph separators. The boundary itself belongs to no line, and a boundary at the end
of the text opens no further line.
-/

set_option autoImplicit false

namespace SelectionTypes.Text

/-- A character that ends a line. -/
def isLineBoundary (c : Char) : Bool :=
  c == '\n' || c == '\r' || c == '\x0b' || c == '\x0c' || c == '\x1c' || c == '\x1d'
    || c == '\x1e' || c == '\u0085' || c == '\u2028' || c == '\u2029'

/-- The lines of a text, where `current` holds the characters of the open line in reverse. -/
def linesFrom (current : List Char) : List Char → List (List Char)
  | [] => if current.isEmpty then [] else [current.reverse]
  | '\r' :: '\n' :: rest => current.reverse :: linesFrom [] rest
  | c :: rest =>
    if isLineBoundary c then current.reverse :: linesFrom [] rest
    else linesFrom (c :: current) rest

/-- The lines of a text, without the characters that end them. -/
def lines (text : String) : List String :=
  (linesFrom [] text.toList).map String.ofList

end SelectionTypes.Text
