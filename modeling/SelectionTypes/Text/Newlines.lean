/-!
# `SelectionTypes.Text.Newlines`: one kind of line end

A text that is read from a file ends its lines in a line feed alone.
-/

set_option autoImplicit false

namespace SelectionTypes.Text

/-- Makes a carriage return, with or without a line feed behind it, a line feed. -/
def lineFeeds : List Char → List Char
  | [] => []
  | '\r' :: '\n' :: rest => '\n' :: lineFeeds rest
  | c :: rest => (if c == '\r' then '\n' else c) :: lineFeeds rest

/-- The text with line feeds alone at the ends of its lines. -/
def withLineFeeds (text : String) : String :=
  String.ofList (lineFeeds text.toList)

end SelectionTypes.Text
