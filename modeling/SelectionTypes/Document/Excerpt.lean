import SelectionTypes.Document.Source

/-!
# `SelectionTypes.Document.Excerpt`: a place with the lines around it

An excerpt shows the line of a place between its neighbours, with a mark under the place. Numbers
of lines stand in a margin to the left. A line that is very long is cut into pieces, and of these
the first ones up to the place and the one behind it are shown instead.
-/

set_option autoImplicit false

namespace SelectionTypes

/-- A line of an excerpt: what stands in its margin, and its text. -/
structure ExcerptLine where
  margin : String
  text : List Char

namespace ExcerptLine

/-- A line with the given width of the margin. -/
def render (width : Nat) (line : ExcerptLine) : String :=
  let blanks := List.replicate (width - line.margin.length) ' '
  let text := if line.text.isEmpty then [] else ' ' :: line.text
  String.ofList (blanks ++ line.margin.toList ++ text)

/-- Lines below each other. -/
def renderAll (lines : List ExcerptLine) : String :=
  let width := (lines.map fun line => line.margin.length).foldl max 0
  "\n".intercalate (lines.map (render width))

/-- A line of a text with its number. -/
def numbered (number : Nat) (text : List Char) : ExcerptLine :=
  ⟨toString number ++ " |", text⟩

/-- A line of an excerpt without a number. -/
def plain (text : List Char) : ExcerptLine :=
  ⟨"|", text⟩

/-- The mark under a column. -/
def mark (column : Nat) : ExcerptLine :=
  plain (List.replicate (column - 1) ' ' ++ ['^'])

end ExcerptLine

namespace Excerpt

/-- The lines of a text. -/
def linesOf : List Char → List (List Char)
  | [] => [[]]
  | '\r' :: '\n' :: rest => [] :: linesOf rest
  | c :: rest =>
    if c == '\n' || c == '\r' then [] :: linesOf rest
    else
      match linesOf rest with
      | line :: lines => (c :: line) :: lines
      | [] => [[c]]

/-- The length of a line that is shown as a whole. -/
def longestLine : Nat := 120

/-- The length of the pieces of a longer line. -/
def pieceLength : Nat := 80

/-- The pieces of a line. The count is at least their number. -/
def piecesWithin : Nat → List Char → List (List Char)
  | 0, _ => []
  | count + 1, line =>
    if line.isEmpty then []
    else line.take pieceLength :: piecesWithin count (line.drop pieceLength)

/-- The lines of an excerpt around a location in a very long line. -/
def ofPieces (location : Location) (line : List Char) : List ExcerptLine :=
  let pieces := piecesWithin line.length line
  let index := location.column / pieceLength
  let shown := (pieces.drop 1).take index
  ExcerptLine.numbered location.line (pieces.head?.getD []) :: shown.map .plain
    ++ .mark (location.column % pieceLength) :: (pieces[index + 1]?.map .plain).toList

/-- The lines of an excerpt around a location. -/
def ofLines (location : Location) (lines : List (List Char)) : List ExcerptLine :=
  let number := location.line
  let line := lines[number - 1]?.getD []
  if longestLine < line.length then ofPieces location line
  else
    let before := if number == 1 then none else lines[number - 2]?
    (before.map (.numbered (number - 1))).toList ++ [.numbered number line, .mark location.column]
      ++ (lines[number]?.map (.numbered (number + 1))).toList

end Excerpt

/-- The location of a place in a text, and the lines around it. -/
def Place.excerpt (place : Place) (text : String) : String :=
  let location := place.location text
  "GraphQL request:" ++ toString location.line ++ ":" ++ toString location.column ++ "\n"
    ++ ExcerptLine.renderAll (Excerpt.ofLines location (Excerpt.linesOf text.toList))

end SelectionTypes
