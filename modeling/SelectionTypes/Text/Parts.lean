/-!
# `SelectionTypes.Text.Parts`: a text between the occurrences of a character

`Text.partsBetween` cuts a text at every occurrence of a character, so a text with `n` of them has
`n + 1` parts.
-/

set_option autoImplicit false

namespace SelectionTypes.Text

/-- The parts of a text between the occurrences of a character. -/
def partsBetween (separator : Char) : List Char → List (List Char)
  | [] => [[]]
  | c :: rest =>
    if c == separator then [] :: partsBetween separator rest
    else
      match partsBetween separator rest with
      | [] => [[c]]
      | part :: parts => (c :: part) :: parts

end SelectionTypes.Text
