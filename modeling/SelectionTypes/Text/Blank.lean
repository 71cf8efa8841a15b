/-!
# `SelectionTypes.Text.Blank`: blank characters and words

`Text.isBlank` is the white space of Unicode together with the four information separators.
`Text.words` gives the maximal runs without a blank, so no word is empty.
-/

set_option autoImplicit false

namespace SelectionTypes.Text

/-- A character that separates words. -/
def isBlank (c : Char) : Bool :=
  let n := c.toNat
  (0x09 ≤ n && n ≤ 0x0d) || (0x1c ≤ n && n ≤ 0x20) || n == 0x85 || n == 0xa0 || n == 0x1680
    || (0x2000 ≤ n && n ≤ 0x200a) || n == 0x2028 || n == 0x2029 || n == 0x202f || n == 0x205f
    || n == 0x3000

/-- Puts a word that is not empty in front of the others. -/
def consWord (word : List Char) (words : List (List Char)) : List (List Char) :=
  if word.isEmpty then words else word.reverse :: words

/-- The words of a text, where `current` holds the characters of the open word in reverse. -/
def wordsFrom (current : List Char) : List Char → List (List Char)
  | [] => consWord current []
  | c :: rest =>
    if isBlank c then consWord current (wordsFrom [] rest) else wordsFrom (c :: current) rest

/-- The maximal runs of characters that are not blank. -/
def words (text : List Char) : List (List Char) :=
  wordsFrom [] text

end SelectionTypes.Text
