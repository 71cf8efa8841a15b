import SelectionTypes.Text.LetterTables

/-!
# `SelectionTypes.Text.LetterCase`: upper case and lower case

The classes and mappings are those of Unicode. The mappings are full: `ß` becomes `SS` in upper
case, and a capital sigma at the end of a word becomes `ς` in lower case. The letters of ASCII are
mapped by arithmetic and all other characters by the tables.
-/

set_option autoImplicit false

namespace SelectionTypes.Text

/-- Whether a code point lies on one of the runs. -/
def inRuns (runs : List Run) (c : Char) : Bool :=
  runs.any fun run => run.contains c.toNat

/-- A lower-case character. -/
def isLower (c : Char) : Bool :=
  if c.toNat < 128 then c.isLower else inRuns lowerRuns c

/-- An upper-case character. -/
def isUpper (c : Char) : Bool :=
  if c.toNat < 128 then c.isUpper else inRuns upperRuns c

/-- A title-case letter. -/
def isTitle (c : Char) : Bool :=
  inRuns titleRuns c

/-- A character with a letter case. -/
def isCased (c : Char) : Bool :=
  isLower c || isUpper c || isTitle c

/-- A lower-case letter. -/
def isLowerLetter (c : Char) : Bool :=
  isLower c && !inRuns casedSymbolRuns c

/-- An upper-case letter. -/
def isUpperLetter (c : Char) : Bool :=
  isUpper c && !inRuns casedSymbolRuns c

/-- The image of a character under the first expansion or shift that has one. -/
def mapCase (expansions : List (Nat × List Nat)) (shifts : List Shift) (c : Char) : List Char :=
  match expansions.find? fun entry => entry.1 == c.toNat with
  | some (_, codes) => codes.map Char.ofNat
  | none =>
    match shifts.find? fun shift => shift.run.contains c.toNat with
    | some shift => [Char.ofNat (shift.apply c.toNat)]
    | none => [c]

/-- The upper-case form of a character. -/
def upperChar (c : Char) : List Char :=
  if c.toNat < 128 then [c.toUpper] else mapCase upperExpansions upperShifts c

/-- The lower-case form of a character on its own. -/
def lowerChar (c : Char) : List Char :=
  if c.toNat < 128 then [c.toLower] else mapCase lowerExpansions lowerShifts c

/-- Whether the first character that the rule for the final sigma does not look through is
cased. -/
def meetsCased (text : List Char) : Bool :=
  match text.dropWhile (inRuns caseIgnorableRuns) with
  | [] => false
  | c :: _ => isCased c

/-- The lower-case form of a text, where `before` holds the characters in front of it in
reverse. -/
def lowerFrom (before : List Char) : List Char → List Char
  | [] => []
  | c :: rest =>
    let image :=
      if c == 'Σ' && meetsCased before && !meetsCased rest then ['ς'] else lowerChar c
    image ++ lowerFrom (c :: before) rest

/-- The lower-case form of a text. -/
def lower (text : List Char) : List Char :=
  lowerFrom [] text

/-- Whether a text has an upper-case character and no lower-case or title-case one. -/
def isAllUpper (text : List Char) : Bool :=
  text.any isUpper && !text.any fun c => isLower c || isTitle c

end SelectionTypes.Text
