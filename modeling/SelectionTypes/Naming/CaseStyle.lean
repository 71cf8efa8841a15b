import SelectionTypes.Text.LetterCase

/-!
# `SelectionTypes.Naming.CaseStyle`: letter-case styles of names

A style is a record of five decisions (`CaseStyle.Rules`). `CaseStyle.convert` first makes a text
regular: blanks, hyphens and underscores around it and all other ASCII punctuation go, and each
run of separators becomes one space. It then reads the characters from left to right, each
together with the one before it, so that a capital after a small letter opens a word.
-/

set_option autoImplicit false

namespace SelectionTypes

/-- The styles a name can be written in. -/
inductive CaseStyle where
  | camel
  | pascal
  | snake
  | kebab
  | upperSnake
  | upperKebab
  | flat
  | title
  | keep
  deriving Repr, DecidableEq

namespace CaseStyle

/-- The word that selects a style in the settings. -/
def word : CaseStyle → String
  | camel => "camelCase"
  | pascal => "PascalCase"
  | snake => "snake_case"
  | kebab => "kebab-case"
  | upperSnake => "MACROCASE"
  | upperKebab => "COBOL-CASE"
  | flat => "flatcase"
  | title => "TitleCase"
  | keep => "keep"

/-- All styles. -/
def all : List CaseStyle :=
  [camel, pascal, snake, kebab, upperSnake, upperKebab, flat, title, keep]

/-- The style that a word selects. -/
def ofWord? (text : String) : Option CaseStyle :=
  all.find? fun style => style.word == text

/-- What distinguishes one style from another. -/
structure Rules where
  /-- The first character is written in upper case. -/
  capital : Bool
  /-- The text between two words. -/
  join : List Char
  /-- The first letter of a later word is written in upper case. -/
  humps : Bool
  /-- A capital after a capital opens a word too. -/
  splitsCapitals : Bool
  /-- All other letters are written in upper case. -/
  loud : Bool

/-- The rules of a style, or nothing for the style that keeps names. -/
def rules? : CaseStyle → Option Rules
  | camel => some ⟨false, [], true, false, false⟩
  | pascal => some ⟨true, [], true, true, false⟩
  | snake => some ⟨false, ['_'], false, false, false⟩
  | kebab => some ⟨false, ['-'], false, false, false⟩
  | upperSnake => some ⟨false, ['_'], true, true, true⟩
  | upperKebab => some ⟨false, ['-'], true, false, true⟩
  | flat => some ⟨false, [], false, false, false⟩
  | title => some ⟨true, [' '], true, false, false⟩
  | keep => none

/-- A character that separates words. -/
def isSeparator (c : Char) : Bool :=
  c == ' ' || c == '-' || c == '_'

/-- The ASCII punctuation that names lose. -/
def isDropped (c : Char) : Bool :=
  "!\"#$%&'()*+,./:;<=>?@[\\]^\x60\x7b|\x7d~".toList.contains c

/-- Makes every run of separators one space. -/
def squeeze : List Char → List Char
  | [] => []
  | c :: rest =>
    if isSeparator c then
      match squeeze rest with
      | ' ' :: words => ' ' :: words
      | words => ' ' :: words
    else c :: squeeze rest

/-- Removes the separators at both ends. -/
def trim (text : List Char) : List Char :=
  ((text.dropWhile isSeparator).reverse.dropWhile isSeparator).reverse

/-- The text with one space between words and without punctuation. -/
def regular (text : List Char) : List Char :=
  squeeze ((trim text).filter fun c => !isDropped c)

namespace Rules

/-- The first letter of a later word. -/
def head (rules : Rules) (c : Char) : List Char :=
  if rules.humps then Text.upperChar c else Text.lowerChar c

/-- A letter inside a word. -/
def body (rules : Rules) (c : Char) : List Char :=
  if rules.loud then Text.upperChar c else Text.lowerChar c

/-- Whether a capital after the given character opens a word. -/
def opens (rules : Rules) (before : Option Char) (c : Char) : Bool :=
  match before with
  | none => false
  | some b =>
    Text.isUpper c && (Text.isLowerLetter b || (rules.splitsCapitals && Text.isUpperLetter b))

/-- Writes the characters after `before`. A space opens a word with the character behind it, and
the character after that one is read as if it came right after the space. -/
def scan (rules : Rules) (before : Option Char) : List Char → List Char
  | [] => []
  | [c] =>
    if c == ' ' then rules.join
    else if rules.opens before c then
      rules.join ++ (if rules.humps then [c] else Text.lowerChar c)
    else rules.body c
  | c :: next :: rest =>
    if c == ' ' then rules.join ++ rules.head next ++ rules.scan (some ' ') rest
    else if rules.opens before c then
      rules.join ++ (if rules.humps then [c] else Text.lowerChar c)
        ++ rules.scan (some c) (next :: rest)
    else rules.body c ++ rules.scan (some c) (next :: rest)

/-- Writes a regular text from its start. -/
def write (rules : Rules) (text : List Char) : List Char :=
  match rules.capital, text with
  | true, c :: rest => Text.upperChar c ++ rules.scan none rest
  | _, _ => rules.scan none text

/-- Writes a text. One in capitals alone has no small letters to tell its words by: a loud style
keeps it and another style reads it in lower case. -/
def apply (rules : Rules) (text : List Char) : List Char :=
  let text := regular text
  if Text.isAllUpper text then
    if rules.loud then text.flatMap fun c => if c == ' ' then rules.join else [c]
    else rules.write (Text.lower text)
  else rules.write text

end Rules

/-- A name in a style. -/
def convert (style : CaseStyle) (name : String) : String :=
  match style.rules? with
  | none => name
  | some rules => String.ofList (rules.apply name.toList)

end CaseStyle

end SelectionTypes
