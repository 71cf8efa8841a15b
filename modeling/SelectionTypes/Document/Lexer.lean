import SelectionTypes.Document.Token

/-!
# `SelectionTypes.Document.Lexer`: from characters to tokens

`Token.scan` reads a text from left to right. Every step takes at least one character, so it ends.
A character that begins no token ends the list with an error in place of a token, because the
tokens in front of it may already be wrong for another reason.

Each reader gets the first character of its token apart from the others. It answers with the
lexeme and with the number of characters that the token has after its first.
-/

set_option autoImplicit false

namespace SelectionTypes

namespace Lexeme

/-- A character between tokens. The byte order mark and the comma count as blanks. -/
def isIgnored (c : Char) : Bool :=
  c == ' ' || c == '\t' || c == ',' || c == '\n' || c == '\r' || c == '\ufeff'

/-- A character that ends a line. -/
def isLineEnd (c : Char) : Bool :=
  c == '\n' || c == '\r'

/-- A decimal digit. -/
def isDigit (c : Char) : Bool :=
  '0' ≤ c && c ≤ '9'

/-- A character that can begin a name. -/
def isNameStart (c : Char) : Bool :=
  ('a' ≤ c && c ≤ 'z') || ('A' ≤ c && c ≤ 'Z') || c == '_'

/-- A character that can follow in a name. -/
def isNamePart (c : Char) : Bool :=
  isNameStart c || isDigit c

/-- The value of a hexadecimal digit. -/
def hexDigit? (c : Char) : Option Nat :=
  if isDigit c then some (c.toNat - '0'.toNat)
  else if 'a' ≤ c && c ≤ 'f' then some (c.toNat - 'a'.toNat + 10)
  else if 'A' ≤ c && c ≤ 'F' then some (c.toNat - 'A'.toNat + 10)
  else none

/-- The digits of a number to the base 16, in upper case and at least `width` of them. -/
def hexText (width n : Nat) : String :=
  let digits := (Nat.toDigits 16 n).map Char.toUpper
  String.ofList (List.replicate (width - digits.length) '0' ++ digits)

/-- How an error shows the character at the head of a text. -/
def shownHead : List Char → String
  | [] => "<EOF>"
  | c :: _ =>
    if ' ' ≤ c && c ≤ '~' then "'" ++ c.toString ++ "'" else "U+" ++ hexText 4 c.toNat

/-- The digits at the head of a text and the rest, or an error when there is none. -/
def digits (place : Place) (text : List Char) : Except SyntaxError (List Char × List Char) :=
  match text with
  | c :: _ =>
    if isDigit c then .ok (text.takeWhile isDigit, text.dropWhile isDigit)
    else .error ⟨place, .digitExpected (shownHead text)⟩
  | [] => .error ⟨place, .digitExpected (shownHead text)⟩

/-- The integer part of a number: a zero alone, or digits that begin with another one. -/
def integerPart (place : Place) (text : List Char) :
    Except SyntaxError (List Char × List Char) :=
  match text with
  | '0' :: rest =>
    match rest with
    | c :: _ =>
      if isDigit c then .error ⟨place + 1, .digitAfterZero (shownHead rest)⟩
      else .ok (['0'], rest)
    | [] => .ok (['0'], rest)
  | _ => digits place text

/-- The sign at the head of a text and the rest. -/
def sign (signs : List Char) (text : List Char) : List Char × List Char :=
  match text with
  | c :: rest => if signs.contains c then ([c], rest) else ([], text)
  | [] => ([], [])

/-- The fraction of a number with its point, or nothing. -/
def fraction (place : Place) (text : List Char) :
    Except SyntaxError (List Char × List Char) :=
  match text with
  | '.' :: rest => do
    let (found, rest) ← digits (place + 1) rest
    return ('.' :: found, rest)
  | _ => .ok ([], text)

/-- The exponent of a number with its letter, or nothing. -/
def exponent (place : Place) (text : List Char) :
    Except SyntaxError (List Char × List Char) :=
  match text with
  | c :: rest =>
    if c == 'e' || c == 'E' then do
      let (mark, rest) := sign ['+', '-'] rest
      let (found, rest) ← digits (place + 1 + mark.length) rest
      return (c :: mark ++ found, rest)
    else .ok ([], text)
  | [] => .ok ([], text)

/-- Reads a number. Neither a point nor a letter may follow it. -/
def number (place : Place) (text : List Char) : Except SyntaxError (Lexeme × Nat) := do
  let (minus, rest) := sign ['-'] text
  let (whole, rest) ← integerPart (place + minus.length) rest
  let read := minus ++ whole
  let (decimals, rest) ← fraction (place + read.length) rest
  let read := read ++ decimals
  let (power, rest) ← exponent (place + read.length) rest
  let read := read ++ power
  let follows := match rest with
    | c :: _ => c == '.' || isNameStart c
    | [] => false
  if follows then throw ⟨place + read.length, .digitExpected (shownHead rest)⟩
  let written := String.ofList read
  let lexeme := if decimals.isEmpty && power.isEmpty then int written else float written
  return (lexeme, read.length - 1)

/-- A number that stands for a character. -/
def isScalarValue (code : Nat) : Bool :=
  code < 0xd800 || (0xe000 ≤ code && code < 0x110000)

/-- Reads the code point between braces. `all` is the text after the opening brace, of which
`count` characters are read and give `code`. At most eight digits and the brace are read. -/
def bracedEscape (place : Place) (all : List Char) (code count : Nat) :
    Nat → List Char → Except SyntaxError (Char × Nat)
  | left + 1, c :: rest =>
    let failure := ⟨place, .unicodeEscape ("\\u\x7b" ++ String.ofList (all.take (count + 1)))⟩
    if c == '}' then
      if count == 0 || !isScalarValue code then .error failure
      else .ok (Char.ofNat code, count + 3)
    else
      match hexDigit? c with
      | some digit => bracedEscape place all (code * 16 + digit) (count + 1) left rest
      | none => .error failure
  | _, _ => .error ⟨place, .unicodeEscape ("\\u\x7b" ++ String.ofList (all.take count))⟩

/-- The code of the four hexadecimal digits at the head of a text. -/
def fourDigits? : List Char → Option Nat
  | a :: b :: c :: d :: _ => do
    let a ← hexDigit? a
    let b ← hexDigit? b
    let c ← hexDigit? c
    let d ← hexDigit? d
    return ((a * 16 + b) * 16 + c) * 16 + d
  | _ => none

/-- The low half of a surrogate pair at the head of a text, with its backslash. -/
def lowHalf? : List Char → Option Nat
  | '\\' :: 'u' :: rest =>
    match fourDigits? rest with
    | some code => if 0xdc00 ≤ code && code ≤ 0xdfff then some code else none
    | none => none
  | _ => none

/-- Reads the four digits of an escape, and those of a second one when the first is the high half
of a surrogate pair. -/
def plainEscape (place : Place) (text : List Char) : Except SyntaxError (Char × Nat) :=
  let failure := ⟨place, .unicodeEscape ("\\u" ++ String.ofList (text.take 4))⟩
  match fourDigits? text with
  | none => .error failure
  | some code =>
    if isScalarValue code then .ok (Char.ofNat code, 5)
    -- The high half of a surrogate pair says nothing without the low one.
    else if code ≤ 0xdbff then
      match lowHalf? (text.drop 4) with
      | some low => .ok (Char.ofNat (0x10000 + (code - 0xd800) * 0x400 + (low - 0xdc00)), 11)
      | none => .error failure
    else .error failure

/-- Reads the escape behind a backslash at `place`: the character that it stands for and the
number of characters it has after the backslash. -/
def escape (place : Place) (text : List Char) : Except SyntaxError (Char × Nat) :=
  match text with
  | [] => .error ⟨place, .characterEscape "\\"⟩
  -- Eight digits at most, and the brace behind them.
  | 'u' :: '{' :: rest => bracedEscape place rest 0 0 9 rest
  | 'u' :: rest => plainEscape place rest
  | '"' :: _ => .ok ('"', 1)
  | '\\' :: _ => .ok ('\\', 1)
  | '/' :: _ => .ok ('/', 1)
  | 'b' :: _ => .ok ('\x08', 1)
  | 'f' :: _ => .ok ('\x0c', 1)
  | 'n' :: _ => .ok ('\n', 1)
  | 'r' :: _ => .ok ('\r', 1)
  | 't' :: _ => .ok ('\t', 1)
  | c :: _ => .error ⟨place, .characterEscape ("\\" ++ c.toString)⟩

/-- Reads a string to its closing quote. `value` holds the characters so far in reverse, and
`count` how many characters of the text they took. -/
def stringFrom (place : Place) (value : List Char) (count : Nat) (text : List Char) :
    Except SyntaxError (Lexeme × Nat) :=
  match text with
  | [] => .error ⟨place, .unterminatedString⟩
  | '"' :: _ => .ok (string (String.ofList value.reverse), count + 1)
  | '\\' :: rest => do
    let (c, length) ← escape place rest
    stringFrom (place + 1 + length) (c :: value) (count + 1 + length) (rest.drop length)
  | c :: rest =>
    if isLineEnd c then .error ⟨place, .unterminatedString⟩
    else stringFrom (place + 1) (c :: value) (count + 1) rest
termination_by text.length
decreasing_by
  all_goals simp only [List.length_cons, List.length_drop]
  all_goals omega

/-- The number of blanks that a line begins with. -/
def indentation (line : List Char) : Nat :=
  (line.takeWhile fun c => c == ' ' || c == '\t').length

/-- A line of blanks alone. -/
def isBlankLine (line : List Char) : Bool :=
  indentation line == line.length

/-- The least indentation among the lines that are not blank. -/
def commonIndentation (lines : List (List Char)) : Option Nat :=
  ((lines.filter fun line => !isBlankLine line).map indentation).min?

/-- The value of a block string: the lines after the first lose their common indentation, and the
blank lines at both ends go. -/
def dedent (lines : List (List Char)) : List (List Char) :=
  -- The first line begins behind the quotes, so it shows no indentation.
  let common := commonIndentation (lines.drop 1)
  let shifted := match lines with
    | [] => []
    | first :: later =>
      first :: later.map fun (line : List Char) => line.drop (common.getD line.length)
  ((shifted.dropWhile isBlankLine).reverse.dropWhile isBlankLine).reverse

/-- Reads a block string to its closing quotes. `line` holds the open line and `lines` the lines
before it, both in reverse. -/
def blockStringFrom (place : Place) (lines : List (List Char)) (line : List Char) (count : Nat) :
    List Char → Except SyntaxError (Lexeme × Nat)
  | [] => .error ⟨place, .unterminatedString⟩
  | '"' :: '"' :: '"' :: _ =>
    let all := (line.reverse :: lines).reverse
    .ok (blockString (String.ofList (['\n'].intercalate (dedent all))), count + 3)
  -- Nothing else is escaped in a block string.
  | '\\' :: '"' :: '"' :: '"' :: rest =>
    blockStringFrom (place + 4) lines ('"' :: '"' :: '"' :: line) (count + 4) rest
  -- The two characters end one line.
  | '\r' :: '\n' :: rest =>
    blockStringFrom (place + 2) (line.reverse :: lines) [] (count + 2) rest
  | c :: rest =>
    if isLineEnd c then blockStringFrom (place + 1) (line.reverse :: lines) [] (count + 1) rest
    else blockStringFrom (place + 1) lines (c :: line) (count + 1) rest

/-- Reads the token at a place from its first character and the rest of the text. -/
def read (place : Place) (c : Char) (rest : List Char) : Except SyntaxError (Lexeme × Nat) :=
  if let some p := Punctuator.ofChar? c then .ok (punctuator p, 0)
  else if isNameStart c then
    let tail := rest.takeWhile isNamePart
    .ok (name (String.ofList (c :: tail)), tail.length)
  else if isDigit c || c == '-' then number place (c :: rest)
  else
    match c, rest with
    | '.', '.' :: '.' :: _ => .ok (punctuator .spread, 2)
    | '"', '"' :: '"' :: text => blockStringFrom (place + 3) [] [] 2 text
    | '"', text => stringFrom (place + 1) [] 0 text
    | '\'', _ => .error ⟨place, .singleQuote⟩
    | _, _ => .error ⟨place, .unexpectedCharacter (shownHead [c])⟩

end Lexeme

namespace Token

/-- The tokens of a text from a place on. The list ends with the end of the text or with an
error. -/
def scanFrom (place : Place) (text : List Char) : List (Except SyntaxError Token) :=
  match text with
  | [] => [.ok ⟨place, .endOfText⟩]
  | c :: rest =>
    if Lexeme.isIgnored c then scanFrom (place + 1) rest
    else if c == '#' then
      -- A comment, up to the end of its line.
      let length := (rest.takeWhile fun d => !Lexeme.isLineEnd d).length
      scanFrom (place + 1 + length) (rest.drop length)
    else
      match Lexeme.read place c rest with
      | .error error => [.error error]
      | .ok (lexeme, length) =>
        .ok ⟨place, lexeme⟩ :: scanFrom (place + 1 + length) (rest.drop length)
termination_by text.length
decreasing_by
  all_goals simp only [List.length_cons, List.length_drop]
  all_goals omega

/-- The tokens of a text. -/
def scan (text : String) : List (Except SyntaxError Token) :=
  scanFrom 0 text.toList

end Token

end SelectionTypes
