/-!
# `SelectionTypes.Document.Source`: places in a text and what is wrong there

A place is a number of characters from the start of a text. `Place.location` gives its line and
column, both from one. A line ends at a line feed, at a carriage return, or at the two together.
-/

set_option autoImplicit false

namespace SelectionTypes

/-- The number of characters in front of a place. -/
abbrev Place := Nat

/-- A line and a column, both counted from one. -/
structure Location where
  line : Nat
  column : Nat
  deriving Repr, DecidableEq

namespace Place

/-- The location `place` characters further on, from the location of the first character. -/
def advance (location : Location) : Place → List Char → Location
  | 0, _ => location
  | _ + 1, [] => location
  | 1, '\r' :: '\n' :: _ => ⟨location.line, location.column + 1⟩
  | place + 2, '\r' :: '\n' :: rest => advance ⟨location.line + 1, 1⟩ place rest
  | place + 1, c :: rest =>
    if c == '\n' || c == '\r' then advance ⟨location.line + 1, 1⟩ place rest
    else advance ⟨location.line, location.column + 1⟩ place rest

/-- The line and column of a place. -/
def location (place : Place) (text : String) : Location :=
  advance ⟨1, 1⟩ place text.toList

end Place

/-- What is wrong at a place. A token or a character is given as it is shown. -/
inductive SyntaxProblem where
  | expected (what found : String)
  | unexpected (found : String)
  | unexpectedCharacter (shown : String)
  | singleQuote
  | unterminatedString
  | characterEscape (shown : String)
  | unicodeEscape (shown : String)
  | digitExpected (shown : String)
  | digitAfterZero (shown : String)
  | reservedEnumValue (shown : String)
  | constantVariable (name : String)
  | shorthandDescription
  | misplacedDescription
  | nestedTooDeeply
  deriving Repr, DecidableEq

namespace SyntaxProblem

/-- The sentence about a problem. -/
def message : SyntaxProblem → String
  | expected what found => "Expected " ++ what ++ ", found " ++ found ++ "."
  | unexpected found => "Unexpected " ++ found ++ "."
  | unexpectedCharacter shown => "Unexpected character: " ++ shown ++ "."
  | singleQuote =>
    "Unexpected single quote character ('), did you mean to use a double quote (\")?"
  | unterminatedString => "Unterminated string."
  | characterEscape shown => "Invalid character escape sequence: '" ++ shown ++ "'."
  | unicodeEscape shown => "Invalid Unicode escape sequence: '" ++ shown ++ "'."
  | digitExpected shown => "Invalid number, expected digit but got: " ++ shown ++ "."
  | digitAfterZero shown => "Invalid number, unexpected digit after 0: " ++ shown ++ "."
  | reservedEnumValue shown => shown ++ " is reserved and cannot be used for an enum value."
  | constantVariable name => "Unexpected variable '$" ++ name ++ "' in constant value."
  | shorthandDescription =>
    "Unexpected description, descriptions are not supported on shorthand queries."
  | misplacedDescription =>
    "Unexpected description, only GraphQL definitions support descriptions."
  | nestedTooDeeply => "Document is nested too deeply. Parsing aborted."

end SyntaxProblem

/-- Why a text is not in the language, and where it stops being so. -/
structure SyntaxError where
  place : Place
  problem : SyntaxProblem
  deriving Repr, DecidableEq

namespace SyntaxError

/-- The sentence that reports the error. -/
def message (error : SyntaxError) : String :=
  "Syntax Error: " ++ error.problem.message

end SyntaxError

end SelectionTypes
