import SelectionTypes.Document.Source

/-!
# `SelectionTypes.Document.Token`: the tokens of a document

A token is a lexeme at a place. The texts here are the ones in which syntax errors show tokens.
-/

set_option autoImplicit false

namespace SelectionTypes

/-- A token that is always spelled the same. -/
inductive Punctuator where
  | bang
  | dollar
  | ampersand
  | parenOpen
  | parenClose
  | spread
  | colon
  | equals
  | atSign
  | bracketOpen
  | bracketClose
  | braceOpen
  | pipe
  | braceClose
  deriving Repr, DecidableEq

namespace Punctuator

/-- The spelling. -/
def text : Punctuator → String
  | bang => "!"
  | dollar => "$"
  | ampersand => "&"
  | parenOpen => "("
  | parenClose => ")"
  | spread => "..."
  | colon => ":"
  | equals => "="
  | atSign => "@"
  | bracketOpen => "["
  | bracketClose => "]"
  | braceOpen => "\x7b"
  | pipe => "|"
  | braceClose => "\x7d"

/-- The punctuator of one character. -/
def ofChar? : Char → Option Punctuator
  | '!' => some bang
  | '$' => some dollar
  | '&' => some ampersand
  | '(' => some parenOpen
  | ')' => some parenClose
  | ':' => some colon
  | '=' => some equals
  | '@' => some atSign
  | '[' => some bracketOpen
  | ']' => some bracketClose
  | '{' => some braceOpen
  | '|' => some pipe
  | '}' => some braceClose
  | _ => none

/-- How an error names the punctuator. -/
def shown (punctuator : Punctuator) : String :=
  "'" ++ punctuator.text ++ "'"

end Punctuator

/-- What a token stands for. Strings are given by their values. -/
inductive Lexeme where
  | punctuator (punctuator : Punctuator)
  | name (text : String)
  | int (text : String)
  | float (text : String)
  | string (text : String)
  | blockString (text : String)
  | endOfText
  deriving Repr, DecidableEq

namespace Lexeme

/-- How an error shows the token. -/
def shown : Lexeme → String
  | punctuator p => p.shown
  | name text => "Name '" ++ text ++ "'"
  | int text => "Int '" ++ text ++ "'"
  | float text => "Float '" ++ text ++ "'"
  | string text => "String '" ++ text ++ "'"
  | blockString text => "BlockString '" ++ text ++ "'"
  | endOfText => "<EOF>"

/-- The text that a token carries beyond its kind. -/
def value? : Lexeme → Option String
  | name text | int text | float text | string text | blockString text => some text
  | _ => none

end Lexeme

/-- A lexeme and the place of its first character. -/
structure Token where
  place : Place
  lexeme : Lexeme
  deriving Repr, DecidableEq

end SelectionTypes
