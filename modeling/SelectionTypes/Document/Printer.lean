import SelectionTypes.Document.Basic
import SelectionTypes.Document.Lexer
import SelectionTypes.Text.Parts

/-!
# `SelectionTypes.Document.Printer`: the written form of values and directives

Numbers are written as they were read. A string is written between quotes, where a quote, a
backslash and the control characters are escaped, and a block string between triple quotes.
-/

set_option autoImplicit false

namespace SelectionTypes

namespace Text

/-- The written form of a character inside a quoted string. -/
def quotedChar (c : Char) : List Char :=
  match c with
  | '"' => ['\\', '"']
  | '\\' => ['\\', '\\']
  | '\x08' => ['\\', 'b']
  | '\t' => ['\\', 't']
  | '\n' => ['\\', 'n']
  | '\x0c' => ['\\', 'f']
  | '\r' => ['\\', 'r']
  | c =>
    if c.toNat < 0x20 || (0x7f ≤ c.toNat && c.toNat < 0xa0) then
      '\\' :: 'u' :: (Lexeme.hexText 4 c.toNat).toList
    else [c]

/-- A text between quotes. -/
def quoted (text : String) : String :=
  "\"" ++ String.ofList (text.toList.flatMap quotedChar) ++ "\""

/-- Puts a backslash in front of three quotes in a row. -/
def escapeTripleQuotes : List Char → List Char
  | '"' :: '"' :: '"' :: rest => '\\' :: '"' :: '"' :: '"' :: escapeTripleQuotes rest
  | c :: rest => c :: escapeTripleQuotes rest
  | [] => []

/-- A blank that indents a line. -/
def isIndent (c : Char) : Bool :=
  c == ' ' || c == '\t'

/-- A text as a block string, whose lines end in line feeds only. The quotes stand on lines of
their own when the text has several lines, is long, or ends in a character that would run into
the closing quotes. A single line that begins with a blank keeps to the opening quotes, which
protects the blank. -/
def block (text : String) : String :=
  let escaped := escapeTripleQuotes text.toList
  let all := partsBetween '\n' escaped
  let single := all.length ≤ 1
  let indented (line : List Char) : Bool := match line with
    | [] => true
    | c :: _ => isIndent c
  let leading := all.length > 1 && (all.drop 1).all indented
  let endsIn (c : Char) : Bool := text.toList.getLast? == some c
  let tripleAtEnd := "\\\"\"\"".toList.isSuffixOf escaped
  let trailing := (endsIn '"' && !tripleAtEnd) || endsIn '\\'
  let spread := !single || text.length > 70 || trailing || leading || tripleAtEnd
  let keeps := single && (match text.toList with
    | [] => false
    | c :: _ => isIndent c)
  "\"\"\"" ++ (if (spread && !keeps) || leading then "\n" else "") ++ String.ofList escaped
    ++ (if spread then "\n" else "") ++ "\"\"\""

end Text

namespace Value

mutual

/-- The written form of a value. -/
def text : Value → String
  | .variable name => "$" ++ name
  | int digits => digits
  | float written => written
  | string value false => Text.quoted value
  | string value true => Text.block value
  | boolean true => "true"
  | boolean false => "false"
  | null => "null"
  | enum name => name
  | list items => "[" ++ ", ".intercalate (texts items) ++ "]"
  | object fields => "\x7b" ++ ", ".intercalate (fieldTexts fields) ++ "\x7d"

/-- The written forms of values. -/
def texts : List Value → List String
  | [] => []
  | item :: items => item.text :: texts items

/-- The written forms of the fields of an object. -/
def fieldTexts : List (String × Value) → List String
  | [] => []
  | (name, value) :: fields => (name ++ ": " ++ value.text) :: fieldTexts fields

end

end Value

namespace Argument

/-- The written form of an argument. -/
def text (argument : Argument) : String :=
  argument.name ++ ": " ++ argument.value.text

end Argument

namespace Directive

/-- The written form of a directive. -/
def text (directive : Directive) : String :=
  "@" ++ directive.name
    ++ (if directive.arguments.isEmpty then ""
      else "(" ++ ", ".intercalate (directive.arguments.map Argument.text) ++ ")")

end Directive

namespace VariableDefinition

/-- The written form of the declaration of a variable. -/
def text (definition : VariableDefinition) : String :=
  let described := match definition.description with
    | none => ""
    | some (value, block) => (Value.string value block).text ++ "\n"
  let default := match definition.defaultValue with
    | none => ""
    | some value => " = " ++ value.text
  described ++ "$" ++ definition.name ++ ": " ++ definition.type.text ++ default
    ++ String.join (definition.directives.map fun directive => " " ++ directive.text)

end VariableDefinition

end SelectionTypes
