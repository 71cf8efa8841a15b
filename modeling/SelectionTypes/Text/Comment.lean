import SelectionTypes.Text.Blank

/-!
# `SelectionTypes.Text.Comment`: descriptions as one-line comments

A description becomes one line: its words, one space apart. The characters `*` and `/` in a row
would end the comment, so a backslash is put between them.
-/

set_option autoImplicit false

namespace SelectionTypes.Text

/-- Puts a backslash into every `*/`. -/
def escapeCommentEnd : List Char → List Char
  | '*' :: '/' :: rest => '*' :: '\\' :: '/' :: escapeCommentEnd rest
  | c :: rest => c :: escapeCommentEnd rest
  | [] => []

/-- The words of a text, one space apart. -/
def collapse (text : List Char) : List Char :=
  [' '].intercalate (words text)

/-- The text of the comment for a description, or nothing for an absent or empty one. -/
def comment? (description : Option String) : Option String :=
  match description with
  | none => none
  | some text =>
    if text.isEmpty then none
    else some (String.ofList (escapeCommentEnd (collapse text.toList)))

end SelectionTypes.Text
