import SelectionTypes.Decimal.Shortest
import SelectionTypes.Document.Literal
import SelectionTypes.Text.Shown

/-!
# `SelectionTypes.Schema.Constant`: the values that literals stand for

A literal is read against a type, and then it stands for a constant. `Value.constant` reads a
literal without a type, as the scalars do that are not built in. `Constant.shown` is the way a
message shows a constant: two levels of lists and objects, and of long ones only the two ends.
-/

set_option autoImplicit false

namespace SelectionTypes

/-- The value that a literal stands for. -/
inductive Constant where
  | null
  | boolean (value : Bool)
  | integer (number : Int)
  | float (number : Binary64)
  /-- A text, or the name of a member of an enum. -/
  | text (content : String)
  | list (items : List Constant)
  | object (fields : List (String × Constant))
  deriving Repr, BEq

namespace Value

/-- The number that the digits of an integer stand for. Too many digits stand for no number. -/
def integerConstant (digits : String) : Constant :=
  if Decimal.mostDigits < (Decimal.splitSign digits.toList).2.length then .float .nan
  else .integer (Decimal.integer digits.toList)

mutual

/-- The constant that a literal stands for without a type. -/
def constant : Value → Constant
  | .int digits => integerConstant digits
  | .float text => .float (Decimal.number text.toList)
  | .string content _ | .enum content => .text content
  | .boolean value => .boolean value
  | .null | .variable _ => .null
  | .list items => .list (constants items)
  | .object fields => .object (fieldConstants fields)

/-- The constants that literals stand for. -/
def constants : List Value → List Constant
  | [] => []
  | item :: items => item.constant :: constants items

/-- The constants that the fields of an object stand for. -/
def fieldConstants : List (String × Value) → List (String × Constant)
  | [] => []
  | (name, value) :: fields => (name, value.constant) :: fieldConstants fields

end

end Value

namespace Constant

/-- The number of characters of a scalar that are shown. -/
def longestText : Nat := 240

/-- A text of which the middle is left out if it is too long. -/
def shortened (text : String) : String :=
  let characters := text.toList
  if longestText < characters.length then
    String.ofList (characters.take 118 ++ "...".toList
      ++ characters.drop (characters.length - 119))
  else text

/-- The number of items that are shown. -/
def mostItems : Nat := 10

/-- Items of which those in the middle are left out if there are too many. -/
def fewer (items : List String) : String :=
  ", ".intercalate (if mostItems < items.length then
    items.take 5 ++ ["..."] ++ items.drop (items.length - 4) else items)

mutual

/-- A constant as a message shows it, with the given number of levels left. -/
def shownWithin (levels : Nat) : Constant → String
  | .null => "None"
  | .boolean value => if value then "True" else "False"
  | .integer number => shortened (toString number)
  | .float number => number.text
  | .text content => shortened (Text.shown content)
  | .list items =>
    if items.isEmpty then "[]"
    else
      match levels with
      | 0 => "[...]"
      | levels + 1 => "[" ++ fewer (shownItems levels items) ++ "]"
  | .object fields =>
    if fields.isEmpty then "\x7b\x7d"
    else
      match levels with
      | 0 => "\x7b...\x7d"
      | levels + 1 => "\x7b" ++ fewer (shownFields levels fields) ++ "\x7d"

/-- Items as a message shows them. -/
def shownItems (levels : Nat) : List Constant → List String
  | [] => []
  | item :: items => item.shownWithin levels :: shownItems levels items

/-- The fields of an object as a message shows them. -/
def shownFields (levels : Nat) : List (String × Constant) → List String
  | [] => []
  | (name, value) :: fields =>
    (shortened (Text.shown name) ++ ": " ++ value.shownWithin levels) :: shownFields levels fields

end

/-- A constant as a message shows it. -/
def shown (constant : Constant) : String :=
  constant.shownWithin 2

end Constant

end SelectionTypes
