import SelectionTypes.Settings.Data

/-!
# `SelectionTypes.Settings.Problem`: what is wrong with given settings

A problem has a kind and a location. The location leads from the outermost data to the faulty part
by keys and positions.
-/

set_option autoImplicit false

namespace SelectionTypes

/-- A step from data into a part of it. -/
inductive DataStep where
  | key (name : String)
  | position (number : Int)
  deriving Repr, DecidableEq

namespace DataStep

/-- Whether an integer fits into 64 bits. -/
def isWord (number : Int) : Bool :=
  -9223372036854775808 ≤ number && number ≤ 9223372036854775807

/-- The step to the value of a key that may be no text. -/
def ofKey : Data → DataStep
  | .text name => key name
  | .integer number => if isWord number then position number else key (toString number)
  | .boolean value => position (if value then 1 else 0)
  | .null => key "None"
  | .float number => key number.text
  | .noNumber _ => key Binary64.nan.text
  | .halved codePoints => key codePoints.shown
  | .bytes content => key (Text.shownBytes content)
  | .date date => key date.shown
  | .moment moment => key moment.shown
  | .list _ | .set _ | .pair _ _ | .map _ => key ""

end DataStep

namespace Settings

/-- The kinds of problems. -/
inductive ProblemKind where
  /-- Neither a truth value nor a number or text that could stand for one. -/
  | notBoolean
  /-- A number or text that stands for no truth value. -/
  | unusableBoolean
  | notText
  /-- A text or bytes that are no Unicode text. -/
  | notUnicode
  | unknownChoice
  | notMap
  | notList
  /-- Not a map where one with fixed keys is wanted. -/
  | notRecord
  | missing
  | unknownKey
  /-- A key that is no text where fixed keys are wanted. -/
  | keyNotText
  deriving Repr, DecidableEq

/-- A problem of given settings. -/
structure Problem where
  location : List DataStep
  kind : ProblemKind
  deriving Repr, DecidableEq

end Settings

end SelectionTypes
