import SelectionTypes.Calendar.Moment
import SelectionTypes.Decimal.Shortest
import SelectionTypes.Text.CodePoint
import SelectionTypes.Text.Shown

/-!
# `SelectionTypes.Settings.Data`: plain data

Settings are given as plain data: scalars, lists and maps. A map is a list of entries with distinct
keys, in the order in which the keys were first given.
-/

set_option autoImplicit false

namespace SelectionTypes

/-- Plain data. -/
inductive Data where
  | null
  | boolean (value : Bool)
  | integer (value : Int)
  | float (value : Binary64)
  /-- A float that is no number, and is the same as itself alone. A number tells it from others. -/
  | noNumber (identity : Nat)
  | text (value : String)
  /-- A text with halves of surrogate pairs, which is no Unicode text. -/
  | halved (codePoints : CodePoints)
  | bytes (content : List UInt8)
  | date (value : Date)
  | moment (value : Moment)
  | list (items : List Data)
  /-- A collection of distinct items, in the order in which they were first given. -/
  | set (items : List Data)
  /-- A key with its value, where entries are items of a list. -/
  | pair (key value : Data)
  | map (entries : List (Data × Data))
  deriving Repr, BEq, Inhabited

namespace Data

/-- The value of a text key in a list of entries. -/
def get? (entries : List (Data × Data)) (key : String) : Option Data :=
  match entries with
  | [] => none
  | (.text found, value) :: rest => if found == key then some value else get? rest key
  | _ :: rest => get? rest key

/-- The name of the type of a datum. -/
def typeName : Data → String
  | null => "NoneType"
  | boolean _ => "bool"
  | integer _ => "int"
  | float _ | noNumber _ => "float"
  | text _ | halved _ => "str"
  | bytes _ => "bytes"
  | date _ => "date"
  | moment _ => "datetime"
  | list _ => "list"
  | set _ => "set"
  | pair _ _ => "tuple"
  | map _ => "dict"

/-- The text that bytes are in UTF-8, if they are one. -/
def textOfBytes? (content : List UInt8) : Option String :=
  String.fromUTF8? ⟨content.toArray⟩

/-- The integer that a number or a truth value is. -/
def integral? : Data → Option Int
  | boolean value => some (if value then 1 else 0)
  | integer number => some number
  | float number => number.toInt?
  | _ => none

/-- Whether two keys are the same. Numbers and truth values are the same if their values are. -/
def isSameKey (first second : Data) : Bool :=
  match first.integral?, second.integral? with
  | some first, some second => first == second
  | none, none =>
    match first, second with
    | moment first, moment second => first.isSame second
    | first, second => first == second
  | _, _ => false

/-- Sets the value of a key among entries with distinct keys. -/
def putKey (key value : Data) : List (Data × Data) → List (Data × Data)
  | [] => [(key, value)]
  | (present, old) :: entries =>
    if isSameKey present key then (present, value) :: entries
    else (present, old) :: putKey key value entries

/-- Entries with distinct keys. Of several with one key the last value counts, at the place of the
first. -/
def distinct (entries : List (Data × Data)) : List (Data × Data) :=
  entries.foldl (fun table (key, value) => putKey key value table) []

end Data

end SelectionTypes
