import SelectionTypes.Decimal.Arithmetic
import SelectionTypes.Decimal.Written
import SelectionTypes.Text.Parts
import SelectionTypes.Yaml.Failure

/-!
# `SelectionTypes.Yaml.Number`: numbers from texts

A number may have a sign and underscores. An integer may be written to the base 2, 8 or 16, and any
number in the system of sixty: its parts stand between colons, the last one counts once, and every
other one sixty times as much as the one behind it. A float in the system of sixty is summed up
from its last part on, and every step rounds.
-/

set_option autoImplicit false

namespace SelectionTypes.Yaml

/-- The parts of a text between colons. -/
def colonParts (text : List Char) : List (List Char) :=
  Text.partsBetween ':' text

/-- A result where there must be one. -/
def possible {α : Type} : Option α → Except Failure α
  | some result => .ok result
  | none => .error .impossibleValue

/-- The sign of a number, and the number without it. Underscores do not matter. -/
def splitNumber (text : List Char) : Except Failure (Bool × List Char) :=
  match text.filter (· != '_') with
  | [] => .error .emptyNumber
  | text => .ok (Decimal.splitSign text)

/-- The integer that parts in the system of sixty stand for, from the last part on. -/
def sixtiesSum (parts : List Int) : Int :=
  (parts.foldl (fun (sum, base) part => (sum + part * base, base * 60)) (0, 1)).1

/-- The integer that a text without its sign stands for. -/
def magnitude (text : List Char) : Except Failure Int :=
  match text with
  | [] => .error .emptyNumber
  | ['0'] => .ok 0
  | '0' :: 'b' :: digits => possible (Decimal.integerIn? 2 digits)
  | '0' :: 'x' :: digits => possible (Decimal.integerIn? 16 digits)
  | '0' :: digits => possible (Decimal.integerIn? 8 ('0' :: digits))
  | text =>
    if text.contains ':' then
      (possible ((colonParts text).mapM (Decimal.integerIn? 10))).map fun parts =>
        sixtiesSum parts.reverse
    else possible (Decimal.integerIn? 10 text)

/-- The integer that a text stands for. -/
def integerOf (text : List Char) : Except Failure Int := do
  let (negative, text) ← splitNumber text
  let number ← magnitude text
  return if negative then -number else number

/-- The number that parts in the system of sixty stand for, from the last part on. The value of a
place must be finite. -/
def sixtiesFloat (parts : List Binary64) : Except Failure Binary64 := do
  let step (state : Binary64 × Nat) (part : Binary64) : Except Failure (Binary64 × Nat) :=
    match Binary64.ofNat state.2 with
    | .infinite _ => .error .tooLarge
    | base => .ok (state.1.add (part.mul base), state.2 * 60)
  let (sum, _) ← parts.foldlM step (Binary64.ofNat 0, 1)
  return sum

/-- A float of a text. -/
inductive FloatValue where
  | number (value : Binary64)
  /-- The sign for what is no number, which is always the same. -/
  | notANumber
  /-- A text that is read as no number. It is the same as no other one. -/
  | unlike
  deriving Repr, DecidableEq

namespace FloatValue

/-- What a number is read as. -/
def ofBinary (negative : Bool) (number : Binary64) : FloatValue :=
  if number == .nan then .unlike
  else .number (if negative then number.neg else number)

end FloatValue

/-- The float that a text without its sign stands for, given the sign. -/
def signedFloat (negative : Bool) (text : List Char) : Except Failure FloatValue :=
  if text == ".inf".toList then .ok (.ofBinary negative (.infinite false))
  else if text == ".nan".toList then .ok .notANumber
  else if text.contains ':' then do
    let parts ← possible ((colonParts text).mapM Decimal.float?)
    return .ofBinary negative (← sixtiesFloat parts.reverse)
  else (possible (Decimal.float? text)).map (.ofBinary negative)

/-- The float that a text stands for. -/
def floatOf (text : List Char) : Except Failure FloatValue := do
  let (negative, text) ← splitNumber (text.map Char.toLower)
  signedFloat negative text

end SelectionTypes.Yaml
