import SelectionTypes.Calendar.Moment
import SelectionTypes.Decimal.Reading
import SelectionTypes.Yaml.Character

/-!
# `SelectionTypes.Yaml.Timestamp`: written dates and moments

A timestamp is a date with hyphens, perhaps with a time of day and the distance of its clock from
universal time. `timestamp?` reads what is written like one, whether or not there is such a day.
-/

set_option autoImplicit false

namespace SelectionTypes.Yaml

/-- A date, or a moment of a day. -/
inductive Timestamp where
  | date (value : Date)
  | moment (value : Moment)
  deriving Repr, DecidableEq

/-- Whether there is such a day and such a time of day. -/
def Timestamp.isReal : Timestamp → Bool
  | .date value => value.isReal
  | .moment value => value.isReal

/-- A text without a line feed at its end. -/
def withoutFinalBreak (text : List Char) : List Char :=
  if text.getLast? == some '\n' then text.dropLast else text

/-- One or two digits, or exactly two. -/
def shortNumber (exact : Bool) (text : List Char) : Option (Nat × List Char) :=
  let digits := (text.take 2).takeWhile Decimal.isDigit
  if digits.isEmpty || (exact && digits.length != 2) then none
  else some (Decimal.natural digits, text.drop digits.length)

/-- Takes a character away. -/
def expectCharacter (expected : Char) : List Char → Option (List Char)
  | [] => none
  | c :: rest => if c == expected then some rest else none

/-- The distance from universal time at the end of a timestamp, in minutes. -/
def zone? (text : List Char) : Option (Option Int) :=
  match text.dropWhile isBlank with
  | [] => if text.isEmpty then some none else none
  | ['Z'] => some (some 0)
  | sign :: rest => do
    if sign != '+' && sign != '-' then none
    let (hours, rest) ← shortNumber false rest
    let minutes ← match rest with
      | [] => some 0
      | _ => do
        let (minutes, rest) ← shortNumber true (← expectCharacter ':' rest)
        if rest.isEmpty then some minutes else none
    let distance : Int := (hours * 60 + minutes : Nat)
    return some (if sign == '-' then -distance else distance)

/-- The microseconds that the digits of a fraction stand for. Further digits are dropped. -/
def microseconds (digits : List Char) : Nat :=
  let kept := digits.take 6
  Decimal.natural (kept ++ List.replicate (6 - kept.length) '0')

/-- The time of day behind a date. -/
def timeOfDay? (text : List Char) : Option (TimeOfDay × Option Int) := do
  let rest ← match text with
    | 'T' :: rest | 't' :: rest => some rest
    | c :: _ => if isBlank c then some (text.dropWhile isBlank) else none
    | [] => none
  let (hour, rest) ← shortNumber false rest
  let (minute, rest) ← shortNumber true (← expectCharacter ':' rest)
  let (second, rest) ← shortNumber true (← expectCharacter ':' rest)
  let (fraction, rest) := match rest with
    | '.' :: rest => (rest.takeWhile Decimal.isDigit, rest.dropWhile Decimal.isDigit)
    | rest => ([], rest)
  return ({ hour, minute, second, microsecond := microseconds fraction }, ← zone? rest)

/-- The timestamp that a text is. -/
def wholeTimestamp? (text : List Char) : Option Timestamp := do
  let (century, rest) ← shortNumber true text
  let (year, rest) ← shortNumber true rest
  let (month, rest) ← shortNumber false (← expectCharacter '-' rest)
  let (day, rest) ← shortNumber false (← expectCharacter '-' rest)
  let date : Date := { year := century * 100 + year, month, day }
  if rest.isEmpty then return .date date
  else
    let (time, offset) ← timeOfDay? rest
    return .moment { date, time, offset }

/-- The timestamp that a text is. A line feed at its end does not matter. -/
def timestamp? (text : List Char) : Option Timestamp :=
  wholeTimestamp? (withoutFinalBreak text)

/-- Whether a text without a tag is a timestamp. In a date alone, month and day have two digits. -/
def isTimestamp (text : List Char) : Bool :=
  match wholeTimestamp? text with
  | some (.date _) => text.length == 10
  | some (.moment _) => true
  | none => false

end SelectionTypes.Yaml
