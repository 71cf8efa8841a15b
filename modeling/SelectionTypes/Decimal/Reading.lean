import SelectionTypes.Decimal.Binary64

/-!
# `SelectionTypes.Decimal.Reading`: numbers from written decimals

A written decimal is a sign, digits with a point among them, and an exponent. All of it may be
absent but the digits.
-/

set_option autoImplicit false

namespace SelectionTypes

namespace Decimal

/-- A digit of the decimal system. -/
def isDigit (c : Char) : Bool :=
  '0' ≤ c && c ≤ '9'

/-- The number that digits stand for. -/
def natural (digits : List Char) : Nat :=
  digits.foldl (fun number digit => number * 10 + (digit.toNat - '0'.toNat)) 0

/-- Takes a sign away, and tells whether it is a minus. -/
def splitSign : List Char → Bool × List Char
  | '-' :: rest => (true, rest)
  | '+' :: rest => (false, rest)
  | rest => (false, rest)

/-- The most digits that an integer is read from. -/
def mostDigits : Nat := 4300

/-- The integer that digits with a sign stand for. -/
def integer (text : List Char) : Int :=
  let (negative, digits) := splitSign text
  if negative then -(natural digits : Int) else natural digits

/-- The number nearest to a written decimal. -/
def number (text : List Char) : Binary64 :=
  let (negative, text) := splitSign text
  let whole := text.takeWhile isDigit
  let text := text.dropWhile isDigit
  let (fraction, text) := match text with
    | '.' :: rest => (rest.takeWhile isDigit, rest.dropWhile isDigit)
    | text => ([], text)
  let power := match text with
    | 'e' :: rest | 'E' :: rest => integer rest
    | _ => 0
  .ofDecimal negative (natural (whole ++ fraction)) (power - fraction.length)

end Decimal

end SelectionTypes
