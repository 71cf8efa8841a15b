import SelectionTypes.Decimal.Digit
import SelectionTypes.Decimal.Reading

/-!
# `SelectionTypes.Decimal.Written`: texts that are numbers

A number may stand between blanks, with a sign in front. `Decimal.integerIn?` reads an integer to
one of the bases 2, 8, 10 and 16, of which all but ten have a mark that may stand in front of the
digits. `Decimal.float?` reads a decimal with a point and an exponent, or one of the words for
infinity and for no number, in any letter case.
-/

set_option autoImplicit false

namespace SelectionTypes.Decimal

/-- A blank that may stand around a number in ASCII. -/
def isMargin (c : Char) : Bool :=
  c == ' ' || ('\t' ≤ c && c ≤ '\r')

/-- The text of a number in ASCII without blanks around it. -/
def trimmed (text : List Char) : List Char :=
  (((inAscii text).dropWhile isMargin).reverse.dropWhile isMargin).reverse

/-- The value of a digit to a base up to 16. -/
def digitIn? (base : Nat) (c : Char) : Option Nat :=
  let value :=
    if isDigit c then some (c.toNat - '0'.toNat)
    else if 'a' ≤ c && c ≤ 'f' then some (c.toNat - 'a'.toNat + 10)
    else if 'A' ≤ c && c ≤ 'F' then some (c.toNat - 'A'.toNat + 10)
    else none
  value.filter (· < base)

/-- The letter of the mark of a base. -/
def baseLetter : Nat → Option Char
  | 2 => some 'b'
  | 8 => some 'o'
  | 16 => some 'x'
  | _ => none

/-- Digits without the mark of their base. -/
def withoutMark (base : Nat) : List Char → List Char
  | '0' :: letter :: rest =>
    if baseLetter base == some letter.toLower then rest else '0' :: letter :: rest
  | text => text

/-- The natural number that digits to a base stand for, at least one. Too many decimal digits are
not read. -/
def naturalIn? (base : Nat) (digits : List Char) : Option Nat :=
  if digits.isEmpty || (base == 10 && mostDigits < digits.length) then none
  else
    digits.foldlM (fun number digit => (digitIn? base digit).map fun value => number * base + value)
      0

/-- The integer that a text is to a base. -/
def integerIn? (base : Nat) (text : List Char) : Option Int :=
  let (negative, digits) := splitSign (trimmed text)
  (naturalIn? base (withoutMark base digits)).map fun magnitude =>
    if negative then -(magnitude : Int) else magnitude

/-- Whether a text is an exponent with its letter, or nothing. -/
def isExponent : List Char → Bool
  | [] => true
  | letter :: rest =>
    let digits := (splitSign rest).2
    letter.toLower == 'e' && !digits.isEmpty && digits.all isDigit

/-- Whether a text is made of digits with a point among them, at least one digit, and perhaps an
exponent. -/
def isDecimal (text : List Char) : Bool :=
  let whole := text.takeWhile isDigit
  match text.dropWhile isDigit with
  | '.' :: rest =>
    let fraction := rest.takeWhile isDigit
    !(whole.isEmpty && fraction.isEmpty) && isExponent (rest.dropWhile isDigit)
  | rest => !whole.isEmpty && isExponent rest

/-- The number nearest to the one that a text is. -/
def float? (text : List Char) : Option Binary64 :=
  let text := trimmed text
  let (negative, magnitude) := splitSign text
  let word := String.ofList (magnitude.map Char.toLower)
  if word == "inf" || word == "infinity" then some (.infinite negative)
  else if word == "nan" then some .nan
  else if isDecimal magnitude then some (number text)
  else none

end SelectionTypes.Decimal
