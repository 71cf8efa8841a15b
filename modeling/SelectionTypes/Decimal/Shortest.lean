import SelectionTypes.Decimal.Binary64

/-!
# `SelectionTypes.Decimal.Shortest`: the shortest decimal that reads back

The decimals that read back as a number are those nearer to it than to its neighbours.
`Binary64.shortest` looks for one with few digits: it tries one digit, then two, and so on, and
takes the nearest decimal with the first number of digits for which one reads back.
`NumberLayout.write` sets the digits out.
-/

set_option autoImplicit false

namespace SelectionTypes

/-- The decimal `0.d₁d₂d₃… * 10 ^ point`, whose first digit is not zero. -/
structure Digits where
  digits : List Nat
  point : Int
  deriving Repr, DecidableEq

namespace Binary64

/-- The bounds of the decimals that read back as a number, as mantissas with the exponent less
two. Below a power of two the neighbours are nearer. -/
def readBackBounds (mantissa : Nat) (exponent : Int) : Nat × Nat :=
  let below :=
    if mantissa == fullMantissa && leastExponent < exponent then 4 * mantissa - 1
    else 4 * mantissa - 2
  (below, 4 * mantissa + 2)

/-- The power of ten that the first digit of a positive quotient stands for, searched upwards and
downwards from a guess. -/
def leadingPower (numerator denominator : Nat) : Int :=
  let guess : Int := (((numerator.log2 : Int) - denominator.log2) * 30103).fdiv 100000
  let reaches (power : Int) : Bool :=
    let (up, down) := scaled 1 10 power
    denominator * up ≤ numerator * down
  if reaches (guess + 1) then guess + 1 else if reaches guess then guess else guess - 1

/-- Of the two decimals around a quotient that are multiples of a power of ten, the nearer one
within the bounds. -/
def nearestWithin (within : Nat → Bool) (up down : Nat) : Option Nat :=
  let floor := up / down
  let twice := 2 * (up % down)
  match within floor, within (floor + 1) with
  | true, true =>
    some (if twice < down then floor
      else if down < twice then floor + 1
      else floor + floor % 2)
  | true, false => some floor
  | false, true => some (floor + 1)
  | false, false => none

/-- The most digits that are ever needed. -/
def digitLimit : Nat := 17

/-- The digits of the shortest decimal that reads back as a finite number other than zero. -/
def shortest (mantissa : Nat) (exponent : Int) : Digits :=
  let (numerator, denominator) := scaled mantissa 2 exponent
  let (low, high) := readBackBounds mantissa exponent
  let even := mantissa % 2 == 0
  let first := leadingPower numerator denominator
  let attempt (count : Nat) : Option (Nat × Int) :=
    let step : Int := first - count
    let (tens, tenths) := scaled 1 10 step
    let (twos, halves) := scaled 1 2 (exponent - 2)
    let within (candidate : Nat) : Bool :=
      let value := candidate * tens * halves
      let lower := low * twos * tenths
      let upper := high * twos * tenths
      if even then lower ≤ value && value ≤ upper else lower < value && value < upper
    (nearestWithin within (numerator * tenths) (denominator * tens)).map fun found => (found, step)
  let (found, step) := ((List.range digitLimit).findSome? attempt).getD (0, 0)
  let written := Nat.toDigits 10 found
  let point := step + written.length
  let kept := (written.reverse.dropWhile (· == '0')).reverse
  ⟨kept.map fun digit => digit.toNat - '0'.toNat, point⟩

end Binary64

/-- How a number is set out. -/
structure NumberLayout where
  /-- The least power of ten of the first digit that is written without an exponent. -/
  positionalFrom : Int
  /-- The greatest power of ten of the first digit that is written without an exponent. -/
  positionalTo : Int
  /-- The digits of an exponent are filled up with zeros to this many. -/
  exponentWidth : Nat
  /-- A whole number without an exponent is written with a zero behind the point. -/
  wholeMark : String
  infinity : String
  noNumber : String

namespace NumberLayout

/-- The characters of digits. -/
def digitText (digits : List Nat) : String :=
  String.ofList (digits.map Nat.digitChar)

/-- A natural number with zeros in front. -/
def padded (width number : Nat) : String :=
  let text := toString number
  String.ofList (List.replicate (width - text.length) '0') ++ text

/-- Digits with an exponent. -/
def scientific (layout : NumberLayout) (found : Digits) : String :=
  let power := found.point - 1
  let tail := found.digits.drop 1
  digitText (found.digits.take 1) ++ (if tail.isEmpty then "" else "." ++ digitText tail)
    ++ (if power < 0 then "e-" else "e+") ++ padded layout.exponentWidth power.natAbs

/-- Digits without an exponent. -/
def positional (layout : NumberLayout) (found : Digits) : String :=
  match found.point with
  | .ofNat 0 => "0." ++ digitText found.digits
  | .ofNat point =>
    let zeros := List.replicate (point - found.digits.length) 0
    let tail := found.digits.drop point
    digitText (found.digits.take point ++ zeros)
      ++ (if tail.isEmpty then layout.wholeMark else "." ++ digitText tail)
  | .negSucc missing => "0." ++ digitText (List.replicate (missing + 1) 0 ++ found.digits)

/-- A number without its sign. -/
def magnitude (layout : NumberLayout) (mantissa : Nat) (exponent : Int) : String :=
  if mantissa == 0 then "0" ++ layout.wholeMark
  else
    let found := Binary64.shortest mantissa exponent
    let power := found.point - 1
    if layout.positionalFrom ≤ power && power ≤ layout.positionalTo then layout.positional found
    else layout.scientific found

/-- The written form of a number. -/
def write (layout : NumberLayout) : Binary64 → String
  | .finite negative mantissa exponent =>
    (if negative then "-" else "") ++ layout.magnitude mantissa exponent
  | .infinite negative => (if negative then "-" else "") ++ layout.infinity
  | .nan => layout.noNumber

end NumberLayout

/-- Numbers are written without an exponent from a ten-thousandth on and below ten to the power of
sixteen. -/
def numberLayout : NumberLayout :=
  { positionalFrom := -4, positionalTo := 15, exponentWidth := 2, wholeMark := ".0",
    infinity := "inf", noNumber := "nan" }

namespace Binary64

/-- The written form of a number. -/
def text (number : Binary64) : String :=
  numberLayout.write number

end Binary64

end SelectionTypes
