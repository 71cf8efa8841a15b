/-!
# `SelectionTypes.Decimal.Binary64`: numbers with a 53-bit mantissa

A number is a mantissa times a power of two, an infinity, or no number at all. The mantissa has at
most 53 bits and the exponent is at least -1074. `Binary64.ofDecimal` reads a decimal: it takes the
nearest number, and of two that are equally near the one with the even mantissa. All of it is
arithmetic on natural numbers.
-/

set_option autoImplicit false

namespace SelectionTypes

/-- A number of the format. -/
inductive Binary64 where
  /-- The number with the given sign, mantissa and power of two. -/
  | finite (negative : Bool) (mantissa : Nat) (exponent : Int)
  | infinite (negative : Bool)
  | nan
  deriving Repr, DecidableEq, Inhabited

namespace Binary64

/-- The least mantissa that needs all 53 bits. -/
def fullMantissa : Nat := Nat.pow 2 52

/-- The least exponent. -/
def leastExponent : Int := -1074

/-- The greatest exponent. -/
def greatestExponent : Int := 971

/-- The numerator and denominator of `number * base ^ exponent`. -/
def scaled (number base : Nat) (exponent : Int) : Nat × Nat :=
  match exponent with
  | .ofNat power => (number * Nat.pow base power, 1)
  | .negSucc power => (number, Nat.pow base (power + 1))

/-- The natural number nearest to a quotient, and the even one of two that are equally near. -/
def roundEven (numerator denominator : Nat) : Nat :=
  let quotient := numerator / denominator
  let twice := 2 * (numerator % denominator)
  if twice < denominator then quotient
  else if denominator < twice then quotient + 1
  else quotient + quotient % 2

/-- A quotient divided by a power of two, as a quotient. -/
def shifted (numerator denominator : Nat) (exponent : Int) : Nat × Nat :=
  let (up, down) := scaled 1 2 exponent
  (numerator * down, denominator * up)

/-- The exponent with which a positive quotient has a mantissa of 53 bits, or the least one if
that is smaller. -/
def exponentOf (numerator denominator : Nat) : Int :=
  let guess : Int := (numerator.log2 : Int) - denominator.log2 - 52
  let (up, down) := shifted numerator denominator guess
  max leastExponent (if up < fullMantissa * down then guess - 1 else guess)

/-- The number nearest to a quotient. -/
def ofQuotient (negative : Bool) (numerator denominator : Nat) : Binary64 :=
  if numerator == 0 then .finite negative 0 leastExponent
  else
    let exponent := exponentOf numerator denominator
    let (up, down) := shifted numerator denominator exponent
    let rounded := roundEven up down
    let (mantissa, exponent) :=
      if rounded == 2 * fullMantissa then (fullMantissa, exponent + 1) else (rounded, exponent)
    if greatestExponent < exponent then .infinite negative
    else .finite negative mantissa exponent

/-- A power of ten that is too large for every positive mantissa, even one of a single unit. -/
def hugePower : Int := 400

/-- The number nearest to the decimal `digits * 10 ^ power`. -/
def ofDecimal (negative : Bool) (digits : Nat) (power : Int) : Binary64 :=
  if digits == 0 then .finite negative 0 leastExponent
  else if hugePower < power then .infinite negative
  else if power + (digits.log2 : Int) < -hugePower - 1000 then .finite negative 0 leastExponent
  else
    let (numerator, denominator) := scaled digits 10 power
    ofQuotient negative numerator denominator

/-- The integer that a number is, if it is one. -/
def toInt? : Binary64 → Option Int
  | .finite negative mantissa exponent =>
    let (numerator, denominator) := scaled mantissa 2 exponent
    if numerator % denominator == 0 then
      let magnitude : Int := (numerator / denominator : Nat)
      some (if negative then -magnitude else magnitude)
    else none
  | _ => none

end Binary64

end SelectionTypes
