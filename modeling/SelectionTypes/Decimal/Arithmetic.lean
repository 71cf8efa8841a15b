import SelectionTypes.Decimal.Binary64

/-!
# `SelectionTypes.Decimal.Arithmetic`: sums and products of binary numbers

A sum or product of two finite numbers is the number nearest to the exact one. The operations on
infinities follow the limits, and where there is no limit the result is no number. A sum that is
exactly zero is negative only if both terms are negative.
-/

set_option autoImplicit false

namespace SelectionTypes.Binary64

/-- The number nearest to `mantissa * 2 ^ exponent`. -/
def ofScaled (negative : Bool) (mantissa : Nat) (exponent : Int) : Binary64 :=
  let (numerator, denominator) := scaled mantissa 2 exponent
  ofQuotient negative numerator denominator

/-- The number nearest to a natural number. -/
def ofNat (number : Nat) : Binary64 :=
  ofScaled false number 0

/-- The number with the other sign. -/
def neg : Binary64 → Binary64
  | .finite negative mantissa exponent => .finite (!negative) mantissa exponent
  | .infinite negative => .infinite (!negative)
  | .nan => .nan

/-- A mantissa with its sign. -/
def signed (negative : Bool) (mantissa : Nat) : Int :=
  if negative then -(mantissa : Int) else mantissa

/-- The sum of two numbers. -/
def add : Binary64 → Binary64 → Binary64
  | .nan, _ | _, .nan => .nan
  | .infinite first, .infinite second => if first == second then .infinite first else .nan
  | .infinite negative, _ | _, .infinite negative => .infinite negative
  | .finite first mantissa exponent, .finite second mantissa' exponent' =>
    let least := min exponent exponent'
    let shift (negative : Bool) (mantissa : Nat) (exponent : Int) : Int :=
      signed negative (mantissa * Nat.pow 2 (exponent - least).toNat)
    let sum := shift first mantissa exponent + shift second mantissa' exponent'
    if sum == 0 then .finite (first && second) 0 leastExponent
    else ofScaled (sum < 0) sum.natAbs least

/-- The product of two numbers. -/
def mul : Binary64 → Binary64 → Binary64
  | .nan, _ | _, .nan => .nan
  | .infinite first, .infinite second => .infinite (first != second)
  | .infinite first, .finite second mantissa _ | .finite second mantissa _, .infinite first =>
    if mantissa == 0 then .nan else .infinite (first != second)
  | .finite first mantissa exponent, .finite second mantissa' exponent' =>
    ofScaled (first != second) (mantissa * mantissa') (exponent + exponent')

end SelectionTypes.Binary64
