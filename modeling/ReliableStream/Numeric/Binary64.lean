import ReliableStream.Numeric.Rounding
/-! # Binary floating point numbers of 64 bits

    Every finite number of the format is a whole multiple of its smallest
    positive one, `2 ^ (-1074)`. That number is the **unit** here: a finite
    number is a sign and a count of units, and all arithmetic on it is exact
    arithmetic on natural numbers followed by one rounding. -/

namespace ReliableStream.Numeric

/-- A number of the 64 bit binary format. -/
inductive Binary64 where
  /-- Not a number. -/
  | nan
  /-- An infinity. -/
  | infinite (negative : Bool)
  /-- The number of absolute value `units * 2 ^ (-1074)`. -/
  | finite (negative : Bool) (units : Nat)
  deriving DecidableEq, Repr

namespace Binary64

/-- Units in the number one, `2 ^ 1074`. -/
def one : Nat := 1 <<< 1074

/-- The number of units nearest to `num / den` units among those that need
    at most **53 significant bits**, a tie going to the even significand. -/
def nearestUnits (num den : Nat) : Nat :=
  -- The distance between two neighbours of the format at this magnitude.
  let spacing := 1 <<< ((num / den).log2 + 1 - 53)
  roundHalfEven num (den * spacing) * spacing

/-- The number nearest to the quotient `num / den`; beyond the largest
    finite number it is an infinity. -/
def ofQuotient (negative : Bool) (num den : Nat) : Binary64 :=
  let units := nearestUnits (num * one) den
  -- The largest finite number is one spacing below `2 ^ 1024`.
  if units < 1 <<< 2098 then .finite negative units else .infinite negative

/-- How many decimal digits the number has; zero has none. -/
def digitCount (n : Nat) : Nat :=
  if n = 0 then 0 else (Nat.toDigits 10 n).length

/-- The number nearest to `mantissa * 10 ^ exponent`. Exponents far outside
    the range of the format are decided by the **order of magnitude** alone. -/
def ofDecimal (negative : Bool) (mantissa : Nat) (exponent : Int) : Binary64 :=
  let magnitude := exponent + digitCount mantissa
  if mantissa = 0 ∨ magnitude < -400 then .finite negative 0
  else if 400 < magnitude then .infinite negative
  else if 0 ≤ exponent then ofQuotient negative (mantissa * Nat.pow 10 exponent.toNat) 1
  else ofQuotient negative mantissa (Nat.pow 10 (-exponent).toNat)

/-- The number zero. -/
def zero : Binary64 := .finite false 0

/-- Whether the number lies in the closed interval from zero to one. A
    negative zero does. -/
def isProbability : Binary64 → Bool
  | .finite negative units => units == 0 || (!negative && units ≤ one)
  | _ => false

end Binary64

end ReliableStream.Numeric
