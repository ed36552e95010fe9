import ReliableStream.Numeric.Binary64
/-! # Reading numbers from text

    The grammar of numbers on a command line. A natural number is a run of
    digits, optionally after a plus sign. A binary number is written in
    decimal with an optional sign, an optional fraction and an optional
    exponent, or is one of the words for infinity and for not a number. -/

namespace ReliableStream.Numeric

/-- The value of a run of decimal digits. -/
def valueOfDigits (digits : List Char) : Nat :=
  digits.foldl (fun n c => 10 * n + (c.toNat - '0'.toNat)) 0

/-- A natural number **below a bound**: at least one digit and nothing else,
    after at most one plus sign. -/
def readNatBelow? (bound : Nat) (text : String) : Option Nat :=
  let digits := match text.toList with
    | '+' :: rest => rest
    | all => all
  if digits.isEmpty || !digits.all Char.isDigit then none
  else
    let n := valueOfDigits digits
    if n < bound then some n else none

/-- An optional sign: whether it is a minus, and what follows it. -/
def splitSign : List Char → Bool × List Char
  | '-' :: rest => (true, rest)
  | '+' :: rest => (false, rest)
  | rest => (false, rest)

/-- The exponent part of a decimal: empty, or `e`, a sign and digits. -/
def readExponent? : List Char → Option Int
  | [] => some 0
  | mark :: rest =>
    if mark = 'e' ∨ mark = 'E' then
      let (negative, digits) := splitSign rest
      if digits.isEmpty || !digits.all Char.isDigit then none
      else some (if negative then -(valueOfDigits digits : Int) else valueOfDigits digits)
    else none

/-- Digits with an optional point among them, then an exponent. At least one
    digit has to stand before or after the point. -/
def readDecimal? (negative : Bool) (cs : List Char) : Option Binary64 :=
  let whole := cs.takeWhile Char.isDigit
  let rest := cs.dropWhile Char.isDigit
  -- A point may stand anywhere among the digits, also first or last.
  let (fraction, tail) := match rest with
    | '.' :: after => (after.takeWhile Char.isDigit, after.dropWhile Char.isDigit)
    | _ => ([], rest)
  if whole.isEmpty && fraction.isEmpty then none
  else
    (readExponent? tail).map fun exponent =>
      Binary64.ofDecimal negative (valueOfDigits (whole ++ fraction)) (exponent - fraction.length)

/-- Reads a binary number. The words `inf`, `infinity` and `nan` are read in
    any case. -/
def readBinary64? (text : String) : Option Binary64 :=
  let (negative, cs) := splitSign text.toList
  let word := String.ofList (cs.map Char.toLower)
  if word = "inf" ∨ word = "infinity" then some (.infinite negative)
  else if word = "nan" then some .nan
  else readDecimal? negative cs

end ReliableStream.Numeric
