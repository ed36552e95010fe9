import ReliableStream.Time.Scaling
/-! # Text of durations

    Two formats: an **adaptive** one, in the largest unit that has a whole
    part, with all digits that carry information; and **fixed** seconds with
    three decimal places. -/

namespace ReliableStream

open Numeric

/-- The digits of `n`, at least `places` of them, with zeros in front. -/
def paddedDigits (places n : Nat) : List Char :=
  let digits := Nat.toDigits 10 n
  List.replicate (places - digits.length) '0' ++ digits

/-- Drops the zeros at the end. -/
def trimTrailingZeros (cs : List Char) : List Char :=
  (cs.reverse.dropWhile (· == '0')).reverse

/-- A quotient by `10 ^ places` in full: whole part, then a point and the
    fraction without trailing zeros, if there is one. -/
def fractionText (n places : Nat) : String :=
  let fraction := trimTrailingZeros (paddedDigits places (n % Nat.pow 10 places))
  String.ofList (Nat.toDigits 10 (n / Nat.pow 10 places) ++
    (if fraction.isEmpty then [] else '.' :: fraction))

/-- The duration in the largest of the units second, millisecond, microsecond
    and nanosecond of which it holds at least one. The empty duration is
    written in nanoseconds. -/
def Duration.text (d : Duration) : String :=
  if 1_000_000_000 ≤ d.nanos then fractionText d.nanos 9 ++ "s"
  else if 1_000_000 ≤ d.nanos then fractionText d.nanos 6 ++ "ms"
  else if 1_000 ≤ d.nanos then fractionText d.nanos 3 ++ "µs"
  else fractionText d.nanos 0 ++ "ns"

/-- The duration in seconds with exactly three decimal places, rounded from
    its floating point value, a half going to the even digit. -/
def Duration.secondsText (d : Duration) : String :=
  -- The value is exact, so that a half is a true half.
  let thousandths := roundHalfEven (d.secondUnits * 1000) Binary64.one
  String.ofList (Nat.toDigits 10 (thousandths / 1000) ++
    '.' :: paddedDigits 3 (thousandths % 1000))

end ReliableStream
