import ReliableStream.Numeric.Binary64
/-! # The shortest decimal text of a binary number

    A number is written with the fewest significant digits that still **read
    back** as the same number, and always in positional form, never with an
    exponent. Among equally short candidates the one nearest to the number is
    taken. -/

namespace ReliableStream.Numeric

/-- A positive decimal number, `digits * 10 ^ exponent`. -/
structure Decimal where
  digits : Nat
  exponent : Int
  deriving DecidableEq, Repr

/-- The real numbers that round to one binary number, in **quarter units**;
    the ends belong to it exactly if `closed`. -/
structure RoundingInterval where
  low : Nat
  high : Nat
  closed : Bool
  deriving DecidableEq, Repr

/-- The interval of reals that round to `units`. Below a power of two the
    binary grid is twice as fine, so there the lower gap is half as wide. -/
def RoundingInterval.ofUnits (units : Nat) : RoundingInterval :=
  let spacing := 1 <<< (units.log2 + 1 - 53)
  let significand := units / spacing
  -- Half the way to the neighbour below, in quarter units; the significand of a
  -- power of two is `2 ^ 52`.
  let below := if significand = 4_503_599_627_370_496 ∧ 1 < spacing then spacing else 2 * spacing
  ⟨4 * units - below, 4 * units + 2 * spacing, significand % 2 == 0⟩

/-- Whether `num / den` quarter units lie in the interval. -/
def RoundingInterval.holds (i : RoundingInterval) (num den : Nat) : Bool :=
  if i.closed then i.low * den ≤ num && num ≤ i.high * den
  else i.low * den < num && num < i.high * den

/-- The point of the decimal grid of step `10 ^ exponent` that reads back as
    `units`, if there is one: of the two neighbours of the number the nearer,
    and of two equally near ones the **larger**. -/
def Decimal.onGrid? (units : Nat) (exponent : Int) : Option Decimal :=
  let interval := RoundingInterval.ofUnits units
  -- One grid step is `step / den` quarter units.
  let step := 4 * Binary64.one * Nat.pow 10 exponent.toNat
  let den := Nat.pow 10 (-exponent).toNat
  let value := 4 * units * den
  let down := value / step
  let up := down + 1
  let fits (d : Nat) : Bool := d != 0 && interval.holds (d * step) den
  match fits down, fits up with
  | true, true => if 2 * (value % step) < step then some ⟨down, exponent⟩ else some ⟨up, exponent⟩
  | true, false => some ⟨down, exponent⟩
  | false, true => some ⟨up, exponent⟩
  | false, false => none

/-- The first grid with a hit, from the coarsest grid down. -/
def Decimal.firstHit (units : Nat) : Nat → Int → Decimal
  | 0, exponent => ⟨units, exponent⟩
  | fuel + 1, exponent =>
    match Decimal.onGrid? units exponent with
    | some d => d
    | none => Decimal.firstHit units fuel (exponent - 1)

/-- The shortest decimal that reads back as `units`. The grids range from
    above the largest finite number to below the smallest. -/
def Decimal.shortest (units : Nat) : Decimal :=
  Decimal.firstHit units 660 310

/-- Positional text of a decimal, without trailing zeros after the point. -/
def Decimal.positional (d : Decimal) : String :=
  let digits := Nat.toDigits 10 d.digits
  if 0 ≤ d.exponent then
    String.ofList (digits ++ List.replicate d.exponent.toNat '0')
  else
    let places := (-d.exponent).toNat
    -- Zeros in front, so that one digit stands before the point.
    let padded := List.replicate (places + 1 - digits.length) '0' ++ digits
    let whole := padded.length - places
    String.ofList (padded.take whole ++ '.' :: padded.drop whole)

/-- The text of a number: `NaN`, `inf`, or the shortest positional decimal,
    with a minus sign in front of negative numbers, zero included. -/
def Binary64.text : Binary64 → String
  | .nan => "NaN"
  | .infinite negative => (if negative then "-" else "") ++ "inf"
  | .finite negative units =>
    (if negative then "-" else "") ++
      (if units = 0 then "0" else (Decimal.shortest units).positional)

end ReliableStream.Numeric
