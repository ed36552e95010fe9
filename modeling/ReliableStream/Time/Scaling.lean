import ReliableStream.Numeric.Binary64
import ReliableStream.Time.Duration
/-! # Durations in binary floating point

    Smoothing multiplies a duration by a fraction. The product is formed in
    64 bit binary floating point, on seconds: the seconds and the fraction of
    a second are each rounded to the format, then their sum, then the product;
    the product is converted back to whole nanoseconds, a half going to the
    even one. -/

namespace ReliableStream

open Numeric

/-- The duration in seconds, in units of the binary format. -/
def Duration.secondUnits (d : Duration) : Nat :=
  -- Three roundings: of each part, and of their sum.
  let whole := Binary64.nearestUnits (d.nanos / nanosPerSecond * Binary64.one) 1
  let part := Binary64.nearestUnits (d.nanos % nanosPerSecond * Binary64.one) nanosPerSecond
  Binary64.nearestUnits (whole + part) 1

/-- The duration multiplied by the fraction `num / den`, which is meant to be
    at most one. -/
def Duration.scale (d : Duration) (num den : Nat) : Duration :=
  let product := Binary64.nearestUnits (d.secondUnits * num) den
  ofNanos (roundHalfEven (product * nanosPerSecond) Binary64.one)

end ReliableStream
