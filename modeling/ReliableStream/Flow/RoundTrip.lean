import ReliableStream.Settings
import ReliableStream.Time.Scaling
/-! # Round trip estimation

    The **retransmission timeout** follows the measured round trips: their
    smoothed mean plus four times their smoothed deviation, but never less
    than a floor. A timeout that expires doubles it. -/

namespace ReliableStream

/-- Smoothed round trip times of a connection. -/
structure RoundTrip where
  estimated : Duration
  deviation : Duration
  /-- The retransmission timeout. -/
  timeout : Duration
  minRto : Duration
  deriving DecidableEq, Repr

namespace RoundTrip

/-- The estimator before the first measurement. -/
def create (timers : Timers) : RoundTrip where
  estimated := .zero
  deviation := .zero
  timeout := max timers.initialRto timers.minRto
  minRto := timers.minRto

/-- Takes in one measurement: it counts an eighth in the mean, and its
    distance from the new mean a quarter in the deviation. -/
def record (r : RoundTrip) (sample : Duration) : Except Fault RoundTrip := do
  -- The deviation is measured against the new mean, not the old one.
  let estimated ← (r.estimated.scale 7 8).add (sample.scale 1 8)
  let deviation ← (r.deviation.scale 3 4).add ((sample.distance estimated).scale 1 4)
  let timeout ← estimated.add (← deviation.times 4)
  return { r with estimated, deviation, timeout := max timeout r.minRto }

/-- Doubles the timeout, up to the longest duration. -/
def backOff (r : RoundTrip) : RoundTrip := { r with timeout := r.timeout.timesSat 2 }

end RoundTrip

end ReliableStream
