/-! # Faults

    A **fault** ends a run: the caller asked for something the machine cannot
    represent. Errors an application can recover from are not faults; they
    are values of the error types of their own modules. -/

namespace ReliableStream

/-- The reasons for which a run can end abnormally. -/
inductive Fault where
  /-- A stream buffer of fewer than two slots was asked for. -/
  | bufferTooSmall
  /-- A maximum segment size of zero was asked for. -/
  | zeroSegmentSize
  /-- The sum of two durations is beyond the longest duration. -/
  | durationSum
  /-- A multiple of a duration is beyond the longest duration. -/
  | durationMultiple
  deriving DecidableEq, Repr

/-- The text a fault is reported with. -/
def Fault.message : Fault → String
  | .bufferTooSmall => "stream buffer capacity must be at least 2"
  | .zeroSegmentSize => "mss must be at least 1"
  | .durationSum => "overflow when adding durations"
  | .durationMultiple => "overflow when multiplying duration by scalar"

end ReliableStream
