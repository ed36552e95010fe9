import ReliableStream.Stream.Buffer
import ReliableStream.Time.Duration
/-! # Settings of a node

    **Settings** are what a caller asks for. Before a node runs on them they
    are checked once; what comes out is a **profile**, which carries the
    checked bounds with it. -/

namespace ReliableStream

/-- The adjustable time spans. -/
structure Timers where
  /-- The retransmission timeout before the first round trip is measured. -/
  initialRto : Duration := .ofMillis 1000
  /-- The pause between two tries of a handshake. -/
  synRetransmit : Duration := .ofMillis 1000
  /-- The pause between two looks whether a closing connection has drained. -/
  shutdownCheck : Duration := .ofMillis 1000
  /-- The least retransmission timeout. -/
  minRto : Duration := .ofMillis 1
  deriving DecidableEq, Repr

/-- What a node is asked to run on. -/
structure Settings where
  /-- The largest payload of a data segment. -/
  mss : Nat := 1000
  /-- Slots of each stream buffer. -/
  bufferSize : Nat := 16000
  /-- The initial sequence number of every connection. -/
  initialSeq : UInt32 := 0
  /-- The hop limit of outgoing packets. -/
  ttl : UInt8 := 15
  timers : Timers := {}
  deriving DecidableEq, Repr

/-- Why settings are refused. -/
inductive SettingsError where
  | invalidMss (mss : Nat)
  | bufferTooSmall (bufferSize mss : Nat)
  | bufferTooLarge (bufferSize : Nat)
  | zeroTtl
  deriving DecidableEq, Repr

/-- The text an error is reported with. -/
def SettingsError.message : SettingsError → String
  | .invalidMss mss => s!"mss {mss} must be between 1 and the largest segment payload"
  | .bufferTooSmall bufferSize mss =>
    s!"buffer size {bufferSize} must be at least 2 and larger than mss {mss}"
  | .bufferTooLarge bufferSize => s!"buffer size {bufferSize} does not fit a 32-bit window"
  | .zeroTtl => "ttl must be non-zero"

/-- Settings whose buffers can be built and whose segments can be encoded. -/
structure Profile where
  shape : BufferShape
  initialSeq : UInt32
  ttl : UInt8
  timers : Timers
  mss_le : shape.mss ≤ Segment.maxPayload
  mss_lt : shape.mss < shape.capacity
  capacity_lt : shape.capacity < 4_294_967_296
  ttl_ne : ttl ≠ 0
  deriving DecidableEq, Repr

/-- Checks settings. The first of the rules that fails is reported: the
    segment size fits a segment, a buffer holds more than one segment, its
    size fits the window field, packets survive a hop. -/
def Settings.check (s : Settings) : Except SettingsError Profile :=
  if hm : s.mss = 0 ∨ Segment.maxPayload < s.mss then .error (.invalidMss s.mss)
  else if hs : s.bufferSize < 2 ∨ s.bufferSize ≤ s.mss then
    .error (.bufferTooSmall s.bufferSize s.mss)
  else if hl : 4_294_967_296 ≤ s.bufferSize then .error (.bufferTooLarge s.bufferSize)
  else if ht : s.ttl = 0 then .error .zeroTtl
  else .ok
    { shape :=
        { capacity := s.bufferSize
          mss := s.mss
          two_le_capacity := by omega
          mss_pos := by omega }
      initialSeq := s.initialSeq
      ttl := s.ttl
      timers := s.timers
      -- Each rule that did not fail is a bound of the profile.
      mss_le := by simpa using (not_or.mp hm).2
      mss_lt := by
        have := (not_or.mp hs).2
        dsimp only
        omega
      capacity_lt := by
        dsimp only
        omega
      ttl_ne := ht }

/-- The buffers and timers of a profile are those that were asked for. -/
theorem Settings.profile_of_check {settings : Settings} {profile : Profile}
    (h : settings.check = .ok profile) :
    profile.shape.capacity = settings.bufferSize ∧ profile.timers = settings.timers := by
  unfold check at h
  (repeat' split at h) <;> cases h
  exact ⟨rfl, rfl⟩

/-- The buffers that settings describe, checked for nothing but that they
    can be built. -/
def Settings.bufferShape (s : Settings) : Except Fault BufferShape :=
  BufferShape.check s.bufferSize s.mss

end ReliableStream
