import ReliableStream.Flow.Congestion
import ReliableStream.Flow.RoundTrip
/-! # Senders

    A **sender** is the sending end of one direction of a connection. It keeps
    the bytes that are written and not yet acknowledged, and decides which of
    them travel next.

    Bytes travel in whole **windows**. A window starts at the oldest
    unacknowledged byte and is cut into a **flight** of segments. The next
    window goes out when the previous one is acknowledged to its end; if that
    takes too long, the window is cut again from the oldest unacknowledged
    byte and sent once more. -/

namespace ReliableStream

/-- A window cut into segments, ready to travel. -/
structure Flight where
  segments : List Segment
  /-- How long to wait until all of it is acknowledged. -/
  timeout : Duration
  /-- Tells the timer of this flight from those of earlier ones. -/
  generation : Nat
  /-- The flight starts inside a window that was sent before. -/
  retransmit : Bool
  deriving DecidableEq, Repr

/-- What an acknowledgment did. -/
inductive AckOutcome where
  /-- It fell behind the oldest unacknowledged byte. -/
  | duplicate
  /-- It acknowledged what was never sent. -/
  | ignored
  /-- It was accepted and freed `bytes` bytes. -/
  | advanced (bytes : Nat) (windowComplete : Bool)
  deriving DecidableEq, Repr

/-- A running measurement of a round trip. -/
structure RoundTripProbe where
  sentAt : Duration
  /-- The acknowledgment that ends the measurement. -/
  expectedAck : UInt32
  deriving DecidableEq, Repr

/-- The sending end of a stream. -/
structure Sender where
  /-- What is written and not yet acknowledged. -/
  buffer : StreamBuffer
  /-- The number before that of the first byte. -/
  isn : UInt32
  /-- The oldest unacknowledged byte. -/
  sndUna : UInt32
  /-- The end of the latest window. -/
  winEnd : UInt32
  /-- The end of everything ever sent. -/
  sndMax : UInt32
  /-- The free space the receiver last told of. -/
  rwnd : UInt32
  congestion : Congestion
  roundTrip : RoundTrip
  probe : Option RoundTripProbe
  /-- The generation of the latest flight. -/
  generation : Nat

namespace Sender

/-- The sender of a connection whose handshake carried `isn`. -/
def create (shape : BufferShape) (timers : Timers) (isn rwnd : UInt32) : Sender :=
  let first := Sequence.advance isn 1
  let mss := UInt32.ofNat shape.mss
  { buffer := .create shape mss first
    isn
    sndUna := first
    winEnd := first
    sndMax := first
    rwnd
    congestion := .create mss.toNat (shape.capacity % 4_294_967_296)
    roundTrip := .create timers
    probe := none
    generation := 0 }

/-- The number just after the last byte written. -/
def endSeq (s : Sender) : UInt32 := s.buffer.endSeq

/-- The retransmission timeout. -/
def rto (s : Sender) : Duration := s.roundTrip.timeout

/-- How many bytes are written and not yet acknowledged. -/
def buffered (s : Sender) : Nat := s.buffer.used

/-- Nothing is under way. -/
def isIdle (s : Sender) : Bool := !Sequence.before s.sndUna s.winEnd

/-- Everything written is acknowledged. -/
def isDrained (s : Sender) : Bool := s.buffer.isEmpty

/-- Notes the free space of the receiver. -/
def withReceiverWindow (s : Sender) (rwnd : UInt32) : Sender := { s with rwnd }

/-- Queues as many of the bytes as fit, and says how many those are. -/
def write (s : Sender) (bytes : List UInt8) : Nat × Sender :=
  let (n, buffer) := s.buffer.write bytes
  (n, { s with buffer })

/-- How long to wait for a flight of `n` segments. -/
def flightTimeout (s : Sender) (n : Nat) : Duration := s.rto.timesSat n

/-- The later of two sequence numbers. -/
def laterOf (a b : UInt32) : UInt32 := if Sequence.before a b then b else a

/-- Cuts the next window. Both the congestion window and the receiver's count
    as **at least one byte**, so that a closed window is probed. Only a flight
    that starts afresh is timed: an answer to one sent twice could belong to
    either copy. -/
def nextWindow? (s : Sender) (srcPort dstPort : UInt16) (now : Duration) :
    Option (Flight × Sender) :=
  let buffer := s.buffer.withCongestionWindow (UInt32.ofNat (max s.congestion.cwnd 1))
  match buffer.cut srcPort dstPort s.sndUna (if s.rwnd = 0 then 1 else s.rwnd) with
  | [] => none
  | first :: rest =>
    let segments := first :: rest
    -- The flight ends where its last segment ends.
    let winEnd := ((segments.getLast?).getD first).endSeq
    let retransmit := Sequence.before s.sndUna s.winEnd
    let generation := s.generation + 1
    some
      ({ segments, timeout := s.flightTimeout segments.length, generation, retransmit },
       { s with
          buffer
          winEnd
          sndMax := laterOf s.sndMax winEnd
          probe := if retransmit then none else some ⟨now, first.endSeq⟩
          generation })

/-- Ends the running measurement if this is the acknowledgment it waits for. -/
def finishProbe (s : Sender) (ack : UInt32) (now : Duration) : Except Fault Sender :=
  match s.probe with
  | some probe =>
    if probe.expectedAck = ack then
      (s.roundTrip.record (now.subSat probe.sentAt)).map fun roundTrip =>
        { s with roundTrip, probe := none }
    else .ok s
  | none => .ok s

/-- Takes in an acknowledgment of everything before `ack`, which also tells
    how much the receiver has room for. -/
def onAck (s : Sender) (ack window : UInt32) (now : Duration) :
    Except Fault (AckOutcome × Sender) :=
  if Sequence.before ack s.sndUna then
    .ok (.duplicate, { s with congestion := s.congestion.onDuplicateAck })
  else if Sequence.before s.sndMax ack then
    .ok (.ignored, s)
  else
    let (bytes, buffer) := s.buffer.release ack
    -- The measurement ends last: it may fault, and nothing else depends on it.
    let s' := { s with congestion := s.congestion.onNewAck, buffer, sndUna := ack, rwnd := window }
    (s'.finishProbe ack now).map fun s'' =>
      (.advanced bytes (Sequence.atOrBefore s.winEnd ack), s'')

/-- The timer of a flight went off. Unless a later flight replaced it, or
    nothing is under way, the window is cut again. The congestion window
    shrinks only **after** the cut; the doubled timeout already holds for it. -/
def onWindowTimeout? (s : Sender) (generation : Nat) (srcPort dstPort : UInt16)
    (now : Duration) : Option (Flight × Sender) :=
  if generation ≠ s.generation ∨ s.isIdle then none
  else
    (s.nextWindow? srcPort dstPort now).map fun (flight, s') =>
      let s'' :=
        { s' with
          congestion := s'.congestion.onTimeout
          roundTrip := s'.roundTrip.backOff }
      ({ flight with timeout := s''.flightTimeout flight.segments.length }, s'')

/-- Gives up everything queued; nothing is under way any more. -/
def abandon (s : Sender) : Sender :=
  let buffer := s.buffer.clear
  let last := buffer.endSeq
  { s with
    buffer
    sndUna := last
    winEnd := last
    sndMax := laterOf s.sndMax last
    probe := none }

end Sender

end ReliableStream
