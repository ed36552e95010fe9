import ReliableStream.Fault
import ReliableStream.Sequence
import ReliableStream.Stream.Ring
import ReliableStream.Wire.Segment
/-! # Stream buffers

    A **stream buffer** holds a stretch of one direction of a connection: the
    bytes themselves in a ring, and the sequence number of the oldest of them.
    At the sending end it holds what is written and not yet acknowledged; at
    the receiving end what has arrived and is not yet read.

    For sending, a buffer also knows the largest segment size and the
    congestion window, and **cuts** its bytes into segments. -/

namespace ReliableStream

/-- The dimensions of a stream buffer: its slots, and the largest payload it
    cuts. -/
structure BufferShape where
  capacity : Nat
  mss : Nat
  two_le_capacity : 2 ≤ capacity
  mss_pos : 0 < mss
  deriving DecidableEq, Repr

/-- Checks the dimensions of a stream buffer. The capacity is checked first. -/
def BufferShape.check (capacity mss : Nat) : Except Fault BufferShape :=
  if hc : 2 ≤ capacity then
    if hm : 0 < mss then .ok ⟨capacity, mss, hc, hm⟩ else .error .zeroSegmentSize
  else .error .bufferTooSmall

/-- A stretch of a stream. -/
structure StreamBuffer where
  ring : Ring
  /-- The sequence number of the oldest byte, or of the next one to come. -/
  baseSeq : UInt32
  mss : Nat
  mss_pos : 0 < mss
  /-- The congestion window; it matters only for sending. -/
  cwnd : UInt32

namespace StreamBuffer

/-- The empty buffer whose first byte will have the number `first`. -/
def create (shape : BufferShape) (cwnd first : UInt32) : StreamBuffer where
  ring := Ring.empty shape.capacity shape.two_le_capacity
  baseSeq := first
  mss := shape.mss
  mss_pos := shape.mss_pos
  cwnd := cwnd

/-- The bytes in the buffer, the oldest first. -/
def contents (b : StreamBuffer) : List UInt8 := b.ring.contents

/-- Slots of the buffer, one of which always stays free. -/
def capacity (b : StreamBuffer) : Nat := b.ring.capacity

/-- How many bytes are buffered. -/
def used (b : StreamBuffer) : Nat := b.ring.used

/-- How many bytes can still be written. -/
def available (b : StreamBuffer) : Nat := b.ring.available

/-- No byte is buffered. -/
def isEmpty (b : StreamBuffer) : Bool := b.ring.front == b.ring.back

/-- No further byte can be written. -/
def isFull (b : StreamBuffer) : Bool := b.ring.available == 0

/-- The sequence number just after the newest byte. -/
def endSeq (b : StreamBuffer) : UInt32 := Sequence.advance b.baseSeq b.used

/-- The place of a sequence number counted from the oldest byte. Numbers
    outside the buffered stretch and its end have none. -/
def place? (b : StreamBuffer) (seq : UInt32) : Option Nat :=
  let n := Sequence.steps b.baseSeq seq
  if n ≤ b.used then some n else none

/-- The slot of a sequence number. -/
def offset? (b : StreamBuffer) (seq : UInt32) : Option Nat :=
  (b.place? seq).map b.ring.index

/-- Changes the congestion window. -/
def withCongestionWindow (b : StreamBuffer) (cwnd : UInt32) : StreamBuffer := { b with cwnd }

/-! ### Bytes in and out -/

/-- Writes as many of the bytes as fit, and says how many those are. -/
def write (b : StreamBuffer) (bytes : List UInt8) : Nat × StreamBuffer :=
  let (n, ring) := b.ring.write bytes
  (n, { b with ring })

/-- Writes all of the bytes, or refuses if they do not all fit. -/
def writeWhole? (b : StreamBuffer) (bytes : List UInt8) : Option StreamBuffer :=
  if bytes.length ≤ b.available then some (b.write bytes).2 else none

/-- Takes out up to `n` of the oldest bytes. -/
def read (b : StreamBuffer) (n : Nat) : List UInt8 × StreamBuffer :=
  let (bytes, ring) := b.ring.read n
  (bytes, { b with ring, baseSeq := Sequence.advance b.baseSeq bytes.length })

/-- Gives up every byte before the number `ack`, and says how many those are.
    A number outside the buffered stretch gives up none. -/
def release (b : StreamBuffer) (ack : UInt32) : Nat × StreamBuffer :=
  match b.place? ack with
  | some n => (n, { b with ring := b.ring.drop n, baseSeq := ack })
  | none => (0, b)

/-- Gives up every byte. -/
def clear (b : StreamBuffer) : StreamBuffer :=
  { b with ring := b.ring.clear, baseSeq := b.endSeq }

/-! ### Cutting segments -/

/-- How many bytes from place `skip` on may be sent at once: what is buffered
    there, bounded by the congestion window and the receiver's window. -/
def sendable (b : StreamBuffer) (skip : Nat) (window : UInt32) : Nat :=
  min (min (b.used - skip) b.cwnd.toNat) window.toNat

/-- The segment of a cut of `total` bytes from place `skip` on that starts
    `offset` bytes into the cut. -/
def piece (b : StreamBuffer) (srcPort dstPort : UInt16) (start : UInt32)
    (skip total offset : Nat) : Segment where
  srcPort := srcPort
  dstPort := dstPort
  kind := .data
  window := b.cwnd
  seq := Sequence.advance start offset
  payload := b.ring.slice (skip + offset) (min b.mss (total - offset))

/-- Cuts the bytes from the number `start` on into data segments: as many
    bytes as may be sent, in pieces of the **largest segment size**, the last
    of which may be shorter. -/
def cut (b : StreamBuffer) (srcPort dstPort : UInt16) (start window : UInt32) : List Segment :=
  match b.place? start with
  | none => []
  | some skip =>
    let total := b.sendable skip window
    -- As many pieces as segment sizes are needed to cover the cut.
    (List.range ((total + b.mss - 1) / b.mss)).map fun i =>
      b.piece srcPort dstPort start skip total (i * b.mss)

/-! ### The operations through the view -/

@[simp] theorem length_contents (b : StreamBuffer) : b.contents.length = b.used :=
  b.ring.length_contents

@[simp] theorem contents_create (shape : BufferShape) (cwnd first : UInt32) :
    (create shape cwnd first).contents = [] := rfl

theorem used_add_available (b : StreamBuffer) : b.used + b.available = b.capacity - 1 :=
  b.ring.used_add_available

theorem contents_write (b : StreamBuffer) (bytes : List UInt8) :
    (b.write bytes).2.contents = b.contents ++ bytes.take b.available :=
  b.ring.contents_write bytes

theorem fst_read (b : StreamBuffer) (n : Nat) : (b.read n).1 = b.contents.take n :=
  b.ring.fst_read n

theorem contents_read (b : StreamBuffer) (n : Nat) : (b.read n).2.contents = b.contents.drop n :=
  b.ring.contents_drop n

@[simp] theorem contents_clear (b : StreamBuffer) : b.clear.contents = [] := b.ring.contents_clear

end StreamBuffer

end ReliableStream
