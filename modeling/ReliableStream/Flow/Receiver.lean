import ReliableStream.Settings
/-! # Receivers

    A **receiver** is the receiving end of one direction of a connection. It
    accepts exactly the segment that starts with the next byte it expects, and
    only if the whole payload fits. Nothing is kept out of order: a segment
    from elsewhere in the stream is dropped, and the sender will send it
    again. -/

namespace ReliableStream

/-- What became of a data segment. -/
inductive Delivery where
  /-- Its bytes were appended to the stream. -/
  | accepted (bytes : Nat)
  /-- It does not start with the next byte. -/
  | outOfOrder
  /-- It is the next one, but does not fit. -/
  | noRoom
  deriving DecidableEq, Repr

/-- The receiving end of a stream. -/
structure Receiver where
  /-- What arrived and is not yet read. -/
  buffer : StreamBuffer
  /-- The next byte expected. -/
  rcvNxt : UInt32

namespace Receiver

/-- The receiver of a stream whose handshake carried `peerIsn`. -/
def create (shape : BufferShape) (peerIsn : UInt32) : Receiver :=
  let first := Sequence.advance peerIsn 1
  { buffer := .create shape 0 first, rcvNxt := first }

/-- Takes in a data segment. -/
def onSegment (r : Receiver) (segment : Segment) : Delivery × Receiver :=
  if segment.seq ≠ r.rcvNxt then (.outOfOrder, r)
  else
    -- All of the payload or nothing: half a segment is never kept.
    match r.buffer.writeWhole? segment.payload with
    | some buffer =>
      let n := segment.payload.length
      (.accepted n, { buffer, rcvNxt := Sequence.advance r.rcvNxt n })
    | none => (.noRoom, r)

/-- The free space to tell the sender of. -/
def window (r : Receiver) : UInt32 := UInt32.ofNat r.buffer.available

/-- How many bytes wait to be read. -/
def readable (r : Receiver) : Nat := r.buffer.used

/-- Takes out up to `n` bytes. -/
def read (r : Receiver) (n : Nat) : List UInt8 × Receiver :=
  let (bytes, buffer) := r.buffer.read n
  (bytes, { r with buffer })

end Receiver

end ReliableStream
