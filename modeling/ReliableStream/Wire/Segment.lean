import ReliableStream.Wire.Bytes
import ReliableStream.Wire.Checksum
/-! # Segments and their frames

    A **segment** is what the two ends of a connection exchange. On the wire
    it is a **frame**: a header of 17 bytes, all numbers in network byte
    order, followed by the payload.

    | bytes | field |
    |---|---|
    | 0, 1 | source port |
    | 2, 3 | destination port |
    | 4 | kind |
    | 5 to 8 | window |
    | 9 to 12 | sequence number |
    | 13, 14 | payload length |
    | 15, 16 | checksum |

    The checksum covers the whole frame with the checksum field itself set to
    zero. -/

namespace ReliableStream

open Wire

/-- What a segment is for. -/
inductive Segment.Kind where
  /-- Asks for a connection. -/
  | syn
  /-- Acknowledges everything before its sequence number. -/
  | ack
  /-- Ends a connection, or refuses one that does not exist. -/
  | fin
  /-- Carries bytes of the stream. -/
  | data
  deriving DecidableEq, Repr

/-- A segment. What `seq` counts depends on the kind: the initial number of a
    stream (`syn`), the next number expected (`ack`), the number of the first
    payload byte (`data`). -/
structure Segment where
  srcPort : UInt16
  dstPort : UInt16
  kind : Segment.Kind
  /-- Free space at the receiving end, or the congestion window. -/
  window : UInt32
  seq : UInt32
  payload : List UInt8
  deriving DecidableEq, Repr

/-- Why a frame or a segment cannot be converted. -/
inductive SegmentError where
  | tooShort (size : Nat)
  | lengthMismatch (declared actual : Nat)
  | unknownKind (code : UInt8)
  | checksumFailed
  | payloadTooLarge (size : Nat)
  deriving DecidableEq, Repr

/-- The text an error is reported with. -/
def SegmentError.message : SegmentError → String
  | .tooShort size => s!"buffer of {size} bytes is too short to contain a segment header"
  | .lengthMismatch declared actual =>
    s!"payload_len field says {declared} bytes but {actual} follow the header"
  | .unknownKind code => s!"unknown segment kind {code}"
  | .checksumFailed => "checksum verification failed"
  | .payloadTooLarge size => s!"payload of {size} bytes does not fit the length field"

namespace Segment

/-- The byte that stands for a kind on the wire. -/
def Kind.code : Kind → UInt8
  | .syn => 0
  | .ack => 1
  | .fin => 2
  | .data => 3

/-- The kind that a byte stands for. -/
def Kind.ofCode (code : UInt8) : Except SegmentError Kind :=
  if code = 0 then .ok .syn
  else if code = 1 then .ok .ack
  else if code = 2 then .ok .fin
  else if code = 3 then .ok .data
  else .error (.unknownKind code)

/-- The name of a kind. -/
def Kind.name : Kind → String
  | .syn => "SYN"
  | .ack => "ACK"
  | .fin => "FIN"
  | .data => "DATA"

/-- A byte stands for a kind exactly if it is the code of that kind. -/
theorem Kind.ofCode_eq_ok_iff {code : UInt8} {k : Kind} : Kind.ofCode code = .ok k ↔ code = k.code := by
  unfold Kind.ofCode
  constructor
  · intro h
    (repeat' split at h) <;> cases h <;> simp_all [Kind.code]
  · rintro rfl
    cases k <;> rfl

/-- A segment without payload. -/
def control (srcPort dstPort : UInt16) (kind : Kind) (window seq : UInt32) : Segment :=
  { srcPort, dstPort, kind, window, seq, payload := [] }

/-- The sequence number just after the payload. -/
def endSeq (s : Segment) : UInt32 := s.seq + UInt32.ofNat s.payload.length

/-- Bytes in a header. -/
def headerSize : Nat := 17

/-- The longest payload the length field can declare. -/
def maxPayload : Nat := 65535

/-- The header of a frame with the given checksum field. -/
def header (s : Segment) (sum : UInt16) : List UInt8 :=
  bytesOf16 s.srcPort ++ bytesOf16 s.dstPort ++ [s.kind.code] ++ bytesOf32 s.window ++
    bytesOf32 s.seq ++ bytesOf16 (UInt16.ofNat s.payload.length) ++ bytesOf16 sum

/-- The checksum of the frame of a segment. -/
def frameChecksum (s : Segment) : UInt16 := checksum (s.header 0 ++ s.payload)

/-- The frame of a segment. Only a payload beyond the length field is refused. -/
def encode (s : Segment) : Except SegmentError (List UInt8) :=
  if s.payload.length ≤ maxPayload then .ok (s.header s.frameChecksum ++ s.payload)
  else .error (.payloadTooLarge s.payload.length)

/-- The segment of a frame. The length is checked first, then the checksum,
    then the kind. -/
def decode : List UInt8 → Except SegmentError Segment
  | s1 :: s0 :: d1 :: d0 :: kind :: w3 :: w2 :: w1 :: w0 :: q3 :: q2 :: q1 :: q0 :: n1 :: n0 ::
      c1 :: c0 :: payload =>
    let declared := (word16 n1 n0).toNat
    -- The payload has to fill the frame exactly.
    if payload.length ≠ declared then .error (.lengthMismatch declared payload.length)
    else
      -- The frame as it was when its checksum was computed.
      let blanked := s1 :: s0 :: d1 :: d0 :: kind :: w3 :: w2 :: w1 :: w0 :: q3 :: q2 :: q1 :: q0 ::
        n1 :: n0 :: 0 :: 0 :: payload
      if checksum blanked ≠ word16 c1 c0 then .error .checksumFailed
      else (Kind.ofCode kind).map fun kind =>
        { srcPort := word16 s1 s0
          dstPort := word16 d1 d0
          kind
          window := word32 w3 w2 w1 w0
          seq := word32 q3 q2 q1 q0
          payload }
  | short => .error (.tooShort short.length)

@[simp] theorem length_header (s : Segment) (sum : UInt16) : (s.header sum).length = headerSize := by
  simp [header, headerSize]

end Segment

end ReliableStream
