import ReliableStream.Wire.Segment
/-! # Packets

    The network moves **packets** between nodes. A packet is an envelope: it
    names the two nodes and the protocol its payload belongs to, and the
    network never looks inside the payload. -/

namespace ReliableStream

/-- The address of a node on the network. -/
abbrev NodeAddr := UInt16

/-- The protocol of a payload. -/
inductive Protocol where
  | ping
  | pingReply
  /-- The payload is the frame of a segment. -/
  | transport
  | other (code : UInt8)
  deriving DecidableEq, Repr

namespace Protocol

/-- The number of a protocol. -/
def code : Protocol → UInt8
  | .ping => 0
  | .pingReply => 1
  | .transport => 4
  | .other code => code

/-- The protocol of a number. -/
def ofCode (code : UInt8) : Protocol :=
  if code = 0 then .ping
  else if code = 1 then .pingReply
  else if code = 4 then .transport
  else .other code

/-- The protocol of a number has that number. -/
theorem code_ofCode (n : UInt8) : (ofCode n).code = n := by
  unfold ofCode
  (repeat' split) <;> simp_all [code]

end Protocol

/-- An envelope and its payload. -/
structure Packet where
  src : NodeAddr
  dest : NodeAddr
  /-- How many hops the packet may still take. -/
  ttl : UInt8
  protocol : Protocol
  /-- The sequence number of the segment inside, if there is one. -/
  seq : UInt32
  payload : List UInt8
  deriving DecidableEq, Repr

/-- The segment that a transport packet carries, if its frame is sound. -/
def Packet.segment? (p : Packet) : Option Segment :=
  match p.protocol with
  | .transport => (Segment.decode p.payload).toOption
  | _ => none

end ReliableStream
