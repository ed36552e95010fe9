import ReliableStream.Settings
import ReliableStream.Wire.Packet
/-! # Effects of a socket

    A socket touches neither the network nor the clock. What it wants done is
    part of its answer, as a list of **effects** in the order in which they
    are to be carried out: packets to send and timers to arm. A timer comes
    back once, after its delay, and cannot be called off; it carries what the
    socket needs to see whether it still **matters**. -/

namespace ReliableStream

/-- The handle of a socket on its node. -/
abbrev SocketId := Nat

/-- What a socket wants to be reminded of. -/
inductive TimerEvent where
  /-- Ask again for the connection that starts at `isn`. -/
  | retransmitSyn (isn : UInt32)
  /-- Answer the handshake again if nothing has arrived past `ack`. -/
  | retransmitSynAck (ack : UInt32)
  /-- End the connection if everything before `finSeq` is acknowledged. -/
  | shutdownCheck (finSeq : UInt32)
  /-- The flight of this generation is overdue. -/
  | windowTimeout (generation : Nat)
  deriving DecidableEq, Repr

/-- A reminder for one socket. -/
structure Timer where
  socket : SocketId
  event : TimerEvent
  deriving DecidableEq, Repr

/-- What is to be done outside the node. -/
inductive Effect where
  /-- Hand a packet to the network. -/
  | send (packet : Packet)
  /-- Bring back a timer after a delay. -/
  | arm (delay : Duration) (timer : Timer)
  deriving DecidableEq, Repr

/-- The surroundings in which a socket acts. -/
structure Context where
  /-- The address of the node. -/
  addr : NodeAddr
  profile : Profile
  /-- The handle of the socket. -/
  id : SocketId
  /-- The virtual time. -/
  now : Duration

/-- The packet that carries a segment to another node, if the segment can be
    encoded. The envelope repeats the sequence number of the segment. -/
def Profile.packet? (p : Profile) (src dest : NodeAddr) (s : Segment) : Option Packet :=
  (s.encode).toOption.map fun frame =>
    { src, dest, ttl := p.ttl, protocol := .transport, seq := s.seq, payload := frame }

/-- The effect of arming a timer for the acting socket. -/
def Context.arm (ctx : Context) (delay : Duration) (event : TimerEvent) : Effect :=
  .arm delay ⟨ctx.id, event⟩

end ReliableStream
