import ReliableStream.Connection.Effect
import ReliableStream.Connection.State
import ReliableStream.Flow.Receiver
import ReliableStream.Flow.Sender
/-! # Connections

    A **connection** joins a sender and a receiver under one identity. It is
    opened by a handshake of three segments:

    ```text
    opening end                          answering end
        | -- SYN  seq = its isn ------------> |
        | <- ACK  seq = that isn + 1,         |
        |         payload = own isn --------- |  (repeated until confirmed)
        | -- ACK  seq = that isn + 1 -------> |
    ```

    The opening end has a sender from the start and a receiver from the answer
    on; the answering end has both from the start, and is **confirmed** by the
    first segment that shows that its answer arrived. -/

namespace ReliableStream

/-- What tells the connections of a node apart. -/
structure Identity where
  localPort : UInt16
  remoteAddr : NodeAddr
  remotePort : UInt16
  deriving DecidableEq, Repr

/-- Which end of the handshake a connection is. -/
inductive Origin where
  /-- It asked for the connection, on a port it bound. -/
  | opened
  /-- It was spawned by a listener, whose port it shares. -/
  | spawned
  deriving DecidableEq, Repr

/-- How far a connection has come, with the receiver as soon as there is one. -/
inductive Phase where
  | synSent
  | established (receiver : Receiver)
  /-- The end of the connection is announced once everything before `finSeq`
      is acknowledged. -/
  | shutdown (receiver : Receiver) (finSeq : UInt32)
  | closed (receiver : Option Receiver)

namespace Phase

/-- The state of a connection in this phase. -/
def state : Phase → SocketState
  | .synSent => .synSent
  | .established _ => .established
  | .shutdown .. => .shutdown
  | .closed _ => .closed

/-- The receiver, if the handshake got that far. -/
def receiver? : Phase → Option Receiver
  | .synSent => none
  | .established r => some r
  | .shutdown r _ => some r
  | .closed r => r

/-- The receiver of a connection that still takes in segments. -/
def openReceiver? : Phase → Option Receiver
  | .established r => some r
  | .shutdown r _ => some r
  | _ => none

/-- The same phase with another receiver, if it has one. -/
def withReceiver (r : Receiver) : Phase → Phase
  | .synSent => .synSent
  | .established _ => .established r
  | .shutdown _ finSeq => .shutdown r finSeq
  | .closed none => .closed none
  | .closed (some _) => .closed (some r)

/-- Nothing happens any more. -/
def isClosed : Phase → Bool
  | .closed _ => true
  | _ => false

end Phase

/-- What a connection has counted. -/
structure Stats where
  segmentsSent : Nat := 0
  windowsRetransmitted : Nat := 0
  duplicateAcks : Nat := 0
  timeouts : Nat := 0
  bytesAcked : Nat := 0
  bytesDelivered : Nat := 0
  deriving DecidableEq, Repr

/-- One end of a connection. -/
structure Connection where
  identity : Identity
  origin : Origin
  sender : Sender
  phase : Phase
  /-- The peer has announced its end. -/
  peerClosed : Bool := false
  /-- The peer is known to have completed the handshake. -/
  confirmed : Bool := false
  stats : Stats := {}

namespace Connection

/-! ### Segments of a connection -/

/-- The request for the connection; it tells of the congestion window. -/
def syn (c : Connection) : Segment :=
  .control c.identity.localPort c.identity.remotePort .syn
    (UInt32.ofNat c.sender.congestion.cwnd) c.sender.isn

/-- The plain acknowledgment of what a receiver has. -/
def ack (c : Connection) (r : Receiver) : Segment :=
  .control c.identity.localPort c.identity.remotePort .ack r.window r.rcvNxt

/-- The answer to a request: an acknowledgment that carries the own initial
    number. -/
def synAck (c : Connection) (r : Receiver) : Segment :=
  { c.ack r with payload := Wire.bytesOf32 c.sender.isn }

/-- The announcement of the end. -/
def fin (c : Connection) (finSeq : UInt32) : Segment :=
  .control c.identity.localPort c.identity.remotePort .fin 0 finSeq

/-! ### Output -/

/-- Sends segments to the peer, and counts those that can be encoded. -/
def transmit (ctx : Context) (c : Connection) (segments : List Segment) :
    Connection × List Effect :=
  let packets := segments.filterMap (ctx.profile.packet? ctx.addr c.identity.remoteAddr)
  ({ c with
      stats := { c.stats with segmentsSent := c.stats.segmentsSent + packets.length } },
    packets.map .send)

/-- Sends a flight and arms its timer. -/
def transmitFlight (ctx : Context) (c : Connection) (flight : Flight) :
    Connection × List Effect :=
  -- The timer is armed last, behind all segments of the flight.
  let repeated := c.stats.windowsRetransmitted + (if flight.retransmit then 1 else 0)
  let c := { c with stats := { c.stats with windowsRetransmitted := repeated } }
  let (c, sent) := c.transmit ctx flight.segments
  (c, sent ++ [ctx.arm flight.timeout (.windowTimeout flight.generation)])

/-- Sends the next window, if there is anything to send. -/
def sendWindow (ctx : Context) (c : Connection) : Connection × List Effect :=
  match c.sender.nextWindow? c.identity.localPort c.identity.remotePort ctx.now with
  | some (flight, sender) => { c with sender }.transmitFlight ctx flight
  | none => (c, [])

/-! ### Opening -/

/-- Asks for a connection. -/
def request (ctx : Context) (identity : Identity) : Connection × List Effect :=
  let isn := ctx.profile.initialSeq
  let c : Connection :=
    { identity
      origin := .opened
      sender := .create ctx.profile.shape ctx.profile.timers isn 0
      phase := .synSent }
  let (c, sent) := c.transmit ctx [c.syn]
  (c, sent ++ [ctx.arm ctx.profile.timers.synRetransmit (.retransmitSyn isn)])

/-- Answers a request for a connection. The window of the request stands in
    for the free space of the peer until the peer tells of it. -/
def answer (ctx : Context) (identity : Identity) (request : Segment) :
    Connection × List Effect :=
  let receiver := Receiver.create ctx.profile.shape request.seq
  let c : Connection :=
    { identity
      origin := .spawned
      sender := .create ctx.profile.shape ctx.profile.timers ctx.profile.initialSeq request.window
      phase := .established receiver }
  let (c, sent) := c.transmit ctx [c.synAck receiver]
  (c, sent ++
    [ctx.arm ctx.profile.timers.synRetransmit (.retransmitSynAck (Sequence.advance request.seq 1))])

/-! ### Calls of the application -/

/-- Queues bytes, and says how many were taken: none unless the connection is
    established. They travel at once unless a window is under way. -/
def write (ctx : Context) (c : Connection) (bytes : List UInt8) :
    Nat × Connection × List Effect :=
  match c.phase with
  | .established _ =>
    let (n, sender) := c.sender.write bytes
    let c := { c with sender }
    -- A window under way picks the bytes up when it is complete.
    if sender.isIdle && !sender.isDrained then (n, c.sendWindow ctx) else (n, c, [])
  | _ => (0, c, [])

/-- Takes out up to `n` bytes that have arrived, in whatever phase. -/
def read (c : Connection) (n : Nat) : List UInt8 × Connection :=
  match c.phase.receiver? with
  | some r =>
    let (bytes, r) := r.read n
    (bytes, { c with phase := c.phase.withReceiver r })
  | none => ([], c)

/-- Closes an established connection: the end is announced once everything
    written so far is acknowledged. -/
def close (ctx : Context) (c : Connection) : Connection × List Effect :=
  match c.phase with
  | .established r =>
    let finSeq := c.sender.endSeq
    ({ c with phase := .shutdown r finSeq },
      [ctx.arm ctx.profile.timers.shutdownCheck (.shutdownCheck finSeq)])
  | _ => (c, [])

end Connection

end ReliableStream
