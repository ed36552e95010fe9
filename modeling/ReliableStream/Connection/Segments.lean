import ReliableStream.Connection.Basic
/-! # Segments arriving at a connection

    What a connection does with each kind of segment. Nothing arriving is ever
    an error of the application: what does not fit the phase is ignored, and
    what does not fit the stream is answered with the acknowledgment number
    that would. -/

namespace ReliableStream.Connection

/-- The answer to the own request. It has to acknowledge exactly the request
    and to carry the initial number of the peer. -/
def onSynAck (ctx : Context) (c : Connection) (s : Segment) : Connection × List Effect :=
  match s.payload with
  | [b3, b2, b1, b0] =>
    if s.seq = Sequence.advance c.sender.isn 1 then
      let receiver := Receiver.create ctx.profile.shape (Wire.word32 b3 b2 b1 b0)
      let c :=
        { c with
          sender := c.sender.withReceiverWindow s.window
          phase := .established receiver
          confirmed := true }
      c.transmit ctx [c.ack receiver]
    else (c, [])
  | _ => (c, [])

/-- The outcome of an acknowledgment: it is counted, and one that completes a
    window makes room for the next. -/
def afterAck (ctx : Context) (c : Connection) : AckOutcome → Connection × List Effect
  | .duplicate =>
    ({ c with stats := { c.stats with duplicateAcks := c.stats.duplicateAcks + 1 } }, [])
  | .ignored => (c, [])
  | .advanced bytes windowComplete =>
    let c := { c with stats := { c.stats with bytesAcked := c.stats.bytesAcked + bytes } }
    if windowComplete && !c.sender.isDrained then c.sendWindow ctx else (c, [])

/-- An acknowledgment on an open connection. One with a payload is the answer
    of the handshake once more, because the confirmation was lost; it is
    confirmed again. The first one that confirms the handshake only tells of
    the window if it acknowledges nothing else. -/
def onOpenAck (ctx : Context) (c : Connection) (r : Receiver) (s : Segment) :
    Except Fault (Connection × List Effect) :=
  -- A lost confirmation is repeated; the number acknowledged does not matter.
  if !s.payload.isEmpty then .ok (c.transmit ctx [c.ack r])
  else if !c.confirmed && s.seq == c.sender.sndUna then
    .ok ({ c with confirmed := true, sender := c.sender.withReceiverWindow s.window }, [])
  else
    (c.sender.onAck s.seq s.window ctx.now).map fun (outcome, sender) =>
      { c with confirmed := true, sender }.afterAck ctx outcome

/-- A data segment. What is accepted or out of order is acknowledged; what
    finds no room is dropped in silence, so that the peer tries again. -/
def onData (ctx : Context) (c : Connection) (s : Segment) : Connection × List Effect :=
  match c.phase.openReceiver? with
  | none => (c, [])
  | some r =>
    let (delivery, r) := r.onSegment s
    let c := { c with confirmed := true, phase := c.phase.withReceiver r }
    -- Every delivery proves that the peer completed the handshake.
    match delivery with
    | .accepted n =>
      let c := { c with stats := { c.stats with bytesDelivered := c.stats.bytesDelivered + n } }
      c.transmit ctx [c.ack r]
    | .outOfOrder => c.transmit ctx [c.ack r]
    | .noRoom => (c, [])

/-- The end of an open connection: a closed peer acknowledges nothing, so all
    that is queued is given up. -/
def onOpenFin (ctx : Context) (c : Connection) (r : Receiver) : Connection × List Effect :=
  let sender := c.sender.abandon
  ({ c with sender, phase := .shutdown r sender.sndUna, peerClosed := true, confirmed := true },
    [ctx.arm ctx.profile.timers.shutdownCheck (.shutdownCheck sender.sndUna)])

/-- The end announced by the peer. It refuses a connection that is only asked
    for. -/
def onFin (ctx : Context) (c : Connection) : Connection × List Effect :=
  match c.phase with
  | .established r => c.onOpenFin ctx r
  | .shutdown r _ => c.onOpenFin ctx r
  | .synSent => ({ c with phase := .closed none, peerClosed := true }, [])
  | .closed _ => (c, [])

/-- A request for a connection that exists: the answer to it was lost. -/
def onDuplicateSyn (ctx : Context) (c : Connection) : Connection × List Effect :=
  match c.phase.openReceiver? with
  | some r => if c.peerClosed then (c, []) else c.transmit ctx [c.synAck r]
  | none => (c, [])

/-- A segment addressed to the connection. -/
def onSegment (ctx : Context) (c : Connection) (s : Segment) :
    Except Fault (Connection × List Effect) :=
  match s.kind with
  | .syn => .ok (c.onDuplicateSyn ctx)
  | .data => .ok (c.onData ctx s)
  | .fin => .ok (c.onFin ctx)
  | .ack =>
    match c.phase with
    | .synSent => .ok (c.onSynAck ctx s)
    | .established r => c.onOpenAck ctx r s
    | .shutdown r _ => c.onOpenAck ctx r s
    | .closed _ => .ok (c, [])

end ReliableStream.Connection
