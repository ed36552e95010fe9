import ReliableStream.Connection.Basic
/-! # Timers coming back to a connection

    A timer acts only if what it was armed for is still **pending**; otherwise
    it changes nothing. One that acts arms its successor, unless it ends the
    connection. -/

namespace ReliableStream.Connection

/-- Asks once more for the connection. -/
def onRetransmitSyn (ctx : Context) (c : Connection) (isn : UInt32) : Connection × List Effect :=
  match c.phase with
  | .synSent =>
    if c.sender.isn = isn then
      let (c, sent) := c.transmit ctx [c.syn]
      (c, sent ++ [ctx.arm ctx.profile.timers.synRetransmit (.retransmitSyn isn)])
    else (c, [])
  | _ => (c, [])

/-- Answers the request once more while the peer has not confirmed. -/
def onRetransmitSynAck (ctx : Context) (c : Connection) (ack : UInt32) :
    Connection × List Effect :=
  match c.phase.openReceiver? with
  | some r =>
    if !c.confirmed && r.rcvNxt == ack then
      let (c, sent) := c.transmit ctx [c.synAck r]
      (c, sent ++ [ctx.arm ctx.profile.timers.synRetransmit (.retransmitSynAck ack)])
    else (c, [])
  | none => (c, [])

/-- Announces the end if everything before it is acknowledged, and looks again
    later if not. -/
def onShutdownCheck (ctx : Context) (c : Connection) (finSeq : UInt32) :
    Connection × List Effect :=
  match c.phase with
  | .shutdown r pending =>
    -- A check for an end that was replaced by a later one is void.
    if pending ≠ finSeq then (c, [])
    else if c.sender.isDrained && c.sender.sndUna == finSeq then
      let (c, sent) := c.transmit ctx [c.fin finSeq]
      ({ c with phase := .closed (some r) }, sent)
    else (c, [ctx.arm ctx.profile.timers.shutdownCheck (.shutdownCheck finSeq)])
  | _ => (c, [])

/-- Sends an overdue window again. -/
def onWindowTimeout (ctx : Context) (c : Connection) (generation : Nat) :
    Connection × List Effect :=
  match c.phase.openReceiver? with
  | none => (c, [])
  | some _ =>
    match c.sender.onWindowTimeout? generation c.identity.localPort c.identity.remotePort ctx.now with
    | none => (c, [])
    | some (flight, sender) =>
      let stats := { c.stats with timeouts := c.stats.timeouts + 1 }
      { c with sender, stats }.transmitFlight ctx flight

/-- A timer of the connection. -/
def onTimer (ctx : Context) (c : Connection) : TimerEvent → Connection × List Effect
  | .retransmitSyn isn => c.onRetransmitSyn ctx isn
  | .retransmitSynAck ack => c.onRetransmitSynAck ctx ack
  | .shutdownCheck finSeq => c.onShutdownCheck ctx finSeq
  | .windowTimeout generation => c.onWindowTimeout ctx generation

end ReliableStream.Connection
