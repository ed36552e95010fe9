import ReliableStream.Node.Basic
/-! # Packets and timers arriving at a node

    A packet is worth looking at if it is a transport packet with hops left
    and a sound frame. Its segment then goes where the port table says. -/

namespace ReliableStream.Node

/-- A request for a connection arrives at a listener. Unless the queue is
    full, a connection is spawned and queued. -/
def onRequest (n : Node) (id : SocketId) (segment : Segment) (src : NodeAddr) (now : Duration) :
    Node × List Effect :=
  match n.socket? id with
  | some (.listener port limit backlog) =>
    if limit ≤ backlog.length then (n, [])
    else
      -- A handle is used up only if the connection is spawned.
      let child := n.nextId
      let identity : Identity :=
        { localPort := port, remoteAddr := src, remotePort := segment.srcPort }
      let (c, effects) := Connection.answer (n.context child now) identity segment
      let n := n.withSocket id (.listener port limit (backlog ++ [child]))
      let n := n.withSocket child (.connection c)
      ({ n with ports := n.ports.connect identity child, nextId := child + 1 }, effects)
  | _ => (n, [])

/-- A segment arrives at a socket that holds its connection. -/
def onConnectionSegment (n : Node) (id : SocketId) (segment : Segment) (now : Duration) :
    Except Fault (Node × List Effect) :=
  match n.socket? id with
  | some (.connection c) =>
    (c.onSegment (n.context id now) segment).map fun (c', effects) => (n.settle id c c', effects)
  | _ => .ok (n, [])

/-- A segment arrives from another node. -/
def onSegment (n : Node) (segment : Segment) (src : NodeAddr) (now : Duration) :
    Except Fault (Node × List Effect) :=
  match n.ports.route segment src with
  | .listener id => .ok (n.onRequest id segment src now)
  | .connection id => n.onConnectionSegment id segment now
  | .reset reply => .ok (n, ((n.profile.packet? n.addr src reply).map Effect.send).toList)
  | .drop => .ok (n, [])

/-- A packet arrives. One of another protocol, without hops left or with a
    damaged frame is ignored. -/
def onPacket (n : Node) (packet : Packet) (now : Duration) :
    Except Fault (Node × List Effect) :=
  if packet.ttl = 0 then .ok (n, [])
  else
    match packet.segment? with
    | some segment => n.onSegment segment packet.src now
    | none => .ok (n, [])

/-- A timer comes back. One for a socket that is gone is ignored. -/
def onTimer (n : Node) (timer : Timer) (now : Duration) : Node × List Effect :=
  match n.socket? timer.socket with
  | some (.connection c) =>
    let (c', effects) := c.onTimer (n.context timer.socket now) timer.event
    (n.settle timer.socket c c', effects)
  | _ => (n, [])

end ReliableStream.Node
