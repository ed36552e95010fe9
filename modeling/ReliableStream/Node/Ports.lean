import ReliableStream.Connection.Basic
import ReliableStream.Table
/-! # Ports of a node

    The **port table** of a node says which ports are claimed, which socket
    listens on a port, and which socket holds a connection. From it follows
    where an arriving segment goes. -/

namespace ReliableStream

/-- Claimed ports, listeners and connections. -/
structure PortTable where
  claimed : List UInt16
  listeners : Table UInt16 SocketId
  connections : Table Identity SocketId

/-- Where an arriving segment goes. -/
inductive Route where
  /-- A request for the listener on its port. -/
  | listener (id : SocketId)
  /-- A segment of an existing connection. -/
  | connection (id : SocketId)
  /-- Nobody is there; the source is told with this segment. -/
  | reset (reply : Segment)
  /-- Nobody is there, and no reply is due. -/
  | drop
  deriving DecidableEq, Repr

namespace PortTable

/-- The table of a new node. -/
def empty : PortTable := ⟨[], .empty, .empty⟩

/-- Whether a port is claimed. -/
def isClaimed (t : PortTable) (port : UInt16) : Bool := t.claimed.contains port

/-- Claims a port, unless it is claimed already. -/
def claim? (t : PortTable) (port : UInt16) : Option PortTable :=
  if t.isClaimed port then none else some { t with claimed := port :: t.claimed }

/-- Gives a port back, together with the listener on it. -/
def free (t : PortTable) (port : UInt16) : PortTable :=
  { t with claimed := t.claimed.filter (· ≠ port), listeners := t.listeners.erase port }

/-- Makes a socket the listener on a port. -/
def listen (t : PortTable) (port : UInt16) (id : SocketId) : PortTable :=
  { t with listeners := t.listeners.put port id }

/-- The listener on a port. -/
def listener? (t : PortTable) (port : UInt16) : Option SocketId := t.listeners.get? port

/-- Makes a socket the holder of a connection. -/
def connect (t : PortTable) (identity : Identity) (id : SocketId) : PortTable :=
  { t with connections := t.connections.put identity id }

/-- Forgets a connection, but only if this socket still holds it. -/
def disconnect (t : PortTable) (identity : Identity) (id : SocketId) : PortTable :=
  if t.connections.get? identity = some id then
    { t with connections := t.connections.erase identity }
  else t

/-- The holder of a connection. -/
def connection? (t : PortTable) (identity : Identity) : Option SocketId :=
  t.connections.get? identity

/-- How many connections there are. -/
def connectionCount (t : PortTable) : Nat := t.connections.size

/-- Forgets a connection that ends, and gives back the port if the connection
    had claimed it. -/
def vacate (t : PortTable) (id : SocketId) (identity : Identity) (origin : Origin) : PortTable :=
  match origin with
  | .opened => (t.disconnect identity id).free identity.localPort
  | .spawned => t.disconnect identity id

/-- The identity of the connection that a segment from a node belongs to. -/
def identityOf (segment : Segment) (src : NodeAddr) : Identity :=
  ⟨segment.dstPort, src, segment.srcPort⟩

/-- Where a segment from a node goes. An **existing connection** comes first,
    even for a request, whose answer may have been lost. A request without a
    connection goes to the listener. Acknowledgments and data without a
    connection are answered with an end; an end is not answered. -/
def route (t : PortTable) (segment : Segment) (src : NodeAddr) : Route :=
  match t.connection? (identityOf segment src) with
  | some id => .connection id
  | none =>
    match segment.kind with
    | .syn =>
      match t.listener? segment.dstPort with
      | some id => .listener id
      | none => .drop
    | .fin => .drop
    | .ack | .data => .reset (.control segment.dstPort segment.srcPort .fin 0 0)

end PortTable

end ReliableStream
