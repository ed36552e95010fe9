import ReliableStream.Node.Ports
import ReliableStream.Node.Socket
/-! # Nodes and their applications

    A **node** owns sockets, the port table and a profile. Applications call
    on it with the handle of a socket. Every call is a function from nodes to
    nodes: where a call can fail it returns either an error or the node after
    it, so a failed call changes nothing. -/

namespace ReliableStream

/-- A node and its sockets. Handles count from one and are never used twice. -/
structure Node where
  addr : NodeAddr
  profile : Profile
  sockets : Table SocketId Socket
  ports : PortTable
  nextId : SocketId

namespace Node

/-- A node without sockets, if the settings are sound. -/
def create (addr : NodeAddr) (settings : Settings) : Except SettingsError Node :=
  settings.check.map fun profile =>
    { addr, profile, sockets := .empty, ports := .empty, nextId := 1 }

/-- The socket of a handle. -/
def socket? (n : Node) (id : SocketId) : Option Socket := n.sockets.get? id

/-- The state of a socket; one that does not exist is closed. -/
def state (n : Node) (id : SocketId) : SocketState :=
  ((n.socket? id).map Socket.state).getD .closed

/-- The surroundings of a socket at a time. -/
def context (n : Node) (id : SocketId) (now : Duration) : Context :=
  { addr := n.addr, profile := n.profile, id, now }

/-- Replaces a socket. -/
def withSocket (n : Node) (id : SocketId) (s : Socket) : Node :=
  { n with sockets := n.sockets.put id s }

/-- Puts a connection back after it acted. One that has just come to its end
    leaves the port table. -/
def settle (n : Node) (id : SocketId) (before after : Connection) : Node :=
  let n := n.withSocket id (.connection after)
  if after.phase.isClosed && !before.phase.isClosed then
    { n with ports := n.ports.vacate id before.identity before.origin }
  else n

/-! ### Calls of the application -/

/-- Creates a socket. -/
def socket (n : Node) : SocketId × Node :=
  (n.nextId, { n.withSocket n.nextId (.fresh none) with nextId := n.nextId + 1 })

/-- Looks a socket up for a call. -/
def find (n : Node) (id : SocketId) : Except SocketError Socket :=
  match n.socket? id with
  | some s => .ok s
  | none => .error (.unknownSocket id)

/-- Binds a socket to a port that nobody else has. -/
def bind (n : Node) (id : SocketId) (port : UInt16) : Except SocketError Node := do
  let s ← n.find id
  match s.localPort? with
  | some bound => .error (.alreadyBound bound)
  | none =>
    match n.ports.claim? port with
    | some ports => .ok { n.withSocket id (.fresh (some port)) with ports }
    | none => .error (.portInUse port)

/-- Lets a bound socket listen, with at most `limit` connections queued. -/
def listen (n : Node) (id : SocketId) (limit : Nat) : Except SocketError Node := do
  let s ← n.find id
  let port ← s.usablePort
  .ok { n.withSocket id (.listener port limit []) with ports := n.ports.listen port id }

/-- Asks for a connection from a bound socket. -/
def connect (n : Node) (id : SocketId) (remoteAddr : NodeAddr) (remotePort : UInt16)
    (now : Duration) : Except SocketError (Node × List Effect) := do
  let s ← n.find id
  let localPort ← s.usablePort
  let identity : Identity := { localPort, remoteAddr, remotePort }
  let (c, effects) := Connection.request (n.context id now) identity
  .ok ({ n.withSocket id (.connection c) with ports := n.ports.connect identity id }, effects)

/-- Whether a socket has no connection, or does not exist. -/
def isClosed (n : Node) (id : SocketId) : Bool := n.state id == .closed

/-- Removes sockets from the node. -/
def discard (n : Node) (ids : List SocketId) : Node :=
  { n with sockets := ids.foldl Table.erase n.sockets }

/-- Hands out the first connection in the queue of a listener that has **not
    ended** while it waited. Those before it are discarded. -/
def accept (n : Node) (id : SocketId) : Option SocketId × Node :=
  match n.socket? id with
  | some (.listener port limit backlog) =>
    -- Connections that ended in the queue have left the port table already.
    let ended := backlog.takeWhile n.isClosed
    match backlog.dropWhile n.isClosed with
    | child :: rest => (some child, (n.withSocket id (.listener port limit rest)).discard ended)
    | [] => (none, (n.withSocket id (.listener port limit [])).discard ended)
  | _ => (none, n)

/-- Queues bytes on a connection, and says how many were taken. -/
def write (n : Node) (id : SocketId) (bytes : List UInt8) (now : Duration) :
    Except SocketError (Nat × Node × List Effect) := do
  let s ← n.find id
  match s with
  | .connection c =>
    let (count, c, effects) := c.write (n.context id now) bytes
    .ok (count, n.withSocket id (.connection c), effects)
  | _ => .ok (0, n, [])

/-- Takes out up to `count` bytes that have arrived. -/
def read (n : Node) (id : SocketId) (count : Nat) : Except SocketError (List UInt8 × Node) := do
  let s ← n.find id
  match s with
  | .connection c =>
    let (bytes, c) := c.read count
    .ok (bytes, n.withSocket id (.connection c))
  | _ => .ok ([], n)

/-- The port table after a socket is gone. -/
def portsWithout (n : Node) (id : SocketId) : Socket → PortTable
  | .fresh none => n.ports
  | .fresh (some port) => n.ports.free port
  | .listener port .. => n.ports.free port
  | .connection c =>
    if c.phase.isClosed then n.ports else n.ports.vacate id c.identity c.origin

/-- Forgets one socket and what it holds. -/
def forget (n : Node) (id : SocketId) : Node :=
  match n.socket? id with
  | some s => { n with sockets := n.sockets.erase id, ports := n.portsWithout id s }
  | none => n

/-- Forgets a socket at once, together with the connections that wait in its
    queue. Nobody is told. -/
def release (n : Node) (id : SocketId) : Node :=
  match n.socket? id with
  | some s => s.backlog.foldl forget (n.forget id)
  | none => n

/-- Closes a socket. A connection that is established ends once everything
    written is acknowledged; one that is not, and a listener, is released. -/
def close (n : Node) (id : SocketId) (now : Duration) :
    Except SocketError (Node × List Effect) := do
  let s ← n.find id
  match s with
  | .fresh _ => .ok (n, [])
  | .listener .. => .ok (n.release id, [])
  | .connection c =>
    match c.phase with
    | .synSent => .ok (n.release id, [])
    | _ =>
      let (c, effects) := c.close (n.context id now)
      .ok (n.withSocket id (.connection c), effects)

end Node

end ReliableStream
