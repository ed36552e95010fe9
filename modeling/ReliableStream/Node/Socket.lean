import ReliableStream.Connection.Segments
import ReliableStream.Connection.Timers
/-! # Sockets

    A **socket** is what an application holds: a fresh socket, perhaps with a
    port bound to it, becomes either a listener with a queue of connections to
    hand out, or one end of a connection. -/

namespace ReliableStream

/-- The three things a socket can be. -/
inductive Socket where
  /-- Created, and perhaps bound to a port. -/
  | fresh (port : Option UInt16)
  /-- Waiting on a port, with at most `limit` connections queued. -/
  | listener (port : UInt16) (limit : Nat) (backlog : List SocketId)
  /-- An end of a connection, past or present. -/
  | connection (c : Connection)

/-- Why a call of the application fails. -/
inductive SocketError where
  | portInUse (port : UInt16)
  | alreadyBound (port : UInt16)
  | notBound
  | invalidState (state : SocketState)
  | unknownSocket (id : SocketId)
  deriving DecidableEq, Repr

/-- The text an error is reported with. -/
def SocketError.message : SocketError → String
  | .portInUse port => s!"port {port} is already bound"
  | .alreadyBound port => s!"socket is already bound to port {port}"
  | .notBound => "socket is not bound to a port"
  | .invalidState state => s!"operation not allowed in state {state.name}"
  | .unknownSocket id => s!"no socket with id #{id}"

namespace Socket

/-- The state of a socket. -/
def state : Socket → SocketState
  | .fresh _ => .closed
  | .listener .. => .listen
  | .connection c => c.phase.state

/-- The port of a socket, once it has one. -/
def localPort? : Socket → Option UInt16
  | .fresh port => port
  | .listener port .. => some port
  | .connection c => some c.identity.localPort

/-- The end of the connection on the other side. -/
def remote? : Socket → Option (NodeAddr × UInt16)
  | .connection c => some (c.identity.remoteAddr, c.identity.remotePort)
  | _ => none

/-- Connections waiting to be handed out. -/
def backlog : Socket → List SocketId
  | .listener _ _ backlog => backlog
  | _ => []

/-- The sender of a connection. -/
def sender? : Socket → Option Sender
  | .connection c => some c.sender
  | _ => none

/-- How many bytes wait to be read. -/
def readable : Socket → Nat
  | .connection c => (c.phase.receiver?.map Receiver.readable).getD 0
  | _ => 0

/-- The peer has announced its end. -/
def peerClosed : Socket → Bool
  | .connection c => c.peerClosed
  | _ => false

/-- What the socket has counted. -/
def stats : Socket → Stats
  | .connection c => c.stats
  | _ => {}

/-- The port that a socket may listen or connect on: one it bound itself and
    still holds. -/
def usablePort : Socket → Except SocketError UInt16
  | .fresh (some port) => .ok port
  | .fresh none => .error .notBound
  | .connection c =>
    if c.phase.isClosed then .error .notBound else .error (.invalidState c.phase.state)
  | .listener .. => .error (.invalidState .listen)

end Socket

end ReliableStream
