/-! # States of a socket

    The states an application can tell apart. A socket that listens stays in
    `listen` until it is released; one that connects runs through the others
    in order and ends in `closed`. -/

namespace ReliableStream

/-- The state of a socket. -/
inductive SocketState where
  /-- There is no connection, or not any more. -/
  | closed
  /-- Waiting for connections on a port. -/
  | listen
  /-- A connection was asked for and is not yet answered. -/
  | synSent
  /-- Bytes flow in both directions. -/
  | established
  /-- One side has closed; queued bytes are still delivered. -/
  | shutdown
  deriving DecidableEq, Repr

/-- The name of a state. -/
def SocketState.name : SocketState → String
  | .closed => "CLOSED"
  | .listen => "LISTEN"
  | .synSent => "SYN_SENT"
  | .established => "ESTABLISHED"
  | .shutdown => "SHUTDOWN"

end ReliableStream
