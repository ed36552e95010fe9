import ReliableStream.Node.Basic
/-! # Calls as data

    Everything an application can ask of a node is one **call**, and what it
    gets is one **answer**. A run of an application is then a list of calls. -/

namespace ReliableStream

/-- A request of an application. -/
inductive Call where
  | socket
  | bind (id : SocketId) (port : UInt16)
  | listen (id : SocketId) (limit : Nat)
  | connect (id : SocketId) (remoteAddr : NodeAddr) (remotePort : UInt16)
  | accept (id : SocketId)
  | write (id : SocketId) (bytes : List UInt8)
  | read (id : SocketId) (count : Nat)
  | close (id : SocketId)
  | release (id : SocketId)
  deriving DecidableEq, Repr

/-- What an application gets. -/
inductive Answer where
  | done
  /-- The handle of a new socket. -/
  | created (id : SocketId)
  /-- The connection handed out, if there is one. -/
  | accepted (id : Option SocketId)
  /-- How many bytes were taken. -/
  | written (count : Nat)
  | bytes (bytes : List UInt8)
  | failed (error : SocketError)
  deriving DecidableEq, Repr

/-- Keeps the node as it is when a call fails. -/
def Node.orFail (n : Node) :
    Except SocketError (Answer × Node × List Effect) → Answer × Node × List Effect
  | .ok r => r
  | .error e => (.failed e, n, [])

/-- Serves a call at a time. -/
def Node.serve (n : Node) (now : Duration) : Call → Answer × Node × List Effect
  | .socket =>
    let (id, n) := n.socket
    (.created id, n, [])
  | .bind id port => n.orFail ((n.bind id port).map fun n => (.done, n, []))
  | .listen id limit => n.orFail ((n.listen id limit).map fun n => (.done, n, []))
  | .connect id remoteAddr remotePort =>
    n.orFail ((n.connect id remoteAddr remotePort now).map fun (n, fx) => (.done, n, fx))
  | .accept id =>
    let (child, n) := n.accept id
    (.accepted child, n, [])
  | .write id bytes =>
    n.orFail ((n.write id bytes now).map fun (count, n, fx) => (.written count, n, fx))
  | .read id count => n.orFail ((n.read id count).map fun (bytes, n) => (.bytes bytes, n, []))
  | .close id => n.orFail ((n.close id now).map fun (n, fx) => (.done, n, fx))
  | .release id => (.done, n.release id, [])

end ReliableStream
