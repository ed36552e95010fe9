import ReliableStream.Proofs.Changes
import ReliableStream.Proofs.Checked.Connections
import ReliableStream.Proofs.Courses
/-! # Nodes on checked words

    A node whose connections lie in flat memory and whose handles are words of
    32 bits. It takes the same inputs as the plain node. If all connections of a
    node are sized and its handles have not run out, it answers an input as the
    plain node does, and traps only where the clock of that one faults. -/

namespace ReliableStream

/-! ### Tables of other values -/

namespace Table

variable {κ α β : Type} [DecidableEq κ]

/-- The table with every value replaced. -/
def mapValues (f : α → β) (t : Table κ α) : Table κ β where
  entries := t.entries.map fun e => (e.1, f e.2)
  keys_nodup := by
    rw [List.map_map]
    exact t.keys_nodup

theorem get?_mapValues (f : α → β) (t : Table κ α) (k : κ) :
    (t.mapValues f).get? k = (t.get? k).map f := by
  unfold get? mapValues
  dsimp only
  induction t.entries with
  | nil => rfl
  | cons e rest ih =>
    by_cases he : e.1 = k
    · simp [lookup, he]
    · simp [lookup, he, ih]

theorem put_mapValues (f : α → β) (t : Table κ α) (k : κ) (a : α) :
    (t.mapValues f).put k (f a) = (t.put k a).mapValues f := by
  apply Table.ext
  unfold put mapValues
  dsimp only
  induction t.entries with
  | nil => rfl
  | cons e rest ih =>
    by_cases he : e.1 = k
    · simp [putEntry, he]
    · simp [putEntry, he, ih]

theorem erase_mapValues (f : α → β) (t : Table κ α) (k : κ) :
    (t.mapValues f).erase k = (t.erase k).mapValues f := by
  apply Table.ext
  unfold erase mapValues
  dsimp only
  rw [List.filter_map]
  rfl

end Table

namespace Checked

/-! ### Sockets -/

/-- The three things a socket can be. -/
inductive Socket where
  | fresh (port : Option UInt16)
  | listener (port : UInt16) (limit : Nat) (backlog : List SocketId)
  | connection (c : Connection)

namespace Socket

/-- The state of a socket. -/
def state : Socket → SocketState
  | .fresh _ => .closed
  | .listener .. => .listen
  | .connection c => c.phase.state

/-- The port of a socket, once it has one. -/
def localPort? : Socket → Option UInt16
  | .fresh port => port
  | .listener port .. => some port
  | .connection c => some c.identity.localPort

/-- Connections waiting to be handed out. -/
def backlog : Socket → List SocketId
  | .listener _ _ backlog => backlog
  | _ => []

/-- The port that a socket may listen or connect on. -/
def usablePort : Socket → Except SocketError UInt16
  | .fresh (some port) => .ok port
  | .fresh none => .error .notBound
  | .connection c =>
    if c.phase.isClosed then .error .notBound else .error (.invalidState c.phase.state)
  | .listener .. => .error (.invalidState .listen)

/-- How many bytes wait to be read. -/
def readable : Socket → Except Trap Nat
  | .connection c =>
    match c.phase.receiver? with
    | some r => r.readable
    | none => .ok 0
  | _ => .ok 0

/-- How many bytes are written and not acknowledged. -/
def buffered : Socket → Except Trap Nat
  | .connection c => c.sender.buffered
  | _ => .ok 0

/-- The number behind the last byte written, for a connection. -/
def endSeq? : Socket → Except Trap (Option UInt32)
  | .connection c => do return some (← c.sender.endSeq)
  | _ => .ok none

end Socket

/-! ### Nodes -/

/-- A node and its sockets. -/
structure Node where
  addr : NodeAddr
  profile : Profile
  sockets : Table SocketId Socket
  ports : PortTable
  nextId : SocketId

namespace Node

/-- A node without sockets, if the settings are sound. -/
def create (addr : NodeAddr) (settings : Settings) : Except SettingsError Node :=
  settings.check.map fun profile =>
    { addr, profile, sockets := .empty, ports := .empty, nextId := 1 }

/-- The socket of a handle. -/
def socket? (n : Node) (id : SocketId) : Option Socket := n.sockets.get? id

/-- The state of a socket; one that does not exist is closed. -/
def state (n : Node) (id : SocketId) : SocketState :=
  ((n.socket? id).map Socket.state).getD .closed

/-- The surroundings of a socket at a time. -/
def context (n : Node) (id : SocketId) (now : Duration) : Context :=
  { addr := n.addr, profile := n.profile, id, now }

/-- Replaces a socket. -/
def withSocket (n : Node) (id : SocketId) (s : Socket) : Node :=
  { n with sockets := n.sockets.put id s }

/-- Puts a connection back after it acted. -/
def settle (n : Node) (id : SocketId) (before after : Connection) : Node :=
  let n := n.withSocket id (.connection after)
  if after.phase.isClosed && !before.phase.isClosed then
    { n with ports := n.ports.vacate id before.identity before.origin }
  else n

/-! ### Calls of the application -/

/-- Creates a socket. -/
def socket (n : Node) : Except Trap (SocketId × Node) := do
  let nextId ← add .bits32 n.nextId 1
  return (n.nextId, { n.withSocket n.nextId (.fresh none) with nextId })

/-- Looks a socket up for a call. -/
def find (n : Node) (id : SocketId) : Except SocketError Socket :=
  match n.socket? id with
  | some s => .ok s
  | none => .error (.unknownSocket id)

/-- Binds a socket to a port that nobody else has. -/
def bind (n : Node) (id : SocketId) (port : UInt16) : Except SocketError Node := do
  let s ← n.find id
  match s.localPort? with
  | some bound => .error (.alreadyBound bound)
  | none =>
    match n.ports.claim? port with
    | some ports => .ok { n.withSocket id (.fresh (some port)) with ports }
    | none => .error (.portInUse port)

/-- Lets a bound socket listen. -/
def listen (n : Node) (id : SocketId) (limit : Nat) : Except SocketError Node := do
  let s ← n.find id
  let port ← s.usablePort
  .ok { n.withSocket id (.listener port limit []) with ports := n.ports.listen port id }

/-- Asks for a connection from a bound socket. -/
def connect (n : Node) (id : SocketId) (remoteAddr : NodeAddr) (remotePort : UInt16)
    (now : Duration) : Except Trap (Except SocketError (Node × List Effect)) :=
  match n.find id >>= Socket.usablePort with
  | .error e => .ok (.error e)
  | .ok localPort => do
    let identity : Identity := { localPort, remoteAddr, remotePort }
    let opened ← Connection.request (n.context id now) identity
    return .ok ({ n.withSocket id (.connection opened.1) with
      ports := n.ports.connect identity id }, opened.2)

/-- Whether a socket has no connection, or does not exist. -/
def isClosed (n : Node) (id : SocketId) : Bool := n.state id == .closed

/-- Removes sockets from the node. -/
def discard (n : Node) (ids : List SocketId) : Node :=
  { n with sockets := ids.foldl Table.erase n.sockets }

/-- Hands out the first connection in the queue of a listener that has not
    ended while it waited. -/
def accept (n : Node) (id : SocketId) : Option SocketId × Node :=
  match n.socket? id with
  | some (.listener port limit backlog) =>
    let ended := backlog.takeWhile n.isClosed
    match backlog.dropWhile n.isClosed with
    | child :: rest => (some child, (n.withSocket id (.listener port limit rest)).discard ended)
    | [] => (none, (n.withSocket id (.listener port limit [])).discard ended)
  | _ => (none, n)

/-- Queues bytes on a connection. -/
def write (n : Node) (id : SocketId) (bytes : List UInt8) (now : Duration) :
    Except Trap (Except SocketError (Nat × Node × List Effect)) :=
  match n.find id with
  | .error e => .ok (.error e)
  | .ok (.connection c) => do
    let (count, c, effects) ← c.write (n.context id now) bytes
    return .ok (count, n.withSocket id (.connection c), effects)
  | .ok _ => .ok (.ok (0, n, []))

/-- Takes out up to `count` bytes that have arrived. -/
def read (n : Node) (id : SocketId) (count : Nat) :
    Except Trap (Except SocketError (List UInt8 × Node)) :=
  match n.find id with
  | .error e => .ok (.error e)
  | .ok (.connection c) => do
    let (bytes, c) ← c.read count
    return .ok (bytes, n.withSocket id (.connection c))
  | .ok _ => .ok (.ok ([], n))

/-- The port table after a socket is gone. -/
def portsWithout (n : Node) (id : SocketId) : Socket → PortTable
  | .fresh none => n.ports
  | .fresh (some port) => n.ports.free port
  | .listener port .. => n.ports.free port
  | .connection c =>
    if c.phase.isClosed then n.ports else n.ports.vacate id c.identity c.origin

/-- Forgets one socket and what it holds. -/
def forget (n : Node) (id : SocketId) : Node :=
  match n.socket? id with
  | some s => { n with sockets := n.sockets.erase id, ports := n.portsWithout id s }
  | none => n

/-- Forgets a socket together with its queue. -/
def release (n : Node) (id : SocketId) : Node :=
  match n.socket? id with
  | some s => s.backlog.foldl forget (n.forget id)
  | none => n

/-- Closes a socket. -/
def close (n : Node) (id : SocketId) (now : Duration) :
    Except Trap (Except SocketError (Node × List Effect)) :=
  match n.find id with
  | .error e => .ok (.error e)
  | .ok (.fresh _) => .ok (.ok (n, []))
  | .ok (.listener ..) => .ok (.ok (n.release id, []))
  | .ok (.connection c) =>
    match c.phase with
    | .synSent => .ok (.ok (n.release id, []))
    | _ => do
      let (c, effects) ← c.close (n.context id now)
      return .ok (n.withSocket id (.connection c), effects)

/-- Keeps the node as it is when a call fails. -/
def orFail (n : Node) :
    Except SocketError (Answer × Node × List Effect) → Answer × Node × List Effect
  | .ok r => r
  | .error e => (.failed e, n, [])

/-- Serves a call at a time. -/
def serve (n : Node) (now : Duration) : Call → Except Trap (Answer × Node × List Effect)
  | .socket => do
    let (id, n) ← n.socket
    return (.created id, n, [])
  | .bind id port => .ok (n.orFail ((n.bind id port).map fun n => (.done, n, [])))
  | .listen id limit => .ok (n.orFail ((n.listen id limit).map fun n => (.done, n, [])))
  | .connect id remoteAddr remotePort => do
    let result ← n.connect id remoteAddr remotePort now
    return n.orFail (result.map fun (n, fx) => (.done, n, fx))
  | .accept id =>
    let (child, n) := n.accept id
    .ok (.accepted child, n, [])
  | .write id bytes => do
    let result ← n.write id bytes now
    return n.orFail (result.map fun (count, n, fx) => (.written count, n, fx))
  | .read id count => do
    let result ← n.read id count
    return n.orFail (result.map fun (bytes, n) => (.bytes bytes, n, []))
  | .close id => do
    let result ← n.close id now
    return n.orFail (result.map fun (n, fx) => (.done, n, fx))
  | .release id => .ok (.done, n.release id, [])

/-! ### Packets and timers -/

/-- A request for a connection arrives at a listener. -/
def onRequest (n : Node) (id : SocketId) (segment : Segment) (src : NodeAddr) (now : Duration) :
    Except Trap (Node × List Effect) :=
  match n.socket? id with
  | some (.listener port limit backlog) =>
    if limit ≤ backlog.length then .ok (n, [])
    else do
      let child := n.nextId
      let identity : Identity :=
        { localPort := port, remoteAddr := src, remotePort := segment.srcPort }
      let spawned ← Connection.answer (n.context child now) identity segment
      -- The handle is used up only now that there is a connection for it.
      let nextId ← add .bits32 child 1
      let n := n.withSocket id (.listener port limit (backlog ++ [child]))
      let n := n.withSocket child (.connection spawned.1)
      return ({ n with ports := n.ports.connect identity child, nextId }, spawned.2)
  | _ => .ok (n, [])

/-- A segment arrives at a socket that holds its connection. -/
def onConnectionSegment (n : Node) (id : SocketId) (segment : Segment) (now : Duration) :
    Except Trap (Node × List Effect) :=
  match n.socket? id with
  | some (.connection c) => do
    let moved ← c.onSegment (n.context id now) segment
    return (n.settle id c moved.1, moved.2)
  | _ => .ok (n, [])

/-- A segment arrives from another node. -/
def onSegment (n : Node) (segment : Segment) (src : NodeAddr) (now : Duration) :
    Except Trap (Node × List Effect) :=
  match n.ports.route segment src with
  | .listener id => n.onRequest id segment src now
  | .connection id => n.onConnectionSegment id segment now
  | .reset reply => do
    let packet ← send n.profile n.addr src reply
    return (n, [.send packet])
  | .drop => .ok (n, [])

/-- A packet arrives. -/
def onPacket (n : Node) (packet : Packet) (now : Duration) : Except Trap (Node × List Effect) :=
  match packet.protocol with
  | .transport =>
    if packet.ttl = 0 then .ok (n, [])
    else do
      match ← unpack packet.payload with
      | .ok segment => n.onSegment segment packet.src now
      | .error _ => return (n, [])
  | _ => .ok (n, [])

/-- A timer comes back. -/
def onTimer (n : Node) (timer : Timer) (now : Duration) : Except Trap (Node × List Effect) :=
  match n.socket? timer.socket with
  | some (.connection c) => do
    let moved ← c.onTimer (n.context timer.socket now) timer.event
    return (n.settle timer.socket c moved.1, moved.2)
  | _ => .ok (n, [])

/-- The answer of a node. -/
def react (n : Node) (now : Duration) : Input → Except Trap (Node × List Effect)
  | .call call => do return (← n.serve now call).2
  | .packet packet => n.onPacket packet now
  | .timer timer => n.onTimer timer now

/-- A node answers an input with effects. -/
def transducer : Transducer Node (Duration × Input) (Node × List Effect) Trap where
  answer n p := n.react p.1 p.2
  next := Prod.fst

/-- The node after one input after the other, and all that it did. -/
def run (n : Node) (inputs : List (Duration × Input)) : Except Trap (Node × List Effect) :=
  (transducer.course n inputs).recorded (fun done step => done ++ step.answer.2) []

end Node

end Checked

open Checked

/-! ### Sockets and nodes in flat memory -/

namespace Socket

/-- A socket in flat memory. -/
def flat : Socket → Checked.Socket
  | .fresh port => .fresh port
  | .listener port limit backlog => .listener port limit backlog
  | .connection c => .connection c.flat

theorem state_flat (s : Socket) : s.flat.state = s.state := by
  cases s with
  | connection c => exact Phase.state_flat c.phase
  | _ => rfl

theorem localPort?_flat (s : Socket) : s.flat.localPort? = s.localPort? := by cases s <;> rfl

theorem backlog_flat (s : Socket) : s.flat.backlog = s.backlog := by cases s <;> rfl

theorem usablePort_flat (s : Socket) : s.flat.usablePort = s.usablePort := by
  cases s with
  | fresh port => cases port <;> rfl
  | listener => rfl
  | connection c =>
    unfold flat Checked.Socket.usablePort usablePort
    dsimp only
    rw [Connection.phase_flat, Phase.isClosed_flat, Phase.state_flat]

end Socket

namespace Node

variable {n : Node} {now : Duration} {id : SocketId}

/-- A node in flat memory. -/
def flat (n : Node) : Checked.Node where
  addr := n.addr
  profile := n.profile
  sockets := n.sockets.mapValues Socket.flat
  ports := n.ports
  nextId := n.nextId

@[simp] theorem ports_flat (n : Node) : n.flat.ports = n.ports := rfl

@[simp] theorem nextId_flat (n : Node) : n.flat.nextId = n.nextId := rfl

@[simp] theorem context_flat (n : Node) (id : SocketId) (now : Duration) :
    n.flat.context id now = n.context id now := rfl

/-- What a node does, in flat memory. -/
def flatten (r : Node × List Effect) : Checked.Node × List Effect := (r.1.flat, r.2)

/-- Every connection of a node is sized. -/
def Sized (n : Node) : Prop := ∀ id c, n.socket? id = some (.connection c) → c.Sized

theorem create_flat (addr : NodeAddr) (settings : Settings) :
    Checked.Node.create addr settings = (create addr settings).map flat := by
  unfold Checked.Node.create create
  cases settings.check <;> rfl

theorem socket?_flat (n : Node) (id : SocketId) :
    n.flat.socket? id = (n.socket? id).map Socket.flat :=
  Table.get?_mapValues ..

theorem withSocket_flat (n : Node) (id : SocketId) (s : Socket) :
    n.flat.withSocket id s.flat = (n.withSocket id s).flat := by
  unfold Checked.Node.withSocket withSocket flat
  dsimp only
  rw [Table.put_mapValues]

theorem withFresh_flat (n : Node) (id : SocketId) (port : Option UInt16) :
    n.flat.withSocket id (.fresh port) = (n.withSocket id (.fresh port)).flat :=
  withSocket_flat n id (.fresh port)

theorem withListener_flat (n : Node) (id : SocketId) (port : UInt16) (limit : Nat)
    (backlog : List SocketId) : n.flat.withSocket id (.listener port limit backlog) =
      (n.withSocket id (.listener port limit backlog)).flat :=
  withSocket_flat n id (.listener port limit backlog)

theorem withConnection_flat (n : Node) (id : SocketId) (c : Connection) :
    n.flat.withSocket id (.connection c.flat) = (n.withSocket id (.connection c)).flat :=
  withSocket_flat n id (.connection c)

theorem state_flat (n : Node) (id : SocketId) : n.flat.state id = n.state id := by
  unfold Checked.Node.state state
  rw [socket?_flat, Option.map_map]
  exact congrArg (fun f => ((n.socket? id).map f).getD .closed) (funext Socket.state_flat)

theorem isClosed_flat (n : Node) : n.flat.isClosed = n.isClosed := by
  funext id
  unfold Checked.Node.isClosed isClosed
  rw [state_flat]

theorem settle_flat (n : Node) (id : SocketId) (c c' : Connection) :
    n.flat.settle id c.flat c'.flat = (n.settle id c c').flat := by
  unfold Checked.Node.settle settle
  rw [withConnection_flat, Connection.phase_flat,
    Connection.phase_flat, Phase.isClosed_flat, Phase.isClosed_flat]
  dsimp only
  split <;> rfl

theorem find_flat (n : Node) (id : SocketId) : n.flat.find id = (n.find id).map Socket.flat := by
  unfold Checked.Node.find find
  rw [socket?_flat]
  cases n.socket? id <;> rfl

theorem discard_flat (n : Node) (ids : List SocketId) :
    n.flat.discard ids = (n.discard ids).flat := by
  unfold Checked.Node.discard discard flat
  dsimp only
  congr 1
  induction ids generalizing n with
  | nil => rfl
  | cons first rest ih =>
    rw [List.foldl_cons, List.foldl_cons, Table.erase_mapValues]
    exact ih { n with sockets := n.sockets.erase first }

theorem forget_flat (n : Node) (id : SocketId) : n.flat.forget id = (n.forget id).flat := by
  unfold Checked.Node.forget forget
  rw [socket?_flat]
  cases n.socket? id with
  | none => rfl
  | some s =>
    have hports : n.flat.portsWithout id s.flat = n.portsWithout id s := by
      cases s with
      | fresh port => cases port <;> rfl
      | listener => rfl
      | connection c =>
        unfold Socket.flat Checked.Node.portsWithout portsWithout
        dsimp only
        rw [Connection.phase_flat, Phase.isClosed_flat]
        rfl
    dsimp only [Option.map_some]
    rw [hports]
    unfold flat
    dsimp only
    rw [Table.erase_mapValues]

theorem release_flat (n : Node) (id : SocketId) : n.flat.release id = (n.release id).flat := by
  -- Those in the queue are forgotten one by one.
  have hall : ∀ (ids : List SocketId) (n : Node),
      ids.foldl Checked.Node.forget n.flat = (ids.foldl forget n).flat := by
    intro ids
    induction ids with
    | nil => exact fun _ => rfl
    | cons first rest ih =>
      intro n
      rw [List.foldl_cons, List.foldl_cons, forget_flat, ih]
  unfold Checked.Node.release release
  rw [socket?_flat]
  cases n.socket? id with
  | none => rfl
  | some s =>
    dsimp only [Option.map_some]
    rw [Socket.backlog_flat, forget_flat, hall]

/-! ### Calls -/

theorem bind_flat (n : Node) (id : SocketId) (port : UInt16) :
    n.flat.bind id port = (n.bind id port).map flat := by
  unfold Checked.Node.bind bind
  rw [find_flat]
  cases n.find id with
  | error e => rfl
  | ok s =>
    dsimp only [Except.map, Except.bind, Bind.bind]
    rw [Socket.localPort?_flat]
    cases s.localPort? with
    | some bound => rfl
    | none =>
      dsimp only
      rw [ports_flat]
      cases n.ports.claim? port with
      | none => rfl
      | some ports =>
        dsimp only
        rw [withFresh_flat]
        rfl

theorem listen_flat (n : Node) (id : SocketId) (limit : Nat) :
    n.flat.listen id limit = (n.listen id limit).map flat := by
  unfold Checked.Node.listen listen
  rw [find_flat]
  cases n.find id with
  | error e => rfl
  | ok s =>
    dsimp only [Except.map, Except.bind, Bind.bind]
    rw [Socket.usablePort_flat]
    cases s.usablePort with
    | error e => rfl
    | ok port =>
      dsimp only
      rw [withListener_flat]
      rfl

theorem accept_flat (n : Node) (id : SocketId) :
    n.flat.accept id = ((n.accept id).1, (n.accept id).2.flat) := by
  unfold Checked.Node.accept accept
  rw [socket?_flat]
  cases n.socket? id with
  | none => rfl
  | some s =>
    cases s with
    | listener port limit backlog =>
      dsimp only [Option.map_some, Socket.flat]
      rw [isClosed_flat]
      cases backlog.dropWhile n.isClosed with
      | nil =>
        dsimp only
        rw [withListener_flat, discard_flat]
      | cons child rest =>
        dsimp only
        rw [withListener_flat, discard_flat]
    | _ => rfl

theorem connect_flat (n : Node) (id : SocketId) (remoteAddr : NodeAddr) (remotePort : UInt16)
    (now : Duration) : n.flat.connect id remoteAddr remotePort now =
      .ok ((n.connect id remoteAddr remotePort now).map flatten) := by
  unfold Checked.Node.connect connect
  rw [find_flat]
  cases n.find id with
  | error e => rfl
  | ok s =>
    dsimp only [Except.map, Except.bind, Bind.bind]
    rw [Socket.usablePort_flat]
    cases s.usablePort with
    | error e => rfl
    | ok port =>
      dsimp only
      rw [context_flat]
      have hopened := Connection.request_flat (n.context id now) ⟨port, remoteAddr, remotePort⟩
      generalize Connection.request _ _ = opened at hopened
      refine (bind_of_eq_ok hopened _).trans ?_
      dsimp only [Connection.flatten]
      rw [withConnection_flat]
      rfl

theorem write_flat (h : n.Sized) (id : SocketId) (bytes : List UInt8) (now : Duration) :
    n.flat.write id bytes now =
      .ok ((n.write id bytes now).map fun r => (r.1, flatten r.2)) := by
  unfold Checked.Node.write write find
  rw [find_flat]
  unfold find
  cases hsocket : n.socket? id with
  | none => rfl
  | some s =>
    cases s with
    | connection c =>
      have hwritten := Connection.write_flat (n.context id now) (h id c hsocket) bytes
      dsimp only [Except.map, Except.bind, Bind.bind, Socket.flat]
      rw [context_flat]
      generalize c.write (n.context id now) bytes = written at hwritten
      refine (bind_of_eq_ok hwritten _).trans ?_
      dsimp only [Connection.flatten]
      rw [withConnection_flat]
      rfl
    | _ => rfl

theorem read_flat (h : n.Sized) (id : SocketId) (count : Nat) :
    n.flat.read id count = .ok ((n.read id count).map fun r => (r.1, r.2.flat)) := by
  unfold Checked.Node.read read find
  rw [find_flat]
  unfold find
  cases hsocket : n.socket? id with
  | none => rfl
  | some s =>
    cases s with
    | connection c =>
      have htaken := Connection.read_flat (h id c hsocket) count
      dsimp only [Except.map, Except.bind, Bind.bind, Socket.flat]
      generalize c.read count = taken at htaken
      refine (bind_of_eq_ok htaken _).trans ?_
      dsimp only
      rw [withConnection_flat]
      rfl
    | _ => rfl

theorem close_flat (h : n.Sized) (id : SocketId) (now : Duration) :
    n.flat.close id now = .ok ((n.close id now).map flatten) := by
  unfold Checked.Node.close close find
  rw [find_flat]
  unfold find
  cases hsocket : n.socket? id with
  | none => rfl
  | some s =>
    cases s with
    | fresh => rfl
    | listener =>
      dsimp only [Except.map, Except.bind, Bind.bind, Socket.flat]
      rw [release_flat]
      rfl
    | connection c =>
      have hclosed := Connection.close_flat (n.context id now) (h id c hsocket)
      dsimp only [Except.map, Except.bind, Bind.bind, Socket.flat]
      rw [Connection.phase_flat,
        context_flat]
      cases hphase : c.phase with
      | synSent =>
        dsimp only [Phase.flat]
        rw [release_flat]
        rfl
      | _ =>
        dsimp only [Phase.flat]
        generalize c.close (n.context id now) = closed at hclosed
        refine (bind_of_eq_ok hclosed _).trans ?_
        dsimp only [Connection.flatten]
        rw [withConnection_flat]
        rfl

theorem orFail_flat (n : Node) {α β : Type} (f : α → β) (k : α → Answer × Node × List Effect)
    (k' : β → Answer × Checked.Node × List Effect)
    (h : ∀ a, k' (f a) = ((k a).1, flatten (k a).2)) (result : Except SocketError α) :
    n.flat.orFail ((result.map f).map k') =
      ((n.orFail (result.map k)).1, flatten (n.orFail (result.map k)).2) := by
  cases result with
  | error e => rfl
  | ok a => exact h a

/-- Handles have not run out if one more is a word. -/
theorem socket_flat (h : n.nextId + 1 < 4_294_967_296) :
    n.flat.socket = .ok (n.socket.1, n.socket.2.flat) := by
  unfold Checked.Node.socket
  rw [nextId_flat, add_bits32 h, ok_bind, withFresh_flat]
  rfl

theorem serve_flat (h : n.Sized) (now : Duration) (call : Call)
    (hids : (n.serve now call).2.1.nextId < 4_294_967_296) :
    n.flat.serve now call = .ok ((n.serve now call).1, flatten (n.serve now call).2) := by
  unfold Checked.Node.serve serve
  cases call with
  | socket =>
    dsimp only
    rw [socket_flat hids]
    rfl
  | bind id port =>
    dsimp only
    rw [bind_flat, orFail_flat n flat (fun n => (.done, n, [])) _ fun _ => rfl]
  | listen id limit =>
    dsimp only
    rw [listen_flat, orFail_flat n flat (fun n => (.done, n, [])) _ fun _ => rfl]
  | connect id remoteAddr remotePort =>
    dsimp only
    rw [connect_flat, ok_bind, orFail_flat n flatten (fun r => (.done, r.1, r.2)) _ fun _ => rfl]
    rfl
  | accept id =>
    dsimp only
    rw [accept_flat]
    rfl
  | write id bytes =>
    dsimp only
    rw [write_flat h, ok_bind,
      orFail_flat n _ (fun r => (.written r.1, r.2.1, r.2.2)) _ fun _ => rfl]
    rfl
  | read id count =>
    dsimp only
    rw [read_flat h, ok_bind, orFail_flat n _ (fun r => (.bytes r.1, r.2, [])) _ fun _ => rfl]
    rfl
  | close id =>
    dsimp only
    rw [close_flat h, ok_bind, orFail_flat n flatten (fun r => (.done, r.1, r.2)) _ fun _ => rfl]
    rfl
  | release id =>
    dsimp only
    rw [release_flat]
    rfl

/-! ### Packets and timers -/

theorem onRequest_flat (n : Node) (id : SocketId) (segment : Segment) (src : NodeAddr)
    (now : Duration) (hids : (n.onRequest id segment src now).1.nextId < 4_294_967_296) :
    n.flat.onRequest id segment src now = .ok (flatten (n.onRequest id segment src now)) := by
  unfold Checked.Node.onRequest
  unfold onRequest at hids ⊢
  rw [socket?_flat]
  cases hsocket : n.socket? id with
  | none => rfl
  | some s =>
    rw [hsocket] at hids
    cases s with
    | listener port limit backlog =>
      dsimp only [Option.map_some, Socket.flat] at hids ⊢
      by_cases hfull : limit ≤ backlog.length
      · rw [if_pos hfull, if_pos hfull]
        rfl
      · rw [if_neg hfull] at hids ⊢
        rw [if_neg hfull, nextId_flat, context_flat]
        have hspawned := Connection.answer_flat (n.context n.nextId now)
          ⟨port, src, segment.srcPort⟩ segment
        generalize Connection.answer _ _ _ = spawned at hspawned hids
        refine (bind_of_eq_ok hspawned _).trans ?_
        dsimp only [Connection.flatten] at hids ⊢
        rw [add_bits32 hids, ok_bind, withListener_flat, withConnection_flat]
        rfl
    | _ => rfl

theorem onConnectionSegment_flat (h : n.Sized) (id : SocketId) (segment : Segment)
    (now : Duration) : n.flat.onConnectionSegment id segment now =
      lift flatten (n.onConnectionSegment id segment now) := by
  unfold Checked.Node.onConnectionSegment onConnectionSegment
  rw [socket?_flat]
  cases hsocket : n.socket? id with
  | none => rfl
  | some s =>
    cases s with
    | connection c =>
      have hmoved := Connection.onSegment_flat (n.context id now) (h id c hsocket) segment
      dsimp only [Option.map_some, Socket.flat]
      rw [context_flat, hmoved]
      cases c.onSegment (n.context id now) segment with
      | error fault => rfl
      | ok moved =>
        refine (ok_bind _ _).trans ?_
        dsimp only [Connection.flatten]
        rw [settle_flat]
        rfl
    | _ => rfl

/-- A reset has no payload, and so it can be encoded. -/
theorem length_of_reset {ports : PortTable} {segment reply : Segment} {src : NodeAddr}
    (h : ports.route segment src = .reset reply) : reply.payload.length ≤ Segment.maxPayload := by
  obtain ⟨srcPort, dstPort, rfl⟩ :
      ∃ srcPort dstPort, reply = .control srcPort dstPort .fin 0 0 := by
    unfold PortTable.route at h
    (repeat' split at h) <;> cases h <;> exact ⟨_, _, rfl⟩
  exact Nat.zero_le _

theorem onSegment_flat (h : n.Sized) (segment : Segment) (src : NodeAddr) (now : Duration)
    (hids : ∀ n' effects, n.onSegment segment src now = .ok (n', effects) →
      n'.nextId < 4_294_967_296) :
    n.flat.onSegment segment src now = lift flatten (n.onSegment segment src now) := by
  unfold Checked.Node.onSegment
  unfold onSegment at hids ⊢
  rw [ports_flat]
  cases hroute : n.ports.route segment src with
  | listener id =>
    rw [hroute] at hids
    exact onRequest_flat n id segment src now (hids _ _ rfl)
  | connection id => exact onConnectionSegment_flat h id segment now
  | reset reply =>
    obtain ⟨packet, hpacket, hsend⟩ :=
      send_eq_ok n.profile n.addr src (length_of_reset hroute)
    dsimp only
    rw [hpacket]
    exact (bind_of_eq_ok hsend _).trans rfl
  | drop => rfl

theorem onPacket_flat (h : n.Sized) (packet : Packet) (now : Duration)
    (hids : ∀ n' effects, n.onPacket packet now = .ok (n', effects) →
      n'.nextId < 4_294_967_296) :
    n.flat.onPacket packet now = lift flatten (n.onPacket packet now) := by
  unfold Checked.Node.onPacket
  unfold onPacket Packet.segment? at hids ⊢
  cases hprotocol : packet.protocol with
  | transport =>
    rw [hprotocol] at hids
    dsimp only at hids ⊢
    by_cases hspent : packet.ttl = 0
    · rw [if_pos hspent, if_pos hspent]
      rfl
    · rw [if_neg hspent] at hids ⊢
      rw [if_neg hspent, unpack_eq_ok, ok_bind]
      cases hdecode : Segment.decode packet.payload with
      | error e => rfl
      | ok segment =>
        rw [hdecode] at hids
        exact onSegment_flat h segment packet.src now hids
  | _ =>
    dsimp only
    split <;> rfl

theorem onTimer_flat (h : n.Sized) (timer : Timer) (now : Duration) :
    n.flat.onTimer timer now = .ok (flatten (n.onTimer timer now)) := by
  unfold Checked.Node.onTimer onTimer
  rw [socket?_flat]
  cases hsocket : n.socket? timer.socket with
  | none => rfl
  | some s =>
    cases s with
    | connection c =>
      have hmoved := Connection.onTimer_flat (n.context timer.socket now)
        (h timer.socket c hsocket) timer.event
      dsimp only [Option.map_some, Socket.flat]
      rw [context_flat]
      refine (bind_of_eq_ok hmoved _).trans ?_
      dsimp only [Connection.flatten]
      rw [settle_flat]
      rfl
    | _ => rfl

/-- **A node of sized connections does the same in flat memory**, and traps only
    where its clock faults. -/
theorem react_flat (h : n.Sized) (now : Duration) (input : Input)
    (hids : ∀ n' effects, n.react now input = .ok (n', effects) → n'.nextId < 4_294_967_296) :
    n.flat.react now input = lift flatten (n.react now input) := by
  cases input with
  | call call =>
    unfold Checked.Node.react
    dsimp only
    rw [serve_flat h now call (hids _ _ rfl)]
    rfl
  | packet packet => exact onPacket_flat h packet now hids
  | timer timer => exact onTimer_flat h timer now

/-! ### Nodes stay sized -/

theorem Sized.of_create {addr : NodeAddr} {settings : Settings}
    (h : Node.create addr settings = .ok n) : n.Sized := by
  intro id c hsocket
  rw [socket?_of_create h] at hsocket
  cases hsocket

theorem Sized.change {n' : Node} {input : Input} {effects : List Effect} (h : n.Sized)
    (hchange : n.Change now input n' effects) : n'.Sized := by
  intro id c hsocket
  -- A connection is new, or it has answered something, or it had no part.
  cases hchange.became hsocket with
  | kept hbefore => exact h id c hbefore
  | opened _ hopened => exact Connection.sized_of_request hopened
  | spawned _ _ hopened => exact Connection.sized_of_answer hopened
  | moved _ hbefore hrespond =>
    exact (Connection.responds_of_respond hrespond).sized (h id _ hbefore)

end Node

end ReliableStream
