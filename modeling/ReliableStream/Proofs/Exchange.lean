import ReliableStream.Proofs.Session
import ReliableStream.Proofs.Turns
/-! # Exchanges

    An **exchange** is two nodes joined by a network, with all the sockets that
    their applications open one after the other. The network keeps every packet
    that was ever sent from one node to the other, and may deliver each of them
    any number of times, in any order, or never. Timers come back whenever they
    like, and the applications call what they please.

    Nothing in a packet tells which of the connections between the same two
    ports it was sent for. An exchange keeps count of that beside the packets:
    which socket sent them, and which one had last asked for a connection
    between their ports at the time. -/

namespace ReliableStream

/-! ### Two nodes -/

/-- Two new nodes, one to ask for connections and one to answer. -/
structure Exchange where
  addr : Side → NodeAddr
  settings : Side → Settings
  node : Side → Node
  created : ∀ side, Node.create (addr side) (settings side) = .ok (node side)
  capacity_le : ∀ side, (node side).profile.shape.capacity ≤ 2_147_483_648

namespace Exchange

/-- The settings of the two nodes, as those of a session. -/
def session (x : Exchange) : Session where
  addr := x.addr
  profile side := (x.node side).profile
  socket _ := 0
  port _ := 0
  capacity_le := x.capacity_le

/-- The **line** that a connection is on: its identity, as the opening node
    would say it. -/
def line (x : Exchange) : Side → Identity → Identity
  | .opening, identity => identity
  | .answering, identity => ⟨identity.remotePort, x.addr .answering, identity.localPort⟩

/-- The line that a packet from a side is on. -/
def lineOf? (x : Exchange) (side : Side) (packet : Packet) : Option Identity :=
  packet.segment?.map fun s => x.line side.other (PortTable.identityOf s packet.src)

/-- A packet on the network, with what the network does not know of it. -/
structure Letter where
  packet : Packet
  /-- The socket that sent it. -/
  sender : Option SocketId
  /-- The position in its stream that it is about. -/
  position : Nat
  /-- The socket that had last asked for a connection on its line when it was
      sent. -/
  era : Option SocketId
  deriving DecidableEq, Repr

/-- One node, with what its applications did so far. -/
structure Site where
  node : Node
  /-- The bytes that were taken from writes on a socket. -/
  written : SocketId → List UInt8
  /-- The bytes that were handed out by reads on a socket. -/
  read : SocketId → List UInt8
  /-- The letters whose bytes were taken into the stream of a socket. -/
  sources : SocketId → List Letter
  /-- Everything that was ever sent to the other node. -/
  sent : List Letter

namespace Site

/-- The end of a connection that a socket is. -/
def endpoint? (s : Site) (id : SocketId) : Option Session.Endpoint :=
  match s.node.socket? id with
  | some (.connection c) => some ⟨c, s.written id, s.read id⟩
  | _ => none

/-- The bytes delivered to a socket: those read, and those that can still be
    read. -/
def delivered (s : Site) (id : SocketId) : List UInt8 :=
  match s.endpoint? id with
  | some e => e.accepted
  | none => s.read id

/-- A packet as it enters the network. -/
def letter (s : Site) (actor : Option SocketId) (era : Packet → Option SocketId)
    (packet : Packet) : Letter where
  packet := packet
  sender := actor
  position :=
    match actor.bind s.endpoint?, packet.segment? with
    | some e, some segment => e.positionOf segment
    | _, _ => 0
  era := era packet

/-- The node after an input, with the bytes that its application exchanged. -/
def moved (s : Site) (now : Duration) (input : Input) (node : Node) : Site :=
  { s with
    node
    written id :=
      if s.node.actor? input = some id then s.written id ++ s.node.taken now input
      else s.written id
    read id :=
      if s.node.actor? input = some id then s.read id ++ s.node.handed now input
      else s.read id }

/-- The site after an input, which was caused by a letter if it is a packet,
    where `latest` asked last for each line. -/
def after (x : Exchange) (side : Side) (latest : Identity → Option SocketId) (s : Site)
    (now : Duration) (input : Input) (cause : Option Letter) (node : Node)
    (effects : List Effect) : Site :=
  let s' := s.moved now input node
  { s' with
    sources id :=
      if s.node.actor? input = some id ∧ (s.delivered id).length < (s'.delivered id).length then
        s.sources id ++ cause.toList
      else s.sources id
    -- Packets to elsewhere leave the exchange.
    sent := s.sent ++ ((packetsOf effects).filter (·.dest = x.addr side.other)).map
      (s'.letter (s.node.actor? input) fun packet => (x.lineOf? side packet).bind latest) }

end Site

/-! ### Runs -/

/-- A state of an exchange. -/
structure State where
  site : Side → Site
  /-- The opening node's socket that last asked for a connection on a line. -/
  latest : Identity → Option SocketId

/-- Two new nodes, and an empty network. -/
def start (x : Exchange) : State where
  site side :=
    { node := x.node side
      written := fun _ => []
      read := fun _ => []
      sources := fun _ => []
      sent := [] }
  latest _ := none

/-- What can happen in an exchange. -/
inductive Event where
  | call (side : Side) (now : Duration) (call : Call)
  | timer (side : Side) (now : Duration) (timer : Timer)
  /-- The letter of this number, counted from the first that was sent to this
      side, arrives. -/
  | arrival (side : Side) (now : Duration) (number : Nat)
  deriving DecidableEq, Repr

namespace State

variable (x : Exchange) (σ : State)

/-- Who asked last for each line after an input. -/
def latestAfter (side : Side) (input : Input) : Identity → Option SocketId :=
  match side, (σ.site side).node.asks? input with
  | .opening, some (id, identity) => fun line => if line = identity then some id else σ.latest line
  | _, _ => σ.latest

/-- Gives an input to the node of a side. A fault leaves everything as it is. -/
def act (side : Side) (now : Duration) (input : Input) (cause : Option Letter) : State :=
  match (σ.site side).node.react now input with
  | .error _ => σ
  | .ok (node, effects) =>
    let latest := σ.latestAfter side input
    { site := fun side' =>
        if side' = side then
          (σ.site side).after x side latest now input cause node effects
        else σ.site side'
      latest }

/-- The state after an event. -/
def next : Event → State
  | .call side now call => σ.act x side now (.call call) none
  | .timer side now timer => σ.act x side now (.timer timer) none
  | .arrival side now number =>
    match (σ.site side.other).sent[number]? with
    | some letter => σ.act x side now (.packet letter.packet) (some letter)
    | none => σ

/-- The state after events. -/
def run (σ : State) : List Event → State
  | [] => σ
  | event :: rest => run (σ.next x event) rest

end State

/-! ### Regular runs -/

/-- The end that a letter to a side reaches. -/
def State.reached? (σ : State) (side : Side) (letter : Letter) (s : Segment) :
    Option Session.Endpoint :=
  ((σ.site side).node.ports.connection? (PortTable.identityOf s letter.packet.src)).bind
    (σ.site side).endpoint?

/-- A letter is **timely**: if it carries data or answers a request, then
    nobody has asked for its line since it was sent; and the position that it
    is about is near that of the end it reaches. -/
structure Timely (x : Exchange) (σ : State) (side : Side) (letter : Letter) (s : Segment) :
    Prop where
  era : s.kind = .data ∨ s.kind = .ack ∧ s.payload ≠ [] →
    letter.era = σ.latest (x.line side (PortTable.identityOf s letter.packet.src))
  near : ∀ e ∈ σ.reached? side letter s, e.InReach ⟨s, letter.position⟩

instance (x : Exchange) (σ : State) (side : Side) (letter : Letter) (s : Segment) :
    Decidable (x.Timely σ side letter s) :=
  decidable_of_iff ((s.kind = .data ∨ s.kind = .ack ∧ s.payload ≠ [] →
      letter.era = σ.latest (x.line side (PortTable.identityOf s letter.packet.src))) ∧
    ∀ e ∈ σ.reached? side letter s, e.InReach ⟨s, letter.position⟩)
    ⟨fun h => ⟨h.1, h.2⟩, fun h => ⟨h.era, h.near⟩⟩

/-- An event as it happens between a node that only asks for connections and
    one that answers them: the opening node does not listen, the answering
    node asks for no identity that it holds, and what arrives is timely. -/
def Regular (x : Exchange) (σ : State) : Event → Prop
  | .call .opening _ (.listen ..) => False
  | .call .opening _ _ => True
  | .call .answering _ call => ¬ (σ.site .answering).node.Clashes (.call call)
  | .timer .. => True
  | .arrival side _ number => ∀ letter ∈ (σ.site side.other).sent[number]?,
    ∀ s ∈ letter.packet.segment?, x.Timely σ side letter s

instance (x : Exchange) (σ : State) (side : Side) (now : Duration) (number : Nat) :
    Decidable (x.Regular σ (.arrival side now number)) :=
  inferInstanceAs (Decidable (∀ letter ∈ (σ.site side.other).sent[number]?,
    ∀ s ∈ letter.packet.segment?, x.Timely σ side letter s))

/-- All events of a run are regular. -/
def Regulated (x : Exchange) (σ : State) : List Event → Prop
  | [] => True
  | event :: rest => x.Regular σ event ∧ x.Regulated (σ.next x event) rest

end Exchange

end ReliableStream
