import ReliableStream.Network.Simulation
/-! # Bulk transfers

    A **transfer** pushes a sequence of bytes through a connection: the source
    writes as much as its buffer takes, the simulation runs for a tick, the
    sink reads all that has arrived, and so on until everything has arrived or
    the time is over. -/

namespace ReliableStream

/-- A socket of a simulation. -/
structure Endpoint where
  node : NodeAddr
  socket : SocketId
  deriving DecidableEq, Repr

/-- Why an application cannot go on. -/
inductive TransferError where
  | noNode
  | socket (error : SocketError)
  deriving DecidableEq, Repr

/-- A transfer under way. -/
structure Transfer where
  source : Endpoint
  sink : Endpoint
  /-- What the source has not written yet. -/
  unwritten : List UInt8
  written : Nat := 0
  /-- What has arrived, the latest first. -/
  arrived : List (List UInt8) := []
  received : Nat := 0
  ticks : Nat := 0

namespace Transfer

/-- All that has arrived, in order. -/
def stream (t : Transfer) : List UInt8 := t.arrived.reverse.flatten

/-- Writes what is left at the source, if anything is. -/
def push (t : Transfer) (sim : Simulation) :
    Except Fault (Except TransferError Transfer × Simulation) :=
  if t.unwritten.isEmpty then .ok (.ok t, sim)
  else
    match sim.node? t.source.node with
    | none => .ok (.error .noNode, sim)
    | some node =>
      match node.write t.source.socket t.unwritten sim.now with
      | .error e => .ok (.error (.socket e), sim)
      | .ok (n, node, effects) =>
        (sim.settle t.source.node node effects).map fun sim =>
          (.ok { t with unwritten := t.unwritten.drop n, written := t.written + n }, sim)

/-- Reads all that waits at the sink. -/
def pull (t : Transfer) (sim : Simulation) : Except TransferError Transfer × Simulation :=
  match sim.node? t.sink.node with
  | none => (.error .noNode, sim)
  | some node =>
    -- Reading stops when nothing is left, so it takes all that waits.
    let waiting := ((sim.socket? t.sink.node t.sink.socket).map Socket.readable).getD 0
    match node.read t.sink.socket waiting with
    | .error e => (.error (.socket e), sim)
    | .ok (bytes, node) =>
      (.ok { t with
          arrived := if bytes.isEmpty then t.arrived else bytes :: t.arrived
          received := t.received + bytes.length },
        { sim with nodes := sim.nodes.put t.sink.node node })

/-- One round: write, run for a tick, read. -/
def round (budget : Nat) (tick : Duration) (t : Transfer) (sim : Simulation) :
    Except Interruption (Except TransferError Transfer × Simulation) :=
  match t.push sim with
  | .error fault => .error (.fault fault)
  | .ok (.error e, sim) => .ok (.error e, sim)
  | .ok (.ok t, sim) =>
    (sim.runFor budget tick).map fun sim => { t with ticks := t.ticks + 1 }.pull sim

/-- Rounds until `total` bytes have arrived or the clock satisfies `isOver`;
    at most `budget` of them. -/
def rounds (isOver : Duration → Bool) (total : Nat) (eventBudget : Nat) (tick : Duration) :
    Nat → Transfer → Simulation → Except Interruption (Except TransferError Transfer × Simulation)
  | 0, _, _ => .error .outOfBudget
  | budget + 1, t, sim =>
    if total ≤ t.received || isOver sim.now then .ok (.ok t, sim)
    else
      match t.round eventBudget tick sim with
      | .ok (.ok t, sim) => rounds isOver total eventBudget tick budget t sim
      | other => other

end Transfer

end ReliableStream
