import ReliableStream.Network.Basic
import ReliableStream.Node.Call
import ReliableStream.Node.Input
/-! # Simulations

    A **simulation** is a number of nodes on one network. It runs by taking
    one event after the other off the agenda: the clock jumps to the time of
    the event, the node it is for acts, and the effects of that go to the
    network. Nothing else moves, so equal simulations have equal futures. -/

namespace ReliableStream

/-- Nodes on a network. -/
structure Simulation where
  nodes : Table NodeAddr Node
  net : Network

/-- Why a node cannot be attached. -/
inductive AttachError where
  | duplicateNode (addr : NodeAddr)
  | settings (error : SettingsError)
  deriving DecidableEq, Repr

/-- The text an error is reported with. -/
def AttachError.message : AttachError → String
  | .duplicateNode addr => s!"node {addr} already exists"
  | .settings error => error.message

/-- Why a run ends before its goal. -/
inductive Interruption where
  | fault (fault : Fault)
  /-- The budget of events was used up. -/
  | outOfBudget
  deriving DecidableEq, Repr

namespace Simulation

/-- A simulation without nodes. -/
def create (settings : NetworkSettings) : Except ProbabilityError Simulation :=
  (Network.create settings).map fun net => { nodes := .empty, net }

/-- The virtual time. -/
def now (sim : Simulation) : Duration := sim.net.now

/-- The node of an address. -/
def node? (sim : Simulation) (addr : NodeAddr) : Option Node := sim.nodes.get? addr

/-- A socket of a node. -/
def socket? (sim : Simulation) (addr : NodeAddr) (id : SocketId) : Option Socket :=
  (sim.node? addr).bind fun node => node.socket? id

/-- The state of a socket of a node; one that does not exist is closed. -/
def state (sim : Simulation) (addr : NodeAddr) (id : SocketId) : SocketState :=
  ((sim.socket? addr id).map Socket.state).getD .closed

/-- Attaches a new node. -/
def attach (sim : Simulation) (addr : NodeAddr) (settings : Settings) :
    Except AttachError Simulation :=
  if sim.nodes.contains addr then .error (.duplicateNode addr)
  else
    match Node.create addr settings with
    | .ok node => .ok { sim with nodes := sim.nodes.put addr node }
    | .error e => .error (.settings e)

/-- Drops packets by a filter from now on, instead of by any earlier one. -/
def withFilter (sim : Simulation) (filter : DropFilter) : Simulation :=
  { sim with net := { sim.net with filter := some filter } }

/-! ### Acting nodes -/

/-- Carries out one effect of a node. -/
def carryOut (addr : NodeAddr) (sim : Simulation) : Effect → Except Fault Simulation
  | .send packet =>
    (sim.net.transmit (sim.nodes.contains packet.dest) packet).map fun net => { sim with net }
  | .arm delay timer => .ok { sim with net := sim.net.armTimer addr delay timer }

/-- Carries out the effects of a node in order. -/
def carryOutAll (sim : Simulation) (addr : NodeAddr) (effects : List Effect) :
    Except Fault Simulation :=
  effects.foldlM (carryOut addr) sim

/-- Puts a node back after it acted, and carries out its effects. -/
def settle (sim : Simulation) (addr : NodeAddr) (node : Node) (effects : List Effect) :
    Except Fault Simulation :=
  carryOutAll { sim with nodes := sim.nodes.put addr node } addr effects

/-- Serves a call of an application on a node. -/
def serve (sim : Simulation) (addr : NodeAddr) (node : Node) (call : Call) :
    Except Fault (Answer × Simulation) :=
  let (answer, node, effects) := node.serve sim.now call
  (sim.settle addr node effects).map fun sim => (answer, sim)

/-! ### Events -/

/-- Lets the node act that an event is for. An event for a node that does not
    exist does nothing. -/
def handle (sim : Simulation) : Event → Except Fault Simulation
  | .deliver packet =>
    match sim.node? packet.dest with
    | some node => do
      let (node, effects) ← node.onPacket packet sim.now
      sim.settle packet.dest node effects
    | none => .ok sim
  | .timer addr timer =>
    match sim.node? addr with
    | some node =>
      let (node, effects) := node.onTimer timer sim.now
      sim.settle addr node effects
    | none => .ok sim

/-- Takes the next event off the agenda and lets it happen; there may be none. -/
def step? (sim : Simulation) : Except Fault (Option Simulation) :=
  match sim.net.agenda.take? with
  | none => .ok none
  | some (e, agenda) =>
    -- The clock jumps before anybody acts.
    let sim := { sim with net := { sim.net with agenda, now := e.due } }
    (sim.handle e.event).map some

/-- Whether the next event is due by a deadline. -/
def hasDue (sim : Simulation) (deadline : Duration) : Bool :=
  match sim.net.agenda.next? with
  | some e => e.due ≤ deadline
  | none => false

/-- How a run until a goal ended. -/
inductive Outcome where
  /-- The goal was reached. -/
  | reached
  /-- Nothing that is due could reach it any more. -/
  | notReached
  deriving DecidableEq, Repr

/-- Lets events happen until the goal holds or nothing is due by the deadline.
    The goal is looked at before each event. At most `budget` events happen. -/
def runTo (goal : Simulation → Bool) (deadline : Duration) :
    Nat → Simulation → Except Interruption (Outcome × Simulation)
  | 0, _ => .error .outOfBudget
  | budget + 1, sim =>
    if goal sim then .ok (.reached, sim)
    else if sim.hasDue deadline then
      match sim.step? with
      | .ok (some sim) => runTo goal deadline budget sim
      | .ok none => .ok (.notReached, sim)
      | .error fault => .error (.fault fault)
    else .ok (.notReached, sim)

/-- Lets everything happen that is due within a span, and moves the clock to
    its end. -/
def runFor (budget : Nat) (sim : Simulation) (span : Duration) : Except Interruption Simulation :=
  let deadline := sim.now.addSat span
  (runTo (fun _ => false) deadline budget sim).map fun (_, sim) =>
    { sim with net := { sim.net with now := deadline } }

/-- Lets events happen until the goal holds, for at most a span. The clock
    stays at the last event. -/
def runUntil (budget : Nat) (sim : Simulation) (span : Duration) (goal : Simulation → Bool) :
    Except Interruption (Outcome × Simulation) :=
  runTo goal (sim.now.addSat span) budget sim

/-- Lets up to `n` events happen, and says how many did. -/
def steps : Nat → Simulation → Except Fault (Nat × Simulation)
  | 0, sim => .ok (0, sim)
  | n + 1, sim =>
    match sim.step? with
    | .ok (some sim) => (steps n sim).map fun (count, sim) => (count + 1, sim)
    | .ok none => .ok (0, sim)
    | .error fault => .error fault

end Simulation

end ReliableStream
