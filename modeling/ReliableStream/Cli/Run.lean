import ReliableStream.Cli.Options
import ReliableStream.Network.Transfer
import ReliableStream.Time.Text
/-! # The demonstration run

    The command sets up a client and a server on one network, lets the client
    connect, transfers bytes from the client to the server, closes the
    connection and **reports** what happened. -/

namespace ReliableStream.Cli

/-- What a command leaves behind. -/
structure Output where
  exitCode : UInt8
  stdout : String
  stderr : String
  deriving DecidableEq, Repr

/-- A command that failed after having printed something. -/
def Output.failureAfter (printed message : String) : Output :=
  { exitCode := 1, stdout := printed, stderr := "Error: " ++ message ++ "\n" }

/-- A command that failed before it printed anything. -/
def Output.failure (message : String) : Output := .failureAfter "" message

/-- A command that ran into a fault, or used up its budget. -/
def Output.ofInterruption : Interruption → Output
  | .fault fault => { exitCode := 101, stdout := "", stderr := fault.message ++ "\n" }
  | .outOfBudget => { exitCode := 101, stdout := "", stderr := "the run does not end\n" }

/-- The version text. -/
def Output.version : Output := { exitCode := 0, stdout := "sim-tcp 0.1.0\n", stderr := "" }

/-- A command line that cannot be read. -/
def Output.usageError : Output := { exitCode := 2, stdout := "", stderr := "" }

/-! ### The scene -/

/-- The address of the client. -/
def clientAddr : NodeAddr := 1

/-- The address of the server. -/
def serverAddr : NodeAddr := 2

/-- The port the client connects from. -/
def clientPort : UInt16 := 4000

/-- The port the server listens on. -/
def serverPort : UInt16 := 80

/-- The first socket of a node. -/
def firstSocket : SocketId := 1

/-- The settings of both nodes. -/
def Options.settings (o : Options) : Settings := { mss := o.mss, bufferSize := o.buffer }

/-- The settings of the network. -/
def Options.networkSettings (o : Options) : NetworkSettings :=
  { latency := .ofMillis o.latencyMs
    lossRate := o.loss
    duplicateRate := o.duplicate
    reorderRate := o.reorder
    corruptionRate := o.corrupt
    seed := o.seed }

/-- The calls that make a node listen on the server port. -/
def serverCalls : List Call :=
  [.socket, .bind firstSocket serverPort, .listen firstSocket 1]

/-- The calls that make a node connect to the server. -/
def clientCalls : List Call :=
  [.socket, .bind firstSocket clientPort, .connect firstSocket serverAddr serverPort]

/-- Serves calls on a node one after the other. -/
def serveAll (addr : NodeAddr) (calls : List Call) (sim : Simulation) : Except Fault Simulation :=
  calls.foldlM (fun sim call =>
    match sim.node? addr with
    | some node => (sim.serve addr node call).map Prod.snd
    | none => .ok sim) sim

/-- The bytes to transfer. -/
def payload (n : Nat) : List UInt8 := (List.range n).map fun i => UInt8.ofNat (i % 251)

/-- The handshake is complete at both ends: the client is connected, and a
    connection waits at the server. -/
def isConnected (sim : Simulation) : Bool :=
  let waiting := (sim.socket? serverAddr firstSocket).any fun s => !s.backlog.isEmpty
  waiting && sim.state clientAddr firstSocket == .established

/-- Hands out the connection that waits at the server. -/
def accept (sim : Simulation) : Option SocketId × Simulation :=
  match sim.node? serverAddr with
  | some node =>
    let (child, node) := node.accept firstSocket
    (child, { sim with nodes := sim.nodes.put serverAddr node })
  | none => (none, sim)

/-! ### The report -/

/-- The line on the transfer. -/
def transferLine (received : Nat) (elapsed : Duration) (intact : Bool) : String :=
  s!"transferred {received} bytes in " ++ elapsed.secondsText ++ "s simulated: " ++
    (if intact then "intact" else "CORRUPTED") ++ "\n"

/-- The line on what a connection has counted. -/
def statsLine (s : Stats) : String :=
  s!"sender: segments={s.segmentsSent} windows_retransmitted={s.windowsRetransmitted} " ++
    s!"timeouts={s.timeouts} dup_acks={s.duplicateAcks} acked={s.bytesAcked}\n"

/-- The line on the sending end of a connection. -/
def senderLine (s : Sender) : String :=
  s!"sender: cwnd={s.congestion.cwnd} ssthresh={s.congestion.ssthresh} " ++
    "state=" ++ s.congestion.phase.name ++ " rto=" ++ s.rto.text ++ "\n"

/-- The line on the network. -/
def networkLine (s : NetworkStats) : String :=
  s!"network: sent={s.sent} lost={s.lost} duplicated={s.duplicated} " ++
    s!"reordered={s.reordered} corrupted={s.corrupted}\n"

/-- The lines on a socket, if it is still there. -/
def socketLines : Option Socket → String
  | some s => statsLine s.stats ++ ((s.sender?.map senderLine).getD "")
  | none => ""

/-- The report on a finished run. -/
def report (sim : Simulation) (t : Transfer) (intact : Bool) : Output :=
  let lines := transferLine t.received sim.now intact ++
    socketLines (sim.socket? clientAddr firstSocket) ++
    networkLine sim.net.stats
  if intact then { exitCode := 0, stdout := lines, stderr := "" }
  else .failureAfter lines "received stream differs from what was sent"

/-! ### The run -/

/-- The nodes on their network, the server listening and the client asking
    for a connection. -/
def setUp (o : Options) : Except Output Simulation := do
  let sim ← (Simulation.create o.networkSettings).mapError fun e => Output.failure e.message
  let sim ← (sim.attach clientAddr o.settings).mapError fun e => Output.failure e.message
  let sim ← (sim.attach serverAddr o.settings).mapError fun e => Output.failure e.message
  let served := do
    let sim ← serveAll serverAddr serverCalls sim
    serveAll clientAddr clientCalls sim
  served.mapError fun fault => Output.ofInterruption (.fault fault)

/-- Waits for the handshake, and hands out the connection at the server. -/
def handshake (budget : Nat) (o : Options) (sim : Simulation) :
    Except Output (SocketId × Simulation) := do
  let (outcome, sim) ←
    (sim.runUntil budget (.ofSeconds o.timeLimit) isConnected).mapError Output.ofInterruption
  let late := Output.failure s!"handshake did not complete within {o.timeLimit}s"
  match outcome, accept sim with
  | .reached, (some child, sim) => return (child, sim)
  | _, _ => throw late

/-- Transfers bytes from the client to the server. -/
def transfer (budget : Nat) (o : Options) (child : SocketId) (bytes : List UInt8)
    (sim : Simulation) : Except Output (Transfer × Simulation) := do
  let limit := Duration.ofSeconds o.timeLimit
  let start : Transfer :=
    { source := ⟨clientAddr, firstSocket⟩, sink := ⟨serverAddr, child⟩, unwritten := bytes }
  -- A round takes one latency of simulated time, and at least a millisecond.
  let (result, sim) ←
    (Transfer.rounds (fun now => limit < now) o.bytes budget (.ofMillis (max o.latencyMs 1))
      budget start sim).mapError Output.ofInterruption
  match result with
  | .error .noNode => throw (.failure "node missing")
  | .error (.socket e) => throw (.failure e.message)
  | .ok t =>
    if t.received < o.bytes then
      throw (.failure (s!"transfer stalled: {t.received} of {o.bytes} bytes after " ++
        sim.now.text))
    else return (t, sim)

/-- Closes the connection at the client and waits for its end. -/
def finish (budget : Nat) (o : Options) (sim : Simulation) : Except Output Simulation := do
  let sim ← (serveAll clientAddr [.close firstSocket] sim).mapError
    fun fault => Output.ofInterruption (.fault fault)
  let (_, sim) ←
    (sim.runUntil budget (.ofSeconds o.timeLimit)
      (fun sim => sim.state clientAddr firstSocket == .closed)).mapError Output.ofInterruption
  return sim

/-- The whole run: set up, connect, transfer, close, report. -/
def demonstrate (budget : Nat) (o : Options) : Output :=
  let result : Except Output Output := do
    let sim ← setUp o
    let (child, sim) ← handshake budget o sim
    let bytes := payload o.bytes
    let (t, sim) ← transfer budget o child bytes sim
    let sim ← finish budget o sim
    return report sim t (t.stream == bytes)
  match result with
  | .ok output => output
  | .error output => output

/-- What a command line leads to. At most `budget` events happen in a row. -/
def execute (budget : Nat) (arguments : List String) : Output :=
  match Request.ofArguments arguments with
  | .run o => demonstrate budget o
  | .version => .version
  | .usageError => .usageError

end ReliableStream.Cli
