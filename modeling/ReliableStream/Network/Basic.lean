import ReliableStream.Network.Agenda
import ReliableStream.Network.DropFilter
import ReliableStream.Network.Settings
import ReliableStream.Table
/-! # The network

    The **network** carries packets from node to node, and does to them what
    its link model says: it loses, delays, duplicates, reorders and corrupts
    them. It owns the clock, the agenda and the random stream, and keeps a
    **trace** of every packet that was handed to it.

    A packet handed to the network meets its faults in a fixed order: an
    unknown address, the drop filter, loss, corruption, the time on the link,
    jitter, reordering, duplication. Random numbers are drawn in that order. -/

namespace ReliableStream

/-- What the network did with a packet. -/
inductive Fate where
  /-- Put on its way, perhaps late, twice or damaged. -/
  | delivered
  /-- Lost by chance. -/
  | lost
  /-- Dropped by the filter. -/
  | filtered
  /-- Addressed to a node that does not exist. -/
  | unroutable
  deriving DecidableEq, Repr

/-- The name of a fate. -/
def Fate.name : Fate → String
  | .delivered => "Delivered"
  | .lost => "Lost"
  | .filtered => "Filtered"
  | .unroutable => "Unroutable"

/-- A packet as it was handed to the network, and what became of it. -/
structure TraceEntry where
  sentAt : Duration
  packet : Packet
  fate : Fate
  deriving DecidableEq, Repr

/-- What the network has counted. -/
structure NetworkStats where
  sent : Nat := 0
  lost : Nat := 0
  filtered : Nat := 0
  duplicated : Nat := 0
  reordered : Nat := 0
  corrupted : Nat := 0
  deriving DecidableEq, Repr

/-- Everything but the nodes. -/
structure Network where
  link : LinkModel
  random : RandomStream
  now : Duration := .zero
  agenda : Agenda := .empty
  /-- How many events were ever put on the agenda. -/
  serial : Nat := 0
  /-- Every packet handed to the network, the **latest first**. -/
  log : List TraceEntry := []
  stats : NetworkStats := {}
  filter : Option DropFilter := none
  /-- When the link of a node is free again. -/
  linkFreeAt : Table NodeAddr Duration := .empty

namespace Network

/-- A network that has not carried anything yet. -/
def create (settings : NetworkSettings) : Except ProbabilityError Network :=
  settings.check.map fun link => { link, random := .ofSeed settings.seed }

/-! ### The agenda and the trace -/

/-- Puts an event on the agenda. -/
def schedule (n : Network) (due : Duration) (event : Event) : Network :=
  let serial := n.serial + 1
  { n with serial, agenda := n.agenda.put { due, serial, event } }

/-- Arms a timer of a node. A delay beyond the longest duration ends there. -/
def armTimer (n : Network) (node : NodeAddr) (delay : Duration) (timer : Timer) : Network :=
  n.schedule (n.now.addSat delay) (.timer node timer)

/-- Notes what became of a packet. -/
def record (n : Network) (packet : Packet) (fate : Fate) : Network :=
  { n with log := { sentAt := n.now, packet, fate } :: n.log }

/-- Every packet handed to the network, in order. -/
def trace (n : Network) : List TraceEntry := n.log.reverse

/-- The part of the trace that was added after its first `count` entries. -/
def traceFrom (n : Network) (count : Nat) : List TraceEntry :=
  (n.log.take (n.log.length - count)).reverse

/-! ### Faults of the link -/

/-- Decides by chance. -/
def decide (n : Network) (chance : Chance) : Bool × Network :=
  let (yes, random) := chance.decide n.random
  (yes, { n with random })

/-- Flips one random bit of a payload. -/
def flipBit (n : Network) (payload : List UInt8) : List UInt8 × Network :=
  let (i, random) := n.random.below32 payload.length
  let (bit, random) := random.below32 8
  (payload.modify i (· ^^^ (1 <<< UInt8.ofNat bit)), { n with random })

/-- The payload as it arrives. An empty one cannot be damaged. -/
def corrupt (n : Network) (payload : List UInt8) : List UInt8 × Network :=
  if payload.isEmpty then (payload, n)
  else
    let (damaged, n) := n.decide n.link.corruption
    if damaged then
      let (payload, n) := n.flipBit payload
      (payload, { n with stats := { n.stats with corrupted := n.stats.corrupted + 1 } })
    else (payload, n)

/-- How long a payload occupies a link of limited bandwidth. The product is
    kept in 64 bits. -/
def occupation (bytes bandwidth : Nat) : Duration :=
  .ofNanos (min (bytes * Duration.nanosPerSecond) 18_446_744_073_709_551_615 / bandwidth)

/-- When the last bit of a packet leaves its sender: packets of one sender
    leave one after the other. -/
def departure (n : Network) (packet : Packet) : Except Fault (Duration × Network) :=
  if n.link.bandwidth = 0 then .ok (n.now, n)
  else
    -- A link that was never used is free at once.
    let start := max ((n.linkFreeAt.get? packet.src).getD n.now) n.now
    (start.add (occupation packet.payload.length n.link.bandwidth)).map fun free =>
      (free, { n with linkFreeAt := n.linkFreeAt.put packet.src free })

/-- A random delay up to the jitter of the link. -/
def jitter (n : Network) : Duration × Network :=
  if n.link.jitter = 0 then (.zero, n)
  else
    let (delay, random) := n.random.upTo64 n.link.jitter
    (.ofNanos delay, { n with random })

/-- When a packet arrives, before reordering. -/
def arrival (n : Network) (packet : Packet) : Except Fault (Duration × Network) := do
  let (left, n) ← n.departure packet
  let due ← left.add n.link.latency
  let (delay, n) := n.jitter
  return (← due.add delay, n)

/-- Makes a packet late by chance. -/
def reorder (n : Network) (due : Duration) : Except Fault (Duration × Network) :=
  let (late, n) := n.decide n.link.reordering
  if late then
    (due.add n.link.reorderDelay).map fun due =>
      (due, { n with stats := { n.stats with reordered := n.stats.reordered + 1 } })
  else .ok (due, n)

/-- Delivers a packet a second time by chance. -/
def duplicate (n : Network) (due : Duration) (packet : Packet) : Except Fault Network :=
  let (twice, n) := n.decide n.link.duplication
  if twice then
    let (delay, n) := n.jitter
    (due.add delay).map fun again =>
      let n := n.schedule again (.deliver packet)
      { n with stats := { n.stats with duplicated := n.stats.duplicated + 1 } }
  else .ok n

/-- Puts a packet on its way. -/
def carry (n : Network) (packet : Packet) : Except Fault Network := do
  let (payload, n) := n.corrupt packet.payload
  let arriving := { packet with payload }
  -- The time on the link is that of the packet as it was sent.
  let (due, n) ← n.arrival packet
  let (due, n) ← n.reorder due
  -- A second copy goes on the agenda before the first one.
  let n ← n.duplicate due arriving
  return (n.schedule due (.deliver arriving)).record packet .delivered

/-- Shows a packet to the drop filter, if there is one. -/
def consultFilter (n : Network) (packet : Packet) : Bool × Network :=
  match n.filter with
  | some f =>
    let (drop, f) := f.offer packet
    (drop, { n with filter := some f })
  | none => (false, n)

/-- Takes a packet from a node; `routable` says whether the node it is
    addressed to exists. -/
def transmit (n : Network) (routable : Bool) (packet : Packet) : Except Fault Network :=
  let n := { n with stats := { n.stats with sent := n.stats.sent + 1 } }
  if !routable then .ok (n.record packet .unroutable)
  else
    let (dropped, n) := n.consultFilter packet
    if dropped then
      let n := { n with stats := { n.stats with filtered := n.stats.filtered + 1 } }
      .ok (n.record packet .filtered)
    else
      let (lost, n) := n.decide n.link.loss
      if lost then
        let n := { n with stats := { n.stats with lost := n.stats.lost + 1 } }
        .ok (n.record packet .lost)
      else n.carry packet

end Network

end ReliableStream
