import ReliableStream.Proofs.Streams
/-! # Sessions

    A **session** is one connection with both its ends: the end that asked for
    it, and the one end that a listener spawned for that request. Between them
    is a network that keeps every segment that was ever sent, and may deliver
    each of them any number of times, in any order, or never. Timers come back
    whenever they like, armed or not; the end may be announced at any time by
    anybody; and the two applications write, read and close as they please.

    The only bound is on **how old** a segment may be when it arrives. Data and
    acknowledgments carry the position in the stream that they were about when
    they were sent, and it has to be near the position of the end they reach. -/

namespace ReliableStream

open Sequence

/-- The two ends of a session. -/
inductive Side where
  | opening
  | answering
  deriving DecidableEq, Repr

/-- The end across. -/
def Side.other : Side → Side
  | .opening => .answering
  | .answering => .opening

@[simp] theorem Side.other_other (side : Side) : side.other.other = side := by cases side <;> rfl

theorem Side.other_ne (side : Side) : side.other ≠ side := by cases side <;> decide

/-- There are but two ends. -/
theorem Side.other_eq_of_ne {side side' : Side} (h : side' ≠ side) : side'.other = side := by
  cases side <;> cases side' <;> first | rfl | exact absurd rfl h

theorem Side.eq_other_of_ne {side side' : Side} (h : side' ≠ side) : side' = side.other := by
  rw [← Side.other_eq_of_ne h, Side.other_other]

/-- What the two nodes of a session were set up with. -/
structure Session where
  addr : Side → NodeAddr
  profile : Side → Profile
  socket : Side → SocketId
  port : Side → UInt16
  capacity_le : ∀ side, (profile side).shape.capacity ≤ 2_147_483_648

namespace Session

/-- The initial number of the stream that an end sends. -/
def isn (w : Session) (side : Side) : UInt32 := (w.profile side).initialSeq

/-- The surroundings of an end. -/
def context (w : Session) (side : Side) (now : Duration) : Context :=
  { addr := w.addr side, profile := w.profile side, id := w.socket side, now }

/-- The identity of the connection at an end. -/
def identity (w : Session) (side : Side) : Identity where
  localPort := w.port side
  remoteAddr := w.addr side.other
  remotePort := w.port side.other

/-! ### Ends -/

/-- One end, with what its application did so far. -/
structure Endpoint where
  connection : Connection
  /-- The bytes that were taken from writes. -/
  written : List UInt8
  /-- The bytes that were handed out by reads. -/
  read : List UInt8

/-- A segment on the network, with the position that it is about. -/
structure Parcel where
  segment : Segment
  position : Nat
  deriving DecidableEq, Repr

namespace Endpoint

/-- The bytes that can still be read. -/
def readable (e : Endpoint) : List UInt8 :=
  (e.connection.phase.receiver?.map fun r => r.buffer.contents).getD []

/-- All bytes that arrived: those read, and those that can still be read. -/
def accepted (e : Endpoint) : List UInt8 := e.read ++ e.readable

/-- How many of the bytes written the sender is done with. -/
def acked (e : Endpoint) : Nat := e.written.length - e.connection.sender.buffered

/-- The position that a segment of this end is about. -/
def positionOf (e : Endpoint) (s : Segment) : Nat :=
  match s.kind with
  | .data => e.acked + steps e.connection.sender.sndUna s.seq
  | .ack => e.accepted.length
  | .syn | .fin => 0

theorem positionOf_of_data {e : Endpoint} {s : Segment} (h : s.kind = .data) :
    e.positionOf s = e.acked + steps e.connection.sender.sndUna s.seq := by
  unfold positionOf
  rw [h]

/-- The segments among effects, as they enter the network. -/
def parcels (e : Endpoint) (effects : List Effect) : List Parcel :=
  (segmentsOf effects).map fun s => ⟨s, e.positionOf s⟩

/-- A parcel is about a position near that of this end. -/
structure InReach (e : Endpoint) (p : Parcel) : Prop where
  data : p.segment.kind = .data → Near p.position e.accepted.length
  ack : p.segment.kind = .ack → Near p.position e.acked

instance (e : Endpoint) (p : Parcel) : Decidable (e.InReach p) :=
  decidable_of_iff ((p.segment.kind = .data → Near p.position e.accepted.length) ∧
    (p.segment.kind = .ack → Near p.position e.acked))
    ⟨fun h => ⟨h.1, h.2⟩, fun h => ⟨h.data, h.ack⟩⟩

/-- The end after its connection moved. -/
def after (ctx : Context) (e : Endpoint) (stimulus : Stimulus) (c : Connection) : Endpoint where
  connection := c
  written := e.written ++ e.connection.taken ctx stimulus
  read := e.read ++ e.connection.handed stimulus

end Endpoint

/-! ### Runs -/

/-- A state of a session. The answering end is there once it was spawned, the
    opening end until its request is withdrawn. -/
structure State where
  ends : Side → Option Endpoint
  /-- Everything that an end ever sent. -/
  sent : Side → List Parcel

namespace State

/-- The bytes that were taken from writes at an end. -/
def written (σ : State) (side : Side) : List UInt8 := ((σ.ends side).map Endpoint.written).getD []

/-- The bytes that arrived at an end. -/
def accepted (σ : State) (side : Side) : List UInt8 := ((σ.ends side).map Endpoint.accepted).getD []

/-- What can happen to an end. A connection that is only asked for is not
    closed but withdrawn. -/
def Allows (σ : State) (side : Side) (e : Endpoint) : Stimulus → Prop
  | .segment s => s.kind = .fin ∨ ∃ p ∈ σ.sent side.other, p.segment = s ∧ e.InReach p
  | .close => e.connection.phase ≠ .synSent
  | _ => True

/-- Replaces an end and adds to what it sent. -/
def update (σ : State) (side : Side) (e : Option Endpoint) (parcels : List Parcel) : State where
  ends side' := if side' = side then e else σ.ends side'
  sent side' := if side' = side then σ.sent side' ++ parcels else σ.sent side'

end State

namespace State

variable {σ : State} {side side' : Side} {e : Option Endpoint} {parcels : List Parcel}

theorem ends_update_self : (σ.update side e parcels).ends side = e := if_pos rfl

theorem sent_update_self : (σ.update side e parcels).sent side = σ.sent side ++ parcels :=
  if_pos rfl

theorem ends_update_of_ne (h : side' ≠ side) :
    (σ.update side e parcels).ends side' = σ.ends side' :=
  if_neg h

theorem sent_update_of_ne (h : side' ≠ side) :
    (σ.update side e parcels).sent side' = σ.sent side' :=
  if_neg h

theorem written_update_of_ne (h : side' ≠ side) :
    (σ.update side e parcels).written side' = σ.written side' := by
  unfold written
  rw [ends_update_of_ne h]

theorem accepted_update_of_ne (h : side' ≠ side) :
    (σ.update side e parcels).accepted side' = σ.accepted side' := by
  unfold accepted
  rw [ends_update_of_ne h]

theorem written_of_end {e : Endpoint} (h : σ.ends side = some e) : σ.written side = e.written := by
  unfold written
  rw [h]
  rfl

theorem accepted_of_end {e : Endpoint} (h : σ.ends side = some e) :
    σ.accepted side = e.accepted := by
  unfold accepted
  rw [h]
  rfl

end State

/-- A state after an end has entered with its first segments. -/
def State.enter (σ : State) (side : Side) (opened : Connection × List Effect) : State :=
  let e : Endpoint := { connection := opened.1, written := [], read := [] }
  σ.update side (some e) (e.parcels opened.2)

/-- The state in which the opening end has asked for the connection. -/
def start (w : Session) (now : Duration) : State :=
  State.enter ⟨fun _ => none, fun _ => []⟩ .opening
    (Connection.request (w.context .opening now) (w.identity .opening))

/-- One step of a session. -/
inductive Step (w : Session) : State → State → Prop where
  /-- Something happens to an end. -/
  | respond {σ : State} {e : Endpoint} {answer : Connection × List Effect} (side : Side)
      (now : Duration) (stimulus : Stimulus) (hend : σ.ends side = some e)
      (hallowed : σ.Allows side e stimulus)
      (hrespond : e.connection.respond (w.context side now) stimulus = .ok answer) :
      Step w σ (σ.update side (some (e.after (w.context side now) stimulus answer.1))
        ((e.after (w.context side now) stimulus answer.1).parcels answer.2))
  /-- A request reaches the listener. -/
  | spawn {σ : State} (now : Duration) (p : Parcel) (hnone : σ.ends .answering = none)
      (hmem : p ∈ σ.sent .opening) (hkind : p.segment.kind = .syn) :
      Step w σ (σ.enter .answering
        (Connection.answer (w.context .answering now) (w.identity .answering) p.segment))
  /-- The opening end is closed before it was answered. -/
  | withdraw {σ : State} {e : Endpoint} (hend : σ.ends .opening = some e)
      (hphase : e.connection.phase = .synSent) : Step w σ (σ.update .opening none [])

/-- A result that is no fault can be computed, so runs can be written down
    without their intermediate states. -/
theorem ok_get_of_isSome {ε α : Type} {x : Except ε α} (h : x.toOption.isSome = true) :
    x = .ok (x.toOption.get h) := by
  cases x with
  | ok a => rfl
  | error f => cases h

/-- The states a session can be in. -/
inductive Reachable (w : Session) : State → Prop where
  | start (now : Duration) : Reachable w (w.start now)
  | step {σ σ' : State} (h : Reachable w σ) (hstep : w.Step σ σ') : Reachable w σ'

end Session

end ReliableStream
