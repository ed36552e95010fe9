import ReliableStream.Connection.Segments
import ReliableStream.Connection.Timers
import ReliableStream.Proofs.Checked.Flows
import ReliableStream.Proofs.Checked.Frames
import ReliableStream.Proofs.Moves
/-! # Connections on checked words

    A connection whose buffers lie in flat memory and whose segments are packed
    byte by byte. It is told like the plain one, and adds nothing of its own
    that could trap but one thing: a segment that **cannot be encoded** ends the
    run instead of being dropped.

    A connection is **sized** if its sender and its receiver are. Then it
    answers every stimulus as the plain connection does, and traps only where
    the clock of that one faults. -/

namespace ReliableStream.Checked

open Sequence

/-- How far a connection has come, with the receiver as soon as there is one. -/
inductive Phase where
  | synSent
  | established (receiver : Receiver)
  | shutdown (receiver : Receiver) (finSeq : UInt32)
  | closed (receiver : Option Receiver)

namespace Phase

/-- The state of a connection in this phase. -/
def state : Phase → SocketState
  | .synSent => .synSent
  | .established _ => .established
  | .shutdown .. => .shutdown
  | .closed _ => .closed

/-- The receiver, if the handshake got that far. -/
def receiver? : Phase → Option Receiver
  | .synSent => none
  | .established r => some r
  | .shutdown r _ => some r
  | .closed r => r

/-- The receiver of a connection that still takes in segments. -/
def openReceiver? : Phase → Option Receiver
  | .established r => some r
  | .shutdown r _ => some r
  | _ => none

/-- The same phase with another receiver, if it has one. -/
def withReceiver (r : Receiver) : Phase → Phase
  | .synSent => .synSent
  | .established _ => .established r
  | .shutdown _ finSeq => .shutdown r finSeq
  | .closed none => .closed none
  | .closed (some _) => .closed (some r)

/-- Nothing happens any more. -/
def isClosed : Phase → Bool
  | .closed _ => true
  | _ => false

end Phase

/-- One end of a connection. -/
structure Connection where
  identity : Identity
  origin : Origin
  sender : Sender
  phase : Phase
  peerClosed : Bool := false
  confirmed : Bool := false
  stats : Stats := {}

/-- The packet that carries a segment to another node. -/
def send (p : Profile) (src dest : NodeAddr) (s : Segment) : Except Trap Packet := do
  match ← pack s with
  | .ok frame =>
    return { src, dest, ttl := p.ttl, protocol := .transport, seq := s.seq, payload := frame }
  | .error _ => .error .encoding

namespace Connection

/-! ### Segments of a connection -/

/-- The request for the connection. -/
def syn (c : Connection) : Segment :=
  .control c.identity.localPort c.identity.remotePort .syn
    (UInt32.ofNat c.sender.congestion.cwnd) c.sender.isn

/-- The plain acknowledgment of what a receiver has. -/
def ack (c : Connection) (r : Receiver) : Except Trap Segment := do
  return .control c.identity.localPort c.identity.remotePort .ack (← r.window) r.rcvNxt

/-- The answer to a request. -/
def synAck (c : Connection) (r : Receiver) : Except Trap Segment := do
  let plain ← c.ack r
  return { plain with payload := Wire.bytesOf32 c.sender.isn }

/-- The announcement of the end. -/
def fin (c : Connection) (finSeq : UInt32) : Segment :=
  .control c.identity.localPort c.identity.remotePort .fin 0 finSeq

/-! ### Output -/

/-- Sends segments to the peer one by one, and counts them. -/
def transmit (ctx : Context) (c : Connection) : List Segment →
    Except Trap (Connection × List Effect)
  | [] => .ok (c, [])
  | s :: rest => do
    let packet ← send ctx.profile ctx.addr c.identity.remoteAddr s
    -- It is counted because it is on its way.
    let stats := { c.stats with segmentsSent := c.stats.segmentsSent + 1 }
    let sent ← transmit ctx { c with stats } rest
    return (sent.1, .send packet :: sent.2)

/-- Sends a segment and arms a timer behind it. -/
def transmitArm (ctx : Context) (c : Connection) (s : Segment) (delay : Duration)
    (event : TimerEvent) : Except Trap (Connection × List Effect) := do
  let sent ← c.transmit ctx [s]
  return (sent.1, sent.2 ++ [ctx.arm delay event])

/-- Sends a flight and arms its timer. -/
def transmitFlight (ctx : Context) (c : Connection) (flight : Flight) :
    Except Trap (Connection × List Effect) := do
  let repeated := c.stats.windowsRetransmitted + (if flight.retransmit then 1 else 0)
  let c := { c with stats := { c.stats with windowsRetransmitted := repeated } }
  let sent ← c.transmit ctx flight.segments
  return (sent.1, sent.2 ++ [ctx.arm flight.timeout (.windowTimeout flight.generation)])

/-- Sends the next window, if there is anything to send. -/
def sendWindow (ctx : Context) (c : Connection) : Except Trap (Connection × List Effect) := do
  match ← c.sender.nextWindow? c.identity.localPort c.identity.remotePort ctx.now with
  | some (flight, sender) => transmitFlight ctx { c with sender } flight
  | none => return (c, [])

/-! ### Opening -/

/-- Asks for a connection. -/
def request (ctx : Context) (identity : Identity) : Except Trap (Connection × List Effect) := do
  let isn := ctx.profile.initialSeq
  let sender ← Sender.create ctx.profile.shape ctx.profile.timers isn 0
  let c : Connection := { identity, origin := .opened, sender, phase := .synSent }
  c.transmitArm ctx c.syn ctx.profile.timers.synRetransmit (.retransmitSyn isn)

/-- Answers a request for a connection. -/
def answer (ctx : Context) (identity : Identity) (request : Segment) :
    Except Trap (Connection × List Effect) := do
  let sender ←
    Sender.create ctx.profile.shape ctx.profile.timers ctx.profile.initialSeq request.window
  let receiver ← Receiver.create ctx.profile.shape request.seq
  let c : Connection :=
    { identity, origin := .spawned, sender, phase := .established receiver }
  c.transmitArm ctx (← c.synAck receiver) ctx.profile.timers.synRetransmit
    (.retransmitSynAck (advance request.seq 1))

/-! ### Calls of the application -/

/-- Queues bytes, and says how many were taken. -/
def write (ctx : Context) (c : Connection) (bytes : List UInt8) :
    Except Trap (Nat × Connection × List Effect) :=
  match c.phase with
  | .established _ => do
    let written ← c.sender.write bytes
    let c := { c with sender := written.2 }
    if c.sender.isIdle && !c.sender.isDrained then return (written.1, ← c.sendWindow ctx)
    else return (written.1, c, [])
  | _ => .ok (0, c, [])

/-- Takes out up to `n` bytes that have arrived. -/
def read (c : Connection) (n : Nat) : Except Trap (List UInt8 × Connection) :=
  match c.phase.receiver? with
  | some r => do
    let taken ← r.read n
    return (taken.1, { c with phase := c.phase.withReceiver taken.2 })
  | none => .ok ([], c)

/-- Closes an established connection. -/
def close (ctx : Context) (c : Connection) : Except Trap (Connection × List Effect) :=
  match c.phase with
  | .established r => do
    let finSeq ← c.sender.endSeq
    return ({ c with phase := .shutdown r finSeq },
      [ctx.arm ctx.profile.timers.shutdownCheck (.shutdownCheck finSeq)])
  | _ => .ok (c, [])

/-! ### Segments arriving -/

/-- The answer to the own request. -/
def onSynAck (ctx : Context) (c : Connection) (s : Segment) :
    Except Trap (Connection × List Effect) :=
  match s.payload with
  | [b3, b2, b1, b0] =>
    if s.seq = advance c.sender.isn 1 then do
      let receiver ← Receiver.create ctx.profile.shape (Wire.word32 b3 b2 b1 b0)
      let c :=
        { c with
          sender := c.sender.withReceiverWindow s.window
          phase := .established receiver
          confirmed := true }
      c.transmit ctx [← c.ack receiver]
    else .ok (c, [])
  | _ => .ok (c, [])

/-- The outcome of an acknowledgment. -/
def afterAck (ctx : Context) (c : Connection) : AckOutcome →
    Except Trap (Connection × List Effect)
  | .duplicate =>
    .ok ({ c with stats := { c.stats with duplicateAcks := c.stats.duplicateAcks + 1 } }, [])
  | .ignored => .ok (c, [])
  | .advanced bytes windowComplete =>
    let c := { c with stats := { c.stats with bytesAcked := c.stats.bytesAcked + bytes } }
    if windowComplete && !c.sender.isDrained then c.sendWindow ctx else .ok (c, [])

/-- An acknowledgment on an open connection. -/
def onOpenAck (ctx : Context) (c : Connection) (r : Receiver) (s : Segment) :
    Except Trap (Connection × List Effect) :=
  if !s.payload.isEmpty then do c.transmit ctx [← c.ack r]
  else if !c.confirmed && s.seq == c.sender.sndUna then
    .ok ({ c with confirmed := true, sender := c.sender.withReceiverWindow s.window }, [])
  else do
    let acked ← c.sender.onAck s.seq s.window ctx.now
    afterAck ctx { c with confirmed := true, sender := acked.2 } acked.1

/-- A data segment. -/
def onData (ctx : Context) (c : Connection) (s : Segment) :
    Except Trap (Connection × List Effect) :=
  match c.phase.openReceiver? with
  | none => .ok (c, [])
  | some r => do
    let taken ← r.onSegment s
    let c := { c with confirmed := true, phase := c.phase.withReceiver taken.2 }
    match taken.1 with
    | .accepted n =>
      let c := { c with stats := { c.stats with bytesDelivered := c.stats.bytesDelivered + n } }
      c.transmit ctx [← c.ack taken.2]
    | .outOfOrder => c.transmit ctx [← c.ack taken.2]
    | .noRoom => return (c, [])

/-- The end of an open connection. -/
def onOpenFin (ctx : Context) (c : Connection) (r : Receiver) :
    Except Trap (Connection × List Effect) := do
  let sender ← c.sender.abandon
  return ({ c with
      sender, phase := .shutdown r sender.sndUna, peerClosed := true, confirmed := true },
    [ctx.arm ctx.profile.timers.shutdownCheck (.shutdownCheck sender.sndUna)])

/-- The end announced by the peer. -/
def onFin (ctx : Context) (c : Connection) : Except Trap (Connection × List Effect) :=
  match c.phase with
  | .established r => c.onOpenFin ctx r
  | .shutdown r _ => c.onOpenFin ctx r
  | .synSent => .ok ({ c with phase := .closed none, peerClosed := true }, [])
  | .closed _ => .ok (c, [])

/-- A request for a connection that exists. -/
def onDuplicateSyn (ctx : Context) (c : Connection) : Except Trap (Connection × List Effect) :=
  match c.phase.openReceiver? with
  | some r => if c.peerClosed then .ok (c, []) else do c.transmit ctx [← c.synAck r]
  | none => .ok (c, [])

/-- A segment addressed to the connection. -/
def onSegment (ctx : Context) (c : Connection) (s : Segment) :
    Except Trap (Connection × List Effect) :=
  match s.kind with
  | .syn => c.onDuplicateSyn ctx
  | .data => c.onData ctx s
  | .fin => c.onFin ctx
  | .ack =>
    match c.phase with
    | .synSent => c.onSynAck ctx s
    | .established r => c.onOpenAck ctx r s
    | .shutdown r _ => c.onOpenAck ctx r s
    | .closed _ => .ok (c, [])

/-! ### Timers coming back -/

/-- Asks once more for the connection. -/
def onRetransmitSyn (ctx : Context) (c : Connection) (isn : UInt32) :
    Except Trap (Connection × List Effect) :=
  match c.phase with
  | .synSent =>
    if c.sender.isn = isn then
      c.transmitArm ctx c.syn ctx.profile.timers.synRetransmit (.retransmitSyn isn)
    else .ok (c, [])
  | _ => .ok (c, [])

/-- Answers the request once more while the peer has not confirmed. -/
def onRetransmitSynAck (ctx : Context) (c : Connection) (ack : UInt32) :
    Except Trap (Connection × List Effect) :=
  match c.phase.openReceiver? with
  | some r =>
    if !c.confirmed && r.rcvNxt == ack then do
      c.transmitArm ctx (← c.synAck r) ctx.profile.timers.synRetransmit (.retransmitSynAck ack)
    else .ok (c, [])
  | none => .ok (c, [])

/-- Announces the end if everything before it is acknowledged. -/
def onShutdownCheck (ctx : Context) (c : Connection) (finSeq : UInt32) :
    Except Trap (Connection × List Effect) :=
  match c.phase with
  | .shutdown r pending =>
    if pending ≠ finSeq then .ok (c, [])
    else if c.sender.isDrained && c.sender.sndUna == finSeq then do
      let sent ← c.transmit ctx [c.fin finSeq]
      return ({ sent.1 with phase := .closed (some r) }, sent.2)
    else .ok (c, [ctx.arm ctx.profile.timers.shutdownCheck (.shutdownCheck finSeq)])
  | _ => .ok (c, [])

/-- Sends an overdue window again. -/
def onWindowTimeout (ctx : Context) (c : Connection) (generation : Nat) :
    Except Trap (Connection × List Effect) :=
  match c.phase.openReceiver? with
  | none => .ok (c, [])
  | some _ => do
    match ← c.sender.onWindowTimeout? generation c.identity.localPort c.identity.remotePort
        ctx.now with
    | none => return (c, [])
    | some (flight, sender) =>
      let stats := { c.stats with timeouts := c.stats.timeouts + 1 }
      transmitFlight ctx { c with sender, stats } flight

/-- A timer of the connection. -/
def onTimer (ctx : Context) (c : Connection) : TimerEvent → Except Trap (Connection × List Effect)
  | .retransmitSyn isn => c.onRetransmitSyn ctx isn
  | .retransmitSynAck ack => c.onRetransmitSynAck ctx ack
  | .shutdownCheck finSeq => c.onShutdownCheck ctx finSeq
  | .windowTimeout generation => c.onWindowTimeout ctx generation

end Connection

end ReliableStream.Checked

namespace ReliableStream

open Checked

namespace Phase

/-- A phase in flat memory. -/
def flat : Phase → Checked.Phase
  | .synSent => .synSent
  | .established r => .established r.flat
  | .shutdown r finSeq => .shutdown r.flat finSeq
  | .closed r => .closed (r.map Receiver.flat)

theorem state_flat (p : Phase) : p.flat.state = p.state := by
  cases p <;> rfl

theorem receiver?_flat (p : Phase) : p.flat.receiver? = p.receiver?.map Receiver.flat := by
  cases p <;> rfl

theorem openReceiver?_flat (p : Phase) :
    p.flat.openReceiver? = p.openReceiver?.map Receiver.flat := by
  cases p <;> rfl

theorem withReceiver_flat (p : Phase) (r : Receiver) :
    p.flat.withReceiver r.flat = (p.withReceiver r).flat := by
  cases p with
  | closed r' => cases r' <;> rfl
  | _ => rfl

theorem isClosed_flat (p : Phase) : p.flat.isClosed = p.isClosed := by
  cases p <;> rfl

end Phase

/-- Every piece of a cut fits the largest segment. -/
theorem StreamBuffer.length_le_of_mem_cut {b : StreamBuffer} {srcPort dstPort : UInt16}
    {start window : UInt32} {s : Segment} (h : s ∈ b.cut srcPort dstPort start window) :
    s.payload.length ≤ b.mss := by
  unfold cut at h
  split at h
  · cases h
  · obtain ⟨i, -, rfl⟩ := List.mem_map.mp h
    rw [length_piece]
    exact Nat.min_le_left ..

/-- So every segment of a flight fits a frame. -/
theorem Sender.Sized.length_le {s s' : Sender} {srcPort dstPort : UInt16} {now : Duration}
    {flight : Flight} (h : s.Sized) (e : s.nextWindow? srcPort dstPort now = some (flight, s')) :
    ∀ segment ∈ flight.segments, segment.payload.length ≤ Segment.maxPayload := by
  intro segment hsegment
  rw [(segments_of_nextWindow? e).1] at hsegment
  exact Nat.le_trans (StreamBuffer.length_le_of_mem_cut hsegment) h.mss

/-- A segment that fits a frame is packed and sent. -/
theorem Checked.send_eq_ok (p : Profile) (src dest : NodeAddr) {s : Segment}
    (h : s.payload.length ≤ Segment.maxPayload) :
    ∃ packet, p.packet? src dest s = some packet ∧ Checked.send p src dest s = .ok packet := by
  have hencode := Segment.encode_eq_ok_iff.mpr ⟨h, rfl⟩
  obtain ⟨packet, hpacket⟩ := p.exists_packet? src dest h
  refine ⟨packet, hpacket, ?_⟩
  unfold Profile.packet? at hpacket
  unfold Checked.send
  rw [pack_eq_ok, ok_bind]
  rw [hencode] at hpacket ⊢
  cases hpacket
  rfl

namespace Connection

variable {ctx : Context} {c : Connection}

/-- A connection in flat memory. -/
def flat (c : Connection) : Checked.Connection where
  identity := c.identity
  origin := c.origin
  sender := c.sender.flat
  phase := c.phase.flat
  peerClosed := c.peerClosed
  confirmed := c.confirmed
  stats := c.stats

@[simp] theorem identity_flat (c : Connection) : c.flat.identity = c.identity := rfl

@[simp] theorem sender_flat (c : Connection) : c.flat.sender = c.sender.flat := rfl

@[simp] theorem phase_flat (c : Connection) : c.flat.phase = c.phase.flat := rfl

@[simp] theorem peerClosed_flat (c : Connection) : c.flat.peerClosed = c.peerClosed := rfl

@[simp] theorem confirmed_flat (c : Connection) : c.flat.confirmed = c.confirmed := rfl

/-- What a connection does, in flat memory. -/
def flatten (r : Connection × List Effect) : Checked.Connection × List Effect := (r.1.flat, r.2)

/-- The buffers of a connection are small enough, and so are its segments. -/
structure Sized (c : Connection) : Prop where
  sender : c.sender.Sized
  receiver : ∀ r, c.phase.receiver? = some r → r.Sized

theorem ack_flat {r : Receiver} (h : r.Sized) : c.flat.ack r.flat = .ok (c.ack r) := by
  unfold Checked.Connection.ack
  rw [Receiver.window_flat h]
  rfl

theorem synAck_flat {r : Receiver} (h : r.Sized) : c.flat.synAck r.flat = .ok (c.synAck r) := by
  unfold Checked.Connection.synAck
  rw [ack_flat h]
  rfl

/-! ### Output -/

/-- The first segment is sent and counted before the others. -/
theorem transmit_cons {s : Segment} {packet : Packet}
    (h : ctx.profile.packet? ctx.addr c.identity.remoteAddr s = some packet)
    (rest : List Segment) {counted : Connection}
    (hcounted : counted =
      { c with stats := { c.stats with segmentsSent := c.stats.segmentsSent + 1 } }) :
    c.transmit ctx (s :: rest) =
      ((counted.transmit ctx rest).1, .send packet :: (counted.transmit ctx rest).2) := by
  subst hcounted
  unfold transmit
  dsimp only
  rw [List.filterMap_cons_some h, List.length_cons, Nat.add_comm _ 1, ← Nat.add_assoc]
  rfl

/-- Segments that fit frames are all sent and counted. -/
theorem transmit_flat (ctx : Context) {segments : List Segment}
    (h : ∀ s ∈ segments, s.payload.length ≤ Segment.maxPayload) :
    c.flat.transmit ctx segments = .ok (flatten (c.transmit ctx segments)) := by
  -- The count grows along the list, so the connection is a different one at
  -- each segment.
  induction segments generalizing c with
  | nil => rfl
  | cons s rest ih =>
    obtain ⟨packet, hpacket, hsend⟩ :=
      send_eq_ok ctx.profile ctx.addr c.identity.remoteAddr (h s List.mem_cons_self)
    generalize hcounted : { c with
      stats := { c.stats with segmentsSent := c.stats.segmentsSent + 1 } } = counted
    have hrest := ih (c := counted) fun s hs => h s (List.mem_cons_of_mem _ hs)
    rw [transmit_cons hpacket rest hcounted.symm]
    unfold Checked.Connection.transmit
    rw [identity_flat, hsend, ok_bind]
    rw [← hcounted] at hrest
    refine (bind_of_eq_ok hrest _).trans ?_
    rw [hcounted]
    rfl

theorem transmit_one_flat (c : Connection) {s : Segment}
    (h : s.payload.length ≤ Segment.maxPayload) :
    c.flat.transmit ctx [s] = .ok (flatten (c.transmit ctx [s])) :=
  transmit_flat ctx fun s' hs => by rw [List.mem_singleton.mp hs]; exact h

/-- A receiver is acknowledged. -/
theorem transmit_ack_flat (c : Connection) {r : Receiver} (h : r.Sized) :
    (do c.flat.transmit ctx [← c.flat.ack r.flat]) = .ok (flatten (c.transmit ctx [c.ack r])) := by
  rw [ack_flat h, ok_bind]
  exact transmit_one_flat c (Nat.zero_le _)

theorem transmitArm_flat (c : Connection) {s : Segment}
    (h : s.payload.length ≤ Segment.maxPayload) (delay : Duration) (event : TimerEvent) :
    c.flat.transmitArm ctx s delay event =
      .ok ((c.transmit ctx [s]).1.flat, (c.transmit ctx [s]).2 ++ [ctx.arm delay event]) := by
  unfold Checked.Connection.transmitArm
  rw [transmit_one_flat c h]
  rfl

theorem transmitFlight_flat {flight : Flight}
    (h : ∀ s ∈ flight.segments, s.payload.length ≤ Segment.maxPayload) :
    c.flat.transmitFlight ctx flight = .ok (flatten (c.transmitFlight ctx flight)) := by
  have hsent := transmit_flat ctx (c := { c with
    stats := { c.stats with windowsRetransmitted :=
      c.stats.windowsRetransmitted + (if flight.retransmit then 1 else 0) } }) h
  unfold Checked.Connection.transmitFlight
  refine (bind_of_eq_ok hsent _).trans ?_
  rfl

theorem sendWindow_flat (ctx : Context) (h : c.sender.Sized) :
    c.flat.sendWindow ctx = .ok (flatten (c.sendWindow ctx)) := by
  unfold Checked.Connection.sendWindow sendWindow
  rw [sender_flat, identity_flat,
    Sender.nextWindow?_flat h, ok_bind]
  cases hnext : c.sender.nextWindow? c.identity.localPort c.identity.remotePort ctx.now with
  | none => rfl
  | some next =>
    have hfits : ∀ s ∈ next.1.segments, s.payload.length ≤ Segment.maxPayload :=
      h.length_le hnext
    exact transmitFlight_flat (c := { c with sender := next.2 }) hfits

/-! ### Opening -/

theorem length_synAck (c : Connection) (r : Receiver) :
    (c.synAck r).payload.length ≤ Segment.maxPayload := by
  show 4 ≤ 65_535
  decide

theorem request_flat (ctx : Context) (identity : Identity) :
    Checked.Connection.request ctx identity = .ok (flatten (request ctx identity)) := by
  unfold Checked.Connection.request request
  dsimp only
  rw [Sender.create_flat, ok_bind]
  generalize Sender.create _ _ _ _ = sender
  exact transmitArm_flat { identity, origin := .opened, sender, phase := .synSent }
    (Nat.zero_le _) _ _

theorem answer_flat (ctx : Context) (identity : Identity) (request : Segment) :
    Checked.Connection.answer ctx identity request =
      .ok (flatten (answer ctx identity request)) := by
  have hsized := Receiver.sized_create ctx.profile request.seq
  unfold Checked.Connection.answer answer
  rw [Sender.create_flat, ok_bind, Receiver.create_flat, ok_bind]
  dsimp only
  generalize Sender.create _ _ _ _ = sender
  generalize Receiver.create _ _ = receiver at hsized
  have hanswer := synAck_flat (c := {
    identity, origin := .spawned, sender, phase := .established receiver }) hsized
  refine (bind_of_eq_ok hanswer _).trans ?_
  exact transmitArm_flat { identity, origin := .spawned, sender, phase := .established receiver }
    (length_synAck _ receiver) _ _

/-! ### Calls of the application -/

theorem write_flat (ctx : Context) (h : c.Sized) (bytes : List UInt8) :
    c.flat.write ctx bytes = .ok ((c.write ctx bytes).1, flatten (c.write ctx bytes).2) := by
  unfold Checked.Connection.write write
  rw [phase_flat, sender_flat]
  cases hphase : c.phase with
  | established r =>
    have hsized := h.sender.write bytes
    dsimp only [Phase.flat]
    rw [Sender.write_flat h.sender, ok_bind]
    generalize c.sender.write bytes = written at hsized
    obtain ⟨n, sender⟩ := written
    dsimp only at hsized ⊢
    rw [Sender.isIdle_flat,
      Sender.isDrained_flat]
    by_cases hsend : (sender.isIdle && !sender.isDrained) = true
    · have hwindow := sendWindow_flat ctx (c := { c with
        sender, phase := .established r }) hsized
      rw [if_pos hsend, if_pos hsend]
      refine (bind_of_eq_ok hwindow _).trans ?_
      rfl
    · rw [if_neg hsend, if_neg hsend]
      rfl
  | _ => rfl

theorem read_flat (h : c.Sized) (n : Nat) :
    c.flat.read n = .ok ((c.read n).1, (c.read n).2.flat) := by
  unfold Checked.Connection.read read
  rw [phase_flat, Phase.receiver?_flat]
  cases hreceiver : c.phase.receiver? with
  | none => rfl
  | some r =>
    dsimp only [Option.map_some]
    rw [Receiver.read_flat (h.receiver r hreceiver), ok_bind, Phase.withReceiver_flat]
    rfl

theorem close_flat (ctx : Context) (h : c.Sized) :
    c.flat.close ctx = .ok (flatten (c.close ctx)) := by
  unfold Checked.Connection.close close
  rw [phase_flat, sender_flat]
  cases hphase : c.phase with
  | established r =>
    dsimp only [Phase.flat]
    rw [Sender.endSeq_flat h.sender]
    rfl
  | _ => rfl

/-! ### Segments arriving -/

theorem Sized.receiver_of_open (h : c.Sized) {r : Receiver}
    (hopen : c.phase.openReceiver? = some r) : r.Sized :=
  h.receiver r (Phase.receiver?_of_openReceiver? hopen)

theorem onSynAck_flat (c : Connection) (s : Segment) :
    c.flat.onSynAck ctx s = .ok (flatten (c.onSynAck ctx s)) := by
  unfold Checked.Connection.onSynAck onSynAck
  -- Only a payload of exactly four bytes carries a number.
  rcases s.payload with _ | ⟨b3, _ | ⟨b2, _ | ⟨b1, _ | ⟨b0, _ | ⟨more, rest⟩⟩⟩⟩⟩
  case cons.cons.cons.cons.nil =>
    dsimp only
    rw [sender_flat, Sender.isn_flat]
    by_cases hseq : s.seq = Sequence.advance c.sender.isn 1
    · have hsized := Receiver.sized_create ctx.profile (Wire.word32 b3 b2 b1 b0)
      rw [if_pos hseq, if_pos hseq, Receiver.create_flat, ok_bind]
      generalize Receiver.create _ _ = receiver at hsized
      exact transmit_ack_flat { c with
        sender := c.sender.withReceiverWindow s.window
        phase := .established receiver
        confirmed := true } hsized
    · rw [if_neg hseq, if_neg hseq]
      rfl
  all_goals rfl

theorem afterAck_flat (h : c.sender.Sized) (outcome : AckOutcome) :
    c.flat.afterAck ctx outcome = .ok (flatten (c.afterAck ctx outcome)) := by
  cases outcome with
  | duplicate => rfl
  | ignored => rfl
  | advanced bytes windowComplete =>
    unfold Checked.Connection.afterAck afterAck
    dsimp only
    rw [sender_flat, Sender.isDrained_flat]
    by_cases hsend : (windowComplete && !c.sender.isDrained) = true
    · rw [if_pos hsend, if_pos hsend]
      exact sendWindow_flat ctx (c := { c with
        stats := { c.stats with bytesAcked := c.stats.bytesAcked + bytes } }) h
    · rw [if_neg hsend, if_neg hsend]
      rfl

theorem onOpenAck_flat (h : c.Sized) {r : Receiver} (hr : r.Sized) (s : Segment) :
    c.flat.onOpenAck ctx r.flat s = lift flatten (c.onOpenAck ctx r s) := by
  unfold Checked.Connection.onOpenAck onOpenAck
  by_cases hpayload : (!s.payload.isEmpty) = true
  · rw [if_pos hpayload, if_pos hpayload]
    exact transmit_ack_flat c hr
  · rw [if_neg hpayload, if_neg hpayload, confirmed_flat,
      sender_flat,
      Sender.sndUna_flat]
    by_cases hfirst : (!c.confirmed && s.seq == c.sender.sndUna) = true
    · rw [if_pos hfirst, if_pos hfirst]
      rfl
    · rw [if_neg hfirst, if_neg hfirst, Sender.onAck_flat h.sender]
      cases hack : c.sender.onAck s.seq s.window ctx.now with
      | error fault => rfl
      | ok acked =>
        have hsized := h.sender.noted (Sender.noted_of_onAck hack)
        exact afterAck_flat (c := { c with confirmed := true, sender := acked.2 }) hsized acked.1

theorem onData_flat (h : c.Sized) (s : Segment) :
    c.flat.onData ctx s = .ok (flatten (c.onData ctx s)) := by
  unfold Checked.Connection.onData onData
  rw [phase_flat, Phase.openReceiver?_flat]
  cases hopen : c.phase.openReceiver? with
  | none => rfl
  | some r =>
    have hsized := (h.receiver_of_open hopen).onSegment s
    dsimp only [Option.map_some]
    rw [Receiver.onSegment_flat (h.receiver_of_open hopen), ok_bind, Phase.withReceiver_flat]
    generalize r.onSegment s = taken at hsized
    obtain ⟨delivery, r'⟩ := taken
    dsimp only at hsized ⊢
    generalize c.phase.withReceiver r' = phase
    cases delivery with
    | accepted n =>
      exact transmit_ack_flat { c with
        confirmed := true, phase
        stats := { c.stats with bytesDelivered := c.stats.bytesDelivered + n } } hsized
    | outOfOrder => exact transmit_ack_flat { c with confirmed := true, phase } hsized
    | noRoom => rfl

theorem onOpenFin_flat (h : c.Sized) (r : Receiver) :
    c.flat.onOpenFin ctx r.flat = .ok (flatten (c.onOpenFin ctx r)) := by
  unfold Checked.Connection.onOpenFin
  rw [sender_flat, Sender.abandon_flat h.sender]
  rfl

theorem onFin_flat (h : c.Sized) : c.flat.onFin ctx = .ok (flatten (c.onFin ctx)) := by
  unfold Checked.Connection.onFin onFin
  rw [phase_flat]
  cases hphase : c.phase with
  | established r => exact onOpenFin_flat h r
  | shutdown r finSeq => exact onOpenFin_flat h r
  | _ => rfl

theorem onDuplicateSyn_flat (h : c.Sized) :
    c.flat.onDuplicateSyn ctx = .ok (flatten (c.onDuplicateSyn ctx)) := by
  unfold Checked.Connection.onDuplicateSyn onDuplicateSyn
  rw [phase_flat, Phase.openReceiver?_flat]
  cases hopen : c.phase.openReceiver? with
  | none => rfl
  | some r =>
    dsimp only [Option.map_some]
    rw [peerClosed_flat]
    by_cases hclosed : c.peerClosed = true
    · rw [if_pos hclosed, if_pos hclosed]
      rfl
    · rw [if_neg hclosed, if_neg hclosed, synAck_flat (h.receiver_of_open hopen), ok_bind]
      exact transmit_one_flat c (length_synAck c r)

theorem onSegment_flat (ctx : Context) (h : c.Sized) (s : Segment) :
    c.flat.onSegment ctx s = lift flatten (c.onSegment ctx s) := by
  unfold Checked.Connection.onSegment onSegment
  cases s.kind with
  | syn => exact onDuplicateSyn_flat h
  | data => exact onData_flat h s
  | fin => exact onFin_flat h
  | ack =>
    dsimp only
    rw [phase_flat]
    cases hphase : c.phase with
    | synSent => exact onSynAck_flat c s
    | established r => exact onOpenAck_flat h (h.receiver r (by rw [hphase]; rfl)) s
    | shutdown r finSeq => exact onOpenAck_flat h (h.receiver r (by rw [hphase]; rfl)) s
    | closed r => rfl

/-! ### Timers coming back -/

theorem onRetransmitSyn_flat (c : Connection) (isn : UInt32) :
    c.flat.onRetransmitSyn ctx isn = .ok (flatten (c.onRetransmitSyn ctx isn)) := by
  unfold Checked.Connection.onRetransmitSyn onRetransmitSyn
  rw [phase_flat]
  cases hphase : c.phase with
  | synSent =>
    dsimp only [Phase.flat]
    rw [sender_flat, Sender.isn_flat]
    by_cases hisn : c.sender.isn = isn
    · rw [if_pos hisn, if_pos hisn]
      exact transmitArm_flat c (Nat.zero_le _) _ _
    · rw [if_neg hisn, if_neg hisn]
      rfl
  | _ => rfl

theorem onRetransmitSynAck_flat (h : c.Sized) (ack : UInt32) :
    c.flat.onRetransmitSynAck ctx ack = .ok (flatten (c.onRetransmitSynAck ctx ack)) := by
  unfold Checked.Connection.onRetransmitSynAck onRetransmitSynAck
  rw [phase_flat, Phase.openReceiver?_flat]
  cases hopen : c.phase.openReceiver? with
  | none => rfl
  | some r =>
    dsimp only [Option.map_some]
    rw [confirmed_flat, Receiver.rcvNxt_flat]
    by_cases hmissing : (!c.confirmed && r.rcvNxt == ack) = true
    · rw [if_pos hmissing, if_pos hmissing, synAck_flat (h.receiver_of_open hopen), ok_bind]
      exact transmitArm_flat c (length_synAck c r) _ _
    · rw [if_neg hmissing, if_neg hmissing]
      rfl

theorem onShutdownCheck_flat (c : Connection) (finSeq : UInt32) :
    c.flat.onShutdownCheck ctx finSeq = .ok (flatten (c.onShutdownCheck ctx finSeq)) := by
  unfold Checked.Connection.onShutdownCheck onShutdownCheck
  rw [phase_flat]
  cases hphase : c.phase with
  | shutdown r pending =>
    dsimp only [Phase.flat]
    by_cases hvoid : pending ≠ finSeq
    · rw [if_pos hvoid, if_pos hvoid]
      rfl
    · rw [if_neg hvoid, if_neg hvoid, sender_flat, Sender.isDrained_flat, Sender.sndUna_flat]
      by_cases hdone : (c.sender.isDrained && c.sender.sndUna == finSeq) = true
      · rw [if_pos hdone, if_pos hdone]
        refine (bind_of_eq_ok (transmit_one_flat c (Nat.zero_le _)) _).trans ?_
        rfl
      · rw [if_neg hdone, if_neg hdone]
        rfl
  | _ => rfl

theorem onWindowTimeout_flat (h : c.Sized) (generation : Nat) :
    c.flat.onWindowTimeout ctx generation = .ok (flatten (c.onWindowTimeout ctx generation)) := by
  unfold Checked.Connection.onWindowTimeout onWindowTimeout
  rw [phase_flat, Phase.openReceiver?_flat]
  cases hopen : c.phase.openReceiver? with
  | none => rfl
  | some r =>
    dsimp only [Option.map_some]
    rw [sender_flat, identity_flat,
      Sender.onWindowTimeout?_flat h.sender, ok_bind]
    cases hagain : c.sender.onWindowTimeout? generation c.identity.localPort
        c.identity.remotePort ctx.now with
    | none => rfl
    | some again =>
      have hfits : ∀ s ∈ again.1.segments, s.payload.length ≤ Segment.maxPayload := by
        obtain ⟨-, -, cut, s'', hnext, hsegments, -⟩ := Sender.exists_of_onWindowTimeout? hagain
        rw [hsegments]
        exact h.sender.length_le hnext
      exact transmitFlight_flat (c := { c with
        sender := again.2, stats := { c.stats with timeouts := c.stats.timeouts + 1 } }) hfits

theorem onTimer_flat (ctx : Context) (h : c.Sized) (event : TimerEvent) :
    c.flat.onTimer ctx event = .ok (flatten (c.onTimer ctx event)) := by
  cases event with
  | retransmitSyn isn => exact onRetransmitSyn_flat c isn
  | retransmitSynAck ack => exact onRetransmitSynAck_flat h ack
  | shutdownCheck finSeq => exact onShutdownCheck_flat c finSeq
  | windowTimeout generation => exact onWindowTimeout_flat h generation

/-! ### Connections stay sized -/

variable {c' : Connection} {stimulus : Stimulus} {effects : List Effect}

theorem Sized.of_sender (h : c.Sized) (hsender : c'.sender.Sized)
    (hphase : c'.phase.receiver? = c.phase.receiver?) : c'.Sized :=
  ⟨hsender, fun r hr => h.receiver r (hphase ▸ hr)⟩

/-- Another receiver takes the place of the one that is there. -/
theorem Sized.of_receiver (h : c.Sized) {r r' : Receiver} (hr : c.phase.receiver? = some r)
    (hsized : r'.Sized) (hsender : c'.sender = c.sender)
    (hphase : c'.phase = c.phase.withReceiver r') : c'.Sized := by
  refine ⟨hsender ▸ h.sender, fun taken htaken => ?_⟩
  rw [hphase, Phase.receiver?_withReceiver hr] at htaken
  cases htaken
  exact hsized

/-- **A connection stays sized**, whatever it answers. -/
theorem Responds.sized (h : c.Responds ctx stimulus c' effects) (hc : c.Sized) : c'.Sized := by
  have hcreated : ∀ {peerIsn : UInt32} {r : Receiver},
      some (Receiver.create ctx.profile.shape peerIsn) = some r → r.Sized := by
    intro peerIsn r hr
    cases hr
    exact Receiver.sized_create ctx.profile peerIsn
  cases h with
  | ignored => exact hc
  | wrote => exact hc.of_sender (hc.sender.write _) rfl
  | wroteSent _ _ hwindow => exact hc.of_sender ((hc.sender.write _).nextWindow hwindow) rfl
  | read hreceiver =>
    exact hc.of_receiver hreceiver ((hc.receiver _ hreceiver).read _) rfl rfl
  | closing hphase => exact hc.of_sender hc.sender (by rw [hphase]; rfl)
  | opened => exact ⟨⟨hc.sender.capacity, hc.sender.mss, hc.sender.congestion⟩, fun _ => hcreated⟩
  | data hopen =>
    exact hc.of_receiver (Phase.receiver?_of_openReceiver? hopen)
      ((hc.receiver_of_open hopen).onSegment _) rfl rfl
  | dropped hopen =>
    exact hc.of_receiver (Phase.receiver?_of_openReceiver? hopen)
      ((hc.receiver_of_open hopen).onSegment _) rfl rfl
  | confirmed =>
    exact hc.of_sender ⟨hc.sender.capacity, hc.sender.mss, hc.sender.congestion⟩ rfl
  | acked _ _ _ hack => exact hc.of_sender (hc.sender.noted (Sender.noted_of_onAck hack)) rfl
  | ackedSent _ _ _ hack hwindow =>
    exact hc.of_sender ((hc.sender.noted (Sender.noted_of_onAck hack)).nextWindow hwindow) rfl
  | ended hopen =>
    exact hc.of_sender ⟨hc.sender.capacity, hc.sender.mss, hc.sender.congestion⟩
      (Phase.receiver?_of_openReceiver? hopen).symm
  | refused hphase => exact hc.of_sender hc.sender (by rw [hphase]; rfl)
  | finished hphase => exact hc.of_sender hc.sender (by rw [hphase]; rfl)
  | repeated _ hoverdue => exact hc.of_sender (hc.sender.windowTimeout hoverdue) rfl
  | regranted => exact hc.of_sender hc.sender rfl
  | reconfirmed => exact hc.of_sender hc.sender rfl
  | requested => exact hc.of_sender hc.sender rfl
  | granted => exact hc.of_sender hc.sender rfl
  | waited => exact hc

theorem sized_of_request {identity : Identity} (h : request ctx identity = (c, effects)) :
    c.Sized := by
  obtain ⟨⟨stats, rfl⟩, -⟩ := eq_of_request h
  exact ⟨Sender.sized_create ctx.profile _ _, nofun⟩

theorem sized_of_answer {identity : Identity} {s : Segment}
    (h : answer ctx identity s = (c, effects)) : c.Sized := by
  obtain ⟨⟨stats, rfl⟩, -⟩ := eq_of_answer h
  refine ⟨Sender.sized_create ctx.profile _ _, fun r hr => ?_⟩
  cases hr
  exact Receiver.sized_create ctx.profile s.seq

end Connection

end ReliableStream
