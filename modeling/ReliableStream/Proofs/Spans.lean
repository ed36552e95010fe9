import ReliableStream.Proofs.Addressing
import ReliableStream.Proofs.BackOff
import ReliableStream.Proofs.LifeCycle
import ReliableStream.Proofs.WakeUps
/-! # How long timers take

    No timer of a node comes back sooner than the least span of its settings:
    the pause between two tries, that between two looks, or the least
    retransmission timeout. The last of them takes an invariant, for the
    timeout moves with every measurement: it never falls below the floor that
    it was set up with. -/

namespace ReliableStream

/-- An effect arms no timer of less than a span. -/
def Effect.Lasts (span : Nat) : Effect → Prop
  | .send _ => True
  | .arm delay _ => span ≤ delay.nanos

/-- Every span of a profile is at least so long. -/
structure Profile.Lasts (p : Profile) (span : Nat) : Prop where
  synRetransmit : span ≤ p.timers.synRetransmit.nanos
  shutdownCheck : span ≤ p.timers.shutdownCheck.nanos
  minRto : span ≤ p.timers.minRto.nanos

/-! ### Senders -/

namespace Sender

variable {s s' : Sender} {p : Profile} {srcPort dstPort : UInt16} {now : Duration}
  {flight : Flight}

/-- A sender set up with a profile waits at least as long as the profile says,
    and its buffer is as large. -/
structure Patient (s : Sender) (p : Profile) : Prop where
  minRto : s.roundTrip.minRto = p.timers.minRto
  minRto_le : p.timers.minRto ≤ s.roundTrip.timeout
  capacity : s.buffer.capacity = p.shape.capacity

theorem patient_create (p : Profile) (isn rwnd : UInt32) :
    (create p.shape p.timers isn rwnd).Patient p where
  minRto := rfl
  minRto_le := (RoundTrip.floored_create p.timers).floor_le
  capacity := rfl

theorem Patient.write (h : s.Patient p) (bytes : List UInt8) : (s.write bytes).2.Patient p :=
  ⟨h.minRto, h.minRto_le, (StreamBuffer.capacity_write ..).trans h.capacity⟩

theorem Patient.nextWindow (h : s.Patient p)
    (e : s.nextWindow? srcPort dstPort now = some (flight, s')) : s'.Patient p := by
  obtain ⟨-, last, probe, -, rfl⟩ := sender_of_nextWindow? e
  exact ⟨h.minRto, h.minRto_le, h.capacity⟩

theorem Patient.windowTimeout (h : s.Patient p) {generation : Nat}
    (e : s.onWindowTimeout? generation srcPort dstPort now = some (flight, s')) : s'.Patient p := by
  obtain ⟨-, -, cut, s'', hnext, -, -, -, rfl⟩ := exists_of_onWindowTimeout? e
  have hcut := h.nextWindow hnext
  -- The timeout is doubled, and so still no less than the floor.
  exact ⟨hcut.minRto, Nat.le_trans hcut.minRto_le (Duration.le_timesSat _ (by decide)),
    hcut.capacity⟩

theorem Patient.noted (h : s.Patient p) {ack window : UInt32} {outcome : AckOutcome}
    (hnoted : s.Noted ack window outcome s') : s'.Patient p := by
  cases hnoted with
  | duplicate => exact ⟨h.minRto, h.minRto_le, h.capacity⟩
  | ignored => exact h
  | advanced roundTrip probe _ _ _ hround =>
    have hcapacity := (s.buffer.capacity_release ack).trans h.capacity
    rcases hround with rfl | ⟨sample, hrecord⟩
    · exact ⟨h.minRto, h.minRto_le, hcapacity⟩
    · rw [← RoundTrip.recordBy_scale] at hrecord
      obtain ⟨hmin, hle⟩ := RoundTrip.floored_of_recordBy hrecord
      exact ⟨hmin.trans h.minRto, h.minRto ▸ hle, hcapacity⟩

/-- A flight is waited for at least as long as for one segment. -/
theorem Patient.le_timeout (h : s.Patient p)
    (e : s.nextWindow? srcPort dstPort now = some (flight, s')) :
    p.timers.minRto ≤ flight.timeout :=
  (awaits_of_nextWindow? e).1.le_timeout (h.nextWindow e).minRto_le

theorem Patient.le_overdue (h : s.Patient p) {generation : Nat}
    (e : s.onWindowTimeout? generation srcPort dstPort now = some (flight, s')) :
    p.timers.minRto ≤ flight.timeout := by
  have hretimes : s.Retimes Duration.scale _ _ s' := retimes_of_onWindowTimeout? e
  exact hretimes.awaits.le_timeout (h.windowTimeout e).minRto_le

end Sender

/-! ### Connections -/

namespace Connection

variable {ctx : Context} {c c' : Connection} {stimulus : Stimulus} {effects : List Effect}
  {span : Nat}

theorem Responds.patient (h : c.Responds ctx stimulus c' effects) {p : Profile}
    (hs : c.sender.Patient p) : c'.sender.Patient p := by
  cases h with
  | wrote => exact hs.write _
  | wroteSent _ _ hnext => exact (hs.write _).nextWindow hnext
  | opened => exact ⟨hs.minRto, hs.minRto_le, hs.capacity⟩
  | confirmed => exact ⟨hs.minRto, hs.minRto_le, hs.capacity⟩
  | acked _ _ _ hack => exact hs.noted (Sender.noted_of_onAck hack)
  | ackedSent _ _ _ hack hnext => exact (hs.noted (Sender.noted_of_onAck hack)).nextWindow hnext
  | ended => exact ⟨hs.minRto, hs.minRto_le, hs.capacity⟩
  | repeated _ hoverdue => exact hs.windowTimeout hoverdue
  | _ => exact hs

theorem lasts_sends (dest : NodeAddr) (segments : List Segment) :
    ∀ e ∈ ctx.sends dest segments, e.Lasts span := by
  intro e he
  obtain ⟨packet, -, rfl⟩ := List.mem_map.mp he
  trivial

theorem lasts_arm {delay : Duration} {event : TimerEvent} (h : span ≤ delay.nanos) :
    ∀ e ∈ [ctx.arm delay event], e.Lasts span := by
  intro e he
  cases List.mem_singleton.mp he
  exact h

theorem lasts_sends_arm {dest : NodeAddr} {segments : List Segment} {delay : Duration}
    {event : TimerEvent} (h : span ≤ delay.nanos) :
    ∀ e ∈ ctx.sends dest segments ++ [ctx.arm delay event], e.Lasts span := by
  intro e he
  rcases List.mem_append.mp he with he | he
  · exact lasts_sends dest segments e he
  · exact lasts_arm h e he

/-- A connection arms no timer of less than the least span. -/
theorem Responds.lasts (h : c.Responds ctx stimulus c' effects) (hspan : ctx.profile.Lasts span)
    (hs : c.sender.Patient ctx.profile) : ∀ e ∈ effects, e.Lasts span := by
  cases h with
  | wroteSent _ _ hnext =>
    exact lasts_sends_arm (Nat.le_trans hspan.minRto ((hs.write _).le_timeout hnext))
  | closing => exact lasts_arm hspan.shutdownCheck
  | opened => exact lasts_sends _ _
  | regranted => exact lasts_sends _ _
  | reconfirmed => exact lasts_sends _ _
  | data => exact lasts_sends _ _
  | ackedSent _ _ _ hack hnext =>
    exact lasts_sends_arm (Nat.le_trans hspan.minRto
      ((hs.noted (Sender.noted_of_onAck hack)).le_timeout hnext))
  | ended => exact lasts_arm hspan.shutdownCheck
  | requested => exact lasts_sends_arm hspan.synRetransmit
  | granted => exact lasts_sends_arm hspan.synRetransmit
  | waited => exact lasts_arm hspan.shutdownCheck
  | finished => exact lasts_sends _ _
  | repeated _ hoverdue =>
    exact lasts_sends_arm (Nat.le_trans hspan.minRto (hs.le_overdue hoverdue))
  | _ => nofun

theorem lasts_of_request {identity : Identity} (h : request ctx identity = (c, effects))
    (hspan : ctx.profile.Lasts span) : ∀ e ∈ effects, e.Lasts span := by
  obtain ⟨stats, -, hrequest⟩ := request_eq ctx identity
  rw [hrequest] at h
  cases h
  exact lasts_sends_arm hspan.synRetransmit

theorem lasts_of_answer {identity : Identity} {s : Segment}
    (h : answer ctx identity s = (c, effects)) (hspan : ctx.profile.Lasts span) :
    ∀ e ∈ effects, e.Lasts span := by
  obtain ⟨stats, -, hanswer⟩ := answer_eq ctx identity s
  rw [hanswer] at h
  cases h
  exact lasts_sends_arm hspan.synRetransmit

end Connection

/-! ### Nodes -/

namespace Node

variable {n n' : Node} {now : Duration} {input : Input} {effects : List Effect} {span : Nat}

/-- Every connection of a node has a patient sender. -/
def Patient (n : Node) : Prop :=
  ∀ id c, n.socket? id = some (.connection c) → c.sender.Patient n.profile

theorem Patient.of_create {addr : NodeAddr} {settings : Settings}
    (h : Node.create addr settings = .ok n) : n.Patient := by
  intro id c hsocket
  rw [socket?_of_create h] at hsocket
  cases hsocket

theorem Patient.change (h : n.Patient) (hchange : n.Change now input n' effects) : n'.Patient := by
  intro id c hsocket
  rw [hchange.profile]
  cases hchange.became hsocket with
  | kept hbefore => exact h id c hbefore
  | opened _ hopened =>
    obtain ⟨⟨stats, rfl⟩, -, -⟩ := Connection.eq_of_request hopened
    exact Sender.patient_create n.profile _ _
  | spawned _ _ hopened =>
    obtain ⟨⟨stats, rfl⟩, -, -⟩ := Connection.eq_of_answer hopened
    exact Sender.patient_create n.profile _ _
  | moved _ hbefore hrespond =>
    exact (Connection.responds_of_respond hrespond).patient (h id _ hbefore)

/-- **A node arms no timer of less than the least span.** -/
theorem Change.lasts (h : n.Change now input n' effects) (hspan : n.profile.Lasts span)
    (hn : n.Patient) : ∀ e ∈ effects, e.Lasts span := by
  cases h with
  | reset =>
    intro e he
    obtain ⟨packet, -, rfl⟩ := Option.map_eq_some_iff.mp (Option.mem_toList.mp he)
    trivial
  | connecting _ hopened => exact Connection.lasts_of_request hopened hspan
  | spawned _ _ _ _ hopened => exact Connection.lasts_of_answer hopened hspan
  | moved _ hsocket hrespond =>
    exact (Connection.responds_of_respond hrespond).lasts hspan (hn _ _ hsocket)
  | _ => nofun

/-- Every packet that a node sends carries a segment. -/
theorem Change.carries (h : n.Change now input n' effects) :
    ∀ packet ∈ packetsOf effects, ∃ s, packet.segment? = some s := by
  have hconnection : ∀ {ctx : Context} {identity : Identity},
      Connection.Addressed ctx identity effects →
        ∀ packet ∈ packetsOf effects, ∃ s, packet.segment? = some s := by
    intro ctx identity haddressed packet hpacket
    obtain ⟨-, -, s, hs, -⟩ := haddressed packet hpacket
    exact ⟨s, hs⟩
  cases h with
  | @reset packet s reply =>
    intro packet' hpacket'
    cases hmade : n.profile.packet? n.addr packet.src reply with
    | none =>
      rw [hmade] at hpacket'
      cases hpacket'
    | some made =>
      rw [hmade] at hpacket'
      cases List.mem_singleton.mp hpacket'
      exact ⟨reply, Profile.segment?_of_packet? hmade⟩
  | connecting _ hopened => exact hconnection (Connection.addressed_request hopened)
  | spawned _ _ _ _ hopened => exact hconnection (Connection.addressed_answer hopened)
  | moved _ _ hrespond => exact hconnection (Connection.addressed_of_respond hrespond)
  | _ => nofun

/-! ### Nodes that pause -/

/-- A node whose senders are patient, whose timers take at least a span, and
    whose windows are not more than half of all sequence numbers. -/
structure Pausing (n : Node) (span : Nat) : Prop where
  patient : n.Patient
  lasts : n.profile.Lasts span
  capacity : n.profile.shape.capacity ≤ 2_147_483_648

theorem Pausing.capacity_le (h : n.Pausing span) {id : SocketId} {c : Connection}
    (hsocket : n.socket? id = some (.connection c)) :
    c.sender.buffer.capacity ≤ 2_147_483_648 := by
  rw [(h.patient id c hsocket).capacity]
  exact h.capacity

theorem Pausing.change (h : n.Pausing span) (hchange : n.Change now input n' effects) :
    n'.Pausing span :=
  ⟨h.patient.change hchange, hchange.profile ▸ h.lasts, hchange.profile ▸ h.capacity⟩

/-- A shorter span is kept as well. -/
theorem Pausing.mono (h : n.Pausing span) {less : Nat} (hless : less ≤ span) : n.Pausing less where
  patient := h.patient
  lasts := ⟨Nat.le_trans hless h.lasts.synRetransmit, Nat.le_trans hless h.lasts.shutdownCheck,
    Nat.le_trans hless h.lasts.minRto⟩
  capacity := h.capacity

/-- A node in use: it was created with settings that are sound, whose buffers
    take at most half of all sequence numbers and whose spans are not zero, and
    has since answered whatever came. -/
def InUse (n : Node) : Prop :=
  ∃ addr settings start inputs, Node.create addr settings = .ok start ∧
    settings.bufferSize ≤ 2_147_483_648 ∧ settings.timers.synRetransmit ≠ .zero ∧
    settings.timers.shutdownCheck ≠ .zero ∧ settings.timers.minRto ≠ .zero ∧
    start.after inputs = some n

/-- Every node in use pauses. -/
theorem InUse.exists_pausing (h : n.InUse) : ∃ span, 0 < span ∧ n.Pausing span := by
  obtain ⟨addr, settings, start, inputs, hcreate, hsize, hsyn, hcheck, hrto, hafter⟩ := h
  have hpositive : ∀ {d : Duration}, d ≠ .zero → 0 < d.nanos := fun hne =>
    Nat.pos_of_ne_zero fun hzero => hne (Duration.ext hzero)
  have hspans := And.intro (hpositive hsyn) (And.intro (hpositive hcheck) (hpositive hrto))
  have hpatient := Patient.of_create hcreate
  obtain ⟨profile, hprofile, rfl⟩ := exists_of_map_eq_ok hcreate
  obtain ⟨hcapacity, htimers⟩ := Settings.profile_of_check hprofile
  -- The least of the three spans is one for all of them.
  refine ⟨min settings.timers.synRetransmit.nanos
    (min settings.timers.shutdownCheck.nanos settings.timers.minRto.nanos), by omega, ?_⟩
  refine Node.of_after (Pausing · _) ⟨hpatient, ?_, by rw [hcapacity]; exact hsize⟩
    (fun _ _ _ _ _ hpausing hreact => hpausing.change (change_of_react hreact)) hafter
  constructor <;> rw [htimers] <;> omega

end Node

end ReliableStream
