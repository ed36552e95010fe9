import ReliableStream.Proofs.Moves
import ReliableStream.Proofs.Positions
/-! # The two streams of a connection

    A connection moves two streams: the bytes **taken** from writes go out, and
    the bytes **handed** out by reads came in. A move keeps the sender in
    possession of all that is not acknowledged, lets the receiver append
    nothing but the payload that starts with the next byte expected, and says
    nothing but what the connection has to say after it. What it **learns** of
    the other end comes from an acknowledgment of the position it moved to. -/

namespace ReliableStream.Connection

open Sequence

variable {ctx : Context} {c c' : Connection} {stimulus : Stimulus} {effects : List Effect}

/-- The bytes that a stimulus makes the connection take from its application. -/
def taken (ctx : Context) (c : Connection) : Stimulus → List UInt8
  | .write bytes => bytes.take (c.write ctx bytes).1
  | _ => []

/-- The bytes that a stimulus makes the connection hand to its application. -/
def handed (c : Connection) : Stimulus → List UInt8
  | .read count => (c.read count).1
  | _ => []

/-! ### Going out -/

theorem taken_of_established {r : Receiver} (h : c.phase = .established r) (bytes : List UInt8) :
    c.taken ctx (.write bytes) = bytes.take (c.sender.write bytes).1 := by
  have hcount : (c.write ctx bytes).1 = (c.sender.write bytes).1 := by
    unfold write
    rw [h]
    simp only
    split <;> rfl
  show bytes.take (c.write ctx bytes).1 = _
  rw [hcount]

/-- Nothing is taken by a connection that is not established. -/
theorem taken_of_moot (h : c.Moot stimulus) : c.taken ctx stimulus = [] := by
  cases stimulus with
  | write bytes =>
    have hcount : (c.write ctx bytes).1 = 0 := by
      unfold write
      split
      · next r hphase => exact absurd hphase (h r)
      · rfl
    show bytes.take (c.write ctx bytes).1 = []
    rw [hcount, List.take_zero]
  | _ => rfl

/-- A connection that was never answered moves no bytes. -/
theorem taken_of_unanswered (h : c.phase.receiver? = none) (stimulus : Stimulus) :
    c.taken ctx stimulus = [] := by
  cases stimulus with
  | write bytes =>
    refine taken_of_moot fun r hphase => ?_
    rw [hphase] at h
    cases h
  | _ => rfl

/-- What a connection learns of the other end while its position in the
    outgoing stream moves. What was sent never ends earlier than before. -/
inductive Learned (c : Connection) (acked : Nat) : Stimulus → Connection → Nat → Prop where
  | nothing {stimulus : Stimulus} {c' : Connection} (hrwnd : c'.sender.rwnd = c.sender.rwnd)
      (hextent : c.sender.extent ≤ c'.sender.extent) : Learned c acked stimulus c' acked
  /-- An acknowledgment told of the window at the position it is about. -/
  | told {s : Segment} {c' : Connection} {acked' : Nat} (hkind : s.kind = .ack)
      (hseq : s.seq = c'.sender.sndUna) (hrwnd : c'.sender.rwnd = s.window) (hle : acked ≤ acked')
      (hsent : acked' ≤ acked + c.sender.extent)
      (hextent : acked + c.sender.extent ≤ acked' + c'.sender.extent) :
      Learned c acked (.segment s) c' acked'
  | ended {stimulus : Stimulus} {c' : Connection} {acked' : Nat} (hclosed : c'.peerClosed = true)
      (hextent : acked + c.sender.extent ≤ acked' + c'.sender.extent) :
      Learned c acked stimulus c' acked'

theorem Learned.extent_le {acked acked' : Nat} (h : c.Learned acked stimulus c' acked') :
    acked + c.sender.extent ≤ acked' + c'.sender.extent := by
  cases h with
  | nothing _ hextent => exact Nat.add_le_add_left hextent _
  | told _ _ _ _ _ hextent => exact hextent
  | ended _ hextent => exact hextent

/-- A launch moves no position. -/
theorem Learned.nothing_of_launch {flight : Flight} {acked : Nat}
    (hlaunch : c.sender.Launch flight c'.sender) : c.Learned acked stimulus c' acked :=
  .nothing hlaunch.rwnd hlaunch.extent_le

/-- What an acknowledgment told is still known after a flight was launched. -/
theorem learned_of_acked {s : Segment} {outcome : AckOutcome} {freed : Sender}
    {written : List UInt8} {acked : Nat} (hkind : s.kind = .ack) (hsound : c.sender.Sound)
    (h : c.sender.Holds written acked) (hacked : c.sender.Acked s.seq s.window outcome freed)
    (hlater : c'.sender = freed ∨ ∃ flight, freed.Launch flight c'.sender) :
    ∃ acked', c'.sender.Holds written acked' ∧ c.Learned acked (.segment s) c' acked' := by
  obtain ⟨acked', hholds, hend, htold⟩ := h.afterAck hsound hacked
  have hsame : c'.sender.Holds written acked' ∧ c'.sender.sndUna = freed.sndUna ∧
      c'.sender.rwnd = freed.rwnd ∧ freed.extent ≤ c'.sender.extent := by
    rcases hlater with heq | ⟨flight, hlaunch⟩
    · rw [heq]
      exact ⟨hholds, rfl, rfl, Nat.le_refl _⟩
    · exact ⟨hholds.launch hlaunch, hlaunch.sndUna, hlaunch.rwnd, hlaunch.extent_le⟩
  obtain ⟨hkept, hsndUna, hrwnd, hextent⟩ := hsame
  refine ⟨acked', hkept, ?_⟩
  rcases htold with ⟨rfl, hold⟩ | ⟨hle, hseq, hwindow⟩
  · exact .nothing (hrwnd.trans hold) (by omega)
  · exact .told hkind (hseq.trans hsndUna.symm) (hrwnd.trans hwindow) hle (by omega) (by omega)

/-- A move keeps all that was written and is not acknowledged. A request that
    is not answered has nothing acknowledged. -/
theorem Moved.learned {written : List UInt8} {acked : Nat}
    (hmoved : c.Moved ctx stimulus c' effects) (hsound : c.sender.Sound)
    (h : c.sender.Holds written acked) (hasked : c.phase = .synSent → acked = 0) :
    ∃ acked', c'.sender.Holds (written ++ c.taken ctx stimulus) acked' ∧
      c.Learned acked stimulus c' acked' := by
  -- Only a write takes something.
  have hnone : c.sender.Holds (written ++ []) acked := by
    rw [List.append_nil]
    exact h
  have hstay : ∀ {stimulus c'}, c'.sender = c.sender → c.Learned acked stimulus c' acked :=
    fun heq => .nothing (congrArg Sender.rwnd heq) (Nat.le_of_eq (congrArg Sender.extent heq).symm)
  cases hmoved with
  | ignored hmoot =>
    rw [taken_of_moot hmoot]
    exact ⟨acked, hnone, hstay rfl⟩
  | wrote hphase =>
    rw [taken_of_established hphase]
    exact ⟨acked, h.write _, .nothing rfl (Nat.le_refl _)⟩
  | wroteSent hphase _ hlaunch =>
    rw [taken_of_established hphase]
    exact ⟨acked, (h.write _).launch hlaunch, .nothing hlaunch.rwnd hlaunch.extent_le⟩
  | opened hphase hkind hseq =>
    have hzero := hasked hphase
    have hnumber : c.sender.sndUna = advance c.sender.isn 1 := by
      rw [h.sndUna, hzero]
      rfl
    exact ⟨acked, hnone.withReceiverWindow _,
      .told hkind (hseq.trans hnumber.symm) rfl (Nat.le_refl _) (Nat.le_add_right _ _)
        (Nat.le_refl _)⟩
  | confirmed _ hkind hseq =>
    exact ⟨acked, hnone.withReceiverWindow _,
      .told hkind hseq rfl (Nat.le_refl _) (Nat.le_add_right _ _) (Nat.le_refl _)⟩
  | acked _ hkind _ hacked =>
    exact learned_of_acked hkind hsound hnone hacked (Or.inl rfl)
  | ackedSent _ hkind _ hacked _ hlaunch =>
    exact learned_of_acked hkind hsound hnone hacked (Or.inr ⟨_, hlaunch⟩)
  | ended =>
    have hbuffered := h.buffered_eq
    have hacked_le := h.acked_le
    have hsent := hsound.extent_le
    refine ⟨written.length, ?_, .ended rfl (Nat.le_trans ?_ (Nat.le_add_right _ _))⟩
    · show c.sender.abandon.Holds (written ++ []) written.length
      rw [List.append_nil]
      exact h.abandon hsound
    · omega
  | repeated _ _ hlaunch => exact ⟨acked, hnone.launch hlaunch, .nothing_of_launch hlaunch⟩
  | _ => exact ⟨acked, hnone, hstay rfl⟩

/-! ### Coming in -/

/-- What becomes of the receiver. -/
inductive Received (ctx : Context) (c : Connection) : Stimulus → Connection → Prop where
  | absent {stimulus : Stimulus} {c' : Connection} (hbefore : c.phase.receiver? = none)
      (hafter : c'.phase.receiver? = none) : Received ctx c stimulus c'
  | created {s : Segment} {peerIsn : UInt32} {c' : Connection} (hbefore : c.phase.receiver? = none)
      (hkind : s.kind = .ack) (hpayload : s.payload = Wire.bytesOf32 peerIsn)
      (hafter : c'.phase.receiver? = some (.create ctx.profile.shape peerIsn)) :
      Received ctx c (.segment s) c'
  /-- Whatever is handed out was waiting. -/
  | kept {stimulus : Stimulus} {c' : Connection} {r r' : Receiver}
      (hbefore : c.phase.receiver? = some r) (hafter : c'.phase.receiver? = some r')
      (hbytes : c.handed stimulus ++ r'.buffer.contents = r.buffer.contents)
      (hnext : r'.rcvNxt = r.rcvNxt) (hroom : r'.buffer.capacity = r.buffer.capacity) :
      Received ctx c stimulus c'
  | appended {s : Segment} {c' : Connection} {r r' : Receiver}
      (hbefore : c.phase.receiver? = some r) (hafter : c'.phase.receiver? = some r')
      (hkind : s.kind = .data) (hseq : s.seq = r.rcvNxt)
      (hbytes : r'.buffer.contents = r.buffer.contents ++ s.payload)
      (hnext : r'.rcvNxt = advance r.rcvNxt s.payload.length)
      (hroom : r'.buffer.capacity = r.buffer.capacity) : Received ctx c (.segment s) c'

/-- A move that neither reads nor changes the phase keeps the receiver. -/
theorem received_of_phase_eq (hhanded : c.handed stimulus = [])
    (hphase : c'.phase.receiver? = c.phase.receiver?) : c.Received ctx stimulus c' := by
  cases hbefore : c.phase.receiver? with
  | none => exact .absent hbefore (hphase.trans hbefore)
  | some r =>
    exact .kept hbefore (hphase.trans hbefore) (by rw [hhanded, List.nil_append]) rfl rfl

theorem handed_of_unanswered (h : c.phase.receiver? = none) (stimulus : Stimulus) :
    c.handed stimulus = [] := by
  cases stimulus with
  | read count =>
    unfold handed Connection.read
    rw [h]
  | _ => rfl

theorem handed_of_moot (h : c.Moot stimulus) : c.handed stimulus = [] := by
  cases stimulus with
  | read count => exact handed_of_unanswered h (.read count)
  | _ => rfl

theorem Moved.received (hmoved : c.Moved ctx stimulus c' effects) : c.Received ctx stimulus c' := by
  cases hmoved with
  | ignored hmoot => exact received_of_phase_eq (handed_of_moot hmoot) rfl
  | read hreceiver =>
    refine .kept hreceiver (Phase.receiver?_withReceiver hreceiver _) ?_ rfl rfl
    unfold handed Connection.read
    rw [hreceiver]
    exact Receiver.fst_read_append _ _
  | opened hphase hkind _ hpayload =>
    exact .created (by rw [hphase]; rfl) hkind hpayload rfl
  | @data s r _ _ hopen hkind =>
    have hbefore := Phase.receiver?_of_openReceiver? hopen
    have hafter := Phase.receiver?_withReceiver hbefore (r.onSegment s).2
    rcases r.onSegment_cases s with hleft | ⟨hseq, hbytes, hroom, hnext⟩
    · rw [hleft] at hafter
      exact .kept hbefore (by rw [hleft]; exact hafter) rfl rfl rfl
    · exact .appended hbefore hafter hkind hseq hbytes hnext hroom
  | closing hphase => exact received_of_phase_eq rfl (by rw [hphase]; rfl)
  | ended hopen =>
    exact received_of_phase_eq rfl (Phase.receiver?_of_openReceiver? hopen).symm
  | refused hphase => exact received_of_phase_eq rfl (by rw [hphase]; rfl)
  | finished hphase => exact received_of_phase_eq rfl (by rw [hphase]; rfl)
  | _ => exact received_of_phase_eq rfl rfl

/-! ### On the wire -/

/-- What a connection may send in its present state. -/
inductive States (c : Connection) : Segment → Prop where
  | data {s : Segment} {place : Nat} (h : c.sender.buffer.Carries s place)
      (hcovers : c.sender.Covers s) : States c s
  | syn (hphase : c.phase = .synSent) : States c c.syn
  | ack {r : Receiver} (h : c.phase.receiver? = some r) : States c (c.ack r)
  | synAck {r : Receiver} (h : c.phase.receiver? = some r) : States c (c.synAck r)
  | fin (finSeq : UInt32) : States c (c.fin finSeq)

theorem states_of_flight {flight : Flight} {s : Sender} {s' : Segment}
    (hlaunch : s.Launch flight c'.sender) (hmem : s' ∈ flight.segments) : c'.States s' := by
  obtain ⟨place, hcarries⟩ := hlaunch.carries s' hmem
  exact .data hcarries (hlaunch.covers hmem)

/-- A move sends nothing but what the connection states after it. -/
theorem Moved.states (hmoved : c.Moved ctx stimulus c' effects) :
    ∀ s ∈ segmentsOf effects, c'.States s := by
  intro s hs
  cases hmoved with
  | wroteSent _ _ hlaunch _ hsent => exact states_of_flight hlaunch (hsent s hs)
  | ackedSent _ _ _ _ _ hlaunch _ hsent => exact states_of_flight hlaunch (hsent s hs)
  | repeated _ _ hlaunch _ hsent => exact states_of_flight hlaunch (hsent s hs)
  | opened _ _ _ _ _ hsent =>
    rw [hsent s hs]
    exact .ack rfl
  | answered hopen _ _ hsent =>
    rcases hsent s hs with rfl | rfl
    · exact .ack (Phase.receiver?_of_openReceiver? hopen)
    · exact .synAck (Phase.receiver?_of_openReceiver? hopen)
  | data hopen _ _ hsent =>
    rw [hsent s hs]
    exact .ack (Phase.receiver?_withReceiver (Phase.receiver?_of_openReceiver? hopen) _)
  | requested hphase _ hsent =>
    rw [hsent s hs]
    exact .syn hphase
  | granted hopen _ _ hsent =>
    rw [hsent s hs]
    exact .synAck (Phase.receiver?_of_openReceiver? hopen)
  | finished _ _ _ _ hsent =>
    rw [hsent s hs]
    exact .fin _
  | _ => exact absurd hs List.not_mem_nil

end ReliableStream.Connection
