import Mathlib.Algebra.GroupWithZero.Nat
import ReliableStream.Proofs.Damage
import ReliableStream.Proofs.Ending
/-! # What an arriving packet can bring about

    An acknowledgment can release a whole window, each segment of the window
    is acknowledged, and each of these packets may arrive twice. That this
    comes to an end is a matter of accounts. Every packet has a **weight**,
    more than twice that of what it can be answered with. And every sender has
    a **reserve**: two for each byte it holds, and one if nothing is under
    way. Only an acknowledgment makes a sender send, and each that does takes
    something off the reserve: either it frees a byte, or it starts the first
    window.

    Nothing is assumed of the acknowledgments that arrive, so the accounts
    also hold with segments that nobody ever sent. -/

namespace ReliableStream

open Sequence

/-- The weight of all the segments that one window can be cut into, each of
    them arriving twice. -/
def launchWeight : Nat := 30_064_771_072

/-- The weight of a segment. An end is answered by nobody; the weight of a
    request includes the reserve of the connection that is spawned for it. -/
def Segment.weight (s : Segment) : Nat :=
  match s.kind with
  | .fin => 1
  | .ack => if s.payload.isEmpty then 3 else 7
  | .data => 7
  | .syn => launchWeight + 15

theorem Segment.one_le_weight (s : Segment) : 1 ≤ s.weight := by
  unfold weight
  split
  · exact Nat.le_refl 1
  · split <;> decide
  · decide
  · exact Nat.le_add_left 1 _

section Weights

variable {s : Segment}

theorem Segment.weight_of_fin (h : s.kind = .fin) : s.weight = 1 := by
  unfold weight
  rw [h]

theorem Segment.weight_of_data (h : s.kind = .data) : s.weight = 7 := by
  unfold weight
  rw [h]

theorem Segment.weight_of_syn (h : s.kind = .syn) : s.weight = launchWeight + 15 := by
  unfold weight
  rw [h]

/-- An acknowledgment with a payload answers a request. -/
theorem Segment.weight_of_payload (h : s.kind = .ack) (hpayload : s.payload ≠ []) :
    s.weight = 7 := by
  unfold weight
  rw [h]
  simp [hpayload]

theorem Segment.three_le_weight (h : s.kind = .ack ∨ s.kind = .data) : 3 ≤ s.weight := by
  rcases h with h | h
  · unfold weight
    rw [h]
    simp only
    split <;> decide
  · rw [weight_of_data h]
    decide

end Weights

/-- The weight of a packet; one without a segment is answered by nobody. -/
def Packet.weight (p : Packet) : Nat := (p.segment?.map Segment.weight).getD 1

theorem Packet.weight_of_segment? {p : Packet} {s : Segment} (h : p.segment? = some s) :
    p.weight = s.weight := by
  unfold weight
  rw [h]
  rfl

theorem Packet.one_le_weight (p : Packet) : 1 ≤ p.weight := by
  unfold weight
  cases p.segment? with
  | none => exact Nat.le_refl 1
  | some s => exact s.one_le_weight

/-- Damage only takes off the weight. -/
theorem Packet.Conveyed.weight_le {sent arriving : Packet} {s : Segment}
    (h : sent.Conveyed arriving) (hs : sent.segment? = some s) : arriving.weight ≤ sent.weight := by
  rcases h.segment? hs with rfl | hlost
  · exact Nat.le_refl _
  · unfold weight at *
    rw [hlost]
    exact sent.one_le_weight

/-! ### Weights of effects -/

/-- The weight of all packets that are sent. -/
def weightOf (effects : List Effect) : Nat := ((packetsOf effects).map Packet.weight).sum

@[simp] theorem weightOf_nil : weightOf [] = 0 := rfl

@[simp] theorem weightOf_append (a b : List Effect) :
    weightOf (a ++ b) = weightOf a + weightOf b := by
  unfold weightOf
  rw [packetsOf_append, List.map_append, List.sum_append]

theorem weightOf_cons (effect : Effect) (effects : List Effect) :
    weightOf (effect :: effects) = weightOf [effect] + weightOf effects :=
  weightOf_append [effect] effects

@[simp] theorem weightOf_arm (ctx : Context) (delay : Duration) (event : TimerEvent) :
    weightOf [ctx.arm delay event] = 0 := rfl

/-- The weight of a packet made for a segment. -/
theorem Profile.weight_of_packet? {p : Profile} {src dest : NodeAddr} {s : Segment}
    {packet : Packet} (h : p.packet? src dest s = some packet) : packet.weight = s.weight :=
  Packet.weight_of_segment? (segment?_of_packet? h)

/-- A segment that fits no packet weighs nothing. -/
theorem weightOf_sends_le (ctx : Context) (dest : NodeAddr) (segments : List Segment) :
    weightOf (ctx.sends dest segments) ≤ (segments.map Segment.weight).sum := by
  unfold weightOf
  rw [packetsOf_sends]
  induction segments with
  | nil => exact Nat.le_refl _
  | cons s rest ih =>
    rw [List.map_cons, List.sum_cons]
    cases hmade : ctx.profile.packet? ctx.addr dest s with
    | none =>
      rw [List.filterMap_cons_none hmade]
      exact Nat.le_trans ih (Nat.le_add_left _ _)
    | some packet =>
      rw [List.filterMap_cons_some hmade, List.map_cons, List.sum_cons,
        Profile.weight_of_packet? hmade]
      exact Nat.add_le_add_left ih _

theorem weightOf_sends_one_le (ctx : Context) (dest : NodeAddr) (s : Segment) :
    weightOf (ctx.sends dest [s]) ≤ s.weight := by
  simpa using weightOf_sends_le ctx dest [s]

theorem sum_weight_of_data {segments : List Segment} (h : ∀ s ∈ segments, s.kind = .data) :
    (segments.map Segment.weight).sum = segments.length * 7 := by
  induction segments with
  | nil => rfl
  | cons s rest ih =>
    have hweight : s.weight = 7 := Segment.weight_of_data (h s List.mem_cons_self)
    rw [List.map_cons, List.sum_cons, hweight, ih fun s hs => h s (List.mem_cons_of_mem _ hs),
      List.length_cons]
    omega

/-- The weight of a flight is that of its segments. -/
theorem Connection.weightOf_flies_le (ctx : Context) (c : Connection) {flight : Flight}
    (h : ∀ s ∈ flight.segments, s.kind = .data) :
    weightOf (c.flies ctx flight) ≤ flight.segments.length * 7 := by
  unfold flies
  rw [weightOf_append, weightOf_arm, Nat.add_zero, ← sum_weight_of_data h]
  exact weightOf_sends_le ..

/-! ### The reserve of a sender -/

namespace Sender

variable {s s' freed sender : Sender} {ack window : UInt32} {outcome : AckOutcome}
  {srcPort dstPort : UInt16} {now : Duration} {flight : Flight} {bytes : Nat}

/-- The latest window ends within what is buffered. -/
def Underway (s : Sender) : Prop :=
  0 < steps s.buffer.baseSeq s.winEnd ∧ steps s.buffer.baseSeq s.winEnd ≤ s.buffered

instance (s : Sender) : Decidable s.Underway := inferInstanceAs (Decidable (_ ∧ _))

/-- How often a sender can still be made to send, at most. -/
def reserve (s : Sender) : Nat := 2 * s.buffered + if s.Underway then 0 else 1

theorem reserve_of_underway (h : s.Underway) : s.reserve = 2 * s.buffered := by
  unfold reserve
  rw [if_pos h, Nat.add_zero]

theorem reserve_of_rest (h : ¬ s.Underway) : s.reserve = 2 * s.buffered + 1 := by
  unfold reserve
  rw [if_neg h]

theorem reserve_le (s : Sender) : s.reserve ≤ 2 * s.buffered + 1 := by
  unfold reserve
  split <;> omega

theorem le_reserve (s : Sender) : 2 * s.buffered ≤ s.reserve := Nat.le_add_right ..

theorem one_le_reserve (s : Sender) : 1 ≤ s.reserve := by
  by_cases h : s.Underway
  · rw [reserve_of_underway h]
    have := Nat.lt_of_lt_of_le h.1 h.2
    omega
  · rw [reserve_of_rest h]
    exact Nat.le_add_left ..

theorem reserve_create (shape : BufferShape) (timers : Timers) (isn rwnd : UInt32) :
    (create shape timers isn rwnd).reserve = 1 := by
  have hbuffered : (create shape timers isn rwnd).buffered = 0 := by
    show StreamBuffer.used _ = 0
    rw [← StreamBuffer.contents_eq_nil_iff]
    exact StreamBuffer.contents_create ..
  have hle := (create shape timers isn rwnd).reserve_le
  have hone := (create shape timers isn rwnd).one_le_reserve
  omega

/-- What is given up takes no part any more. -/
theorem reserve_abandon_le (s : Sender) : s.abandon.reserve ≤ s.reserve := by
  have hbuffered : s.abandon.buffered = 0 := s.buffer.used_clear
  have hle := s.abandon.reserve_le
  have hone := s.one_le_reserve
  omega

/-- A byte that is freed is worth more than a window that is complete. -/
theorem reserve_of_freed (hbuffered : s'.buffered + bytes = s.buffered) (hpos : 0 < bytes) :
    s'.reserve + 1 ≤ s.reserve := by
  have hle := s'.reserve_le
  have hge := s.le_reserve
  omega

/-- An acknowledgment never adds to the reserve, whatever it acknowledges. -/
theorem Noted.reserve_le (h : s.Noted ack window outcome s') : s'.reserve ≤ s.reserve := by
  have hfreed := h.freed
  rcases Nat.eq_zero_or_pos outcome.freed with hzero | hpos
  -- It freed nothing, and so neither the buffer nor the window has moved.
  · have hbuffered := hfreed.buffered
    have hbase := hfreed.base
    rw [hzero, Nat.add_zero] at hbuffered
    rw [hzero, advance_zero] at hbase
    have hwindow : s'.winEnd = s.winEnd := by cases h <;> rfl
    have hsame : s'.Underway ↔ s.Underway := by
      unfold Underway
      rw [hbuffered, hbase, hwindow]
    unfold reserve
    simp only [hsame, hbuffered]
    exact Nat.le_refl _
  · exact Nat.le_of_succ_le (reserve_of_freed hfreed.buffered hpos)

/-- A window that starts at the front of the buffer is under way. -/
theorem underway_of_nextWindow? (hbase : s.buffer.baseSeq = s.sndUna)
    (hsize : s.buffered < 4_294_967_296)
    (h : s.nextWindow? srcPort dstPort now = some (flight, sender)) :
    sender.Underway ∧ sender.buffered = s.buffered ∧ flight.segments.length ≤ s.buffered := by
  obtain ⟨hsegments, hne⟩ := segments_of_nextWindow? h
  obtain ⟨-, last, probe, hlast, rfl⟩ := sender_of_nextWindow? h
  have hstart : s.sndUna = s.cutBuffer.baseSeq := hbase.symm
  rw [hstart] at hsegments
  rw [hsegments] at hne hlast
  have hle : s.cutBuffer.sendable 0 s.cutWindow ≤ s.buffered := s.sendable_le_buffered
  have hpos : s.cutBuffer.sendable 0 s.cutWindow ≠ 0 := fun hzero =>
    hne ((StreamBuffer.cut_eq_nil_iff ..).mpr hzero)
  refine ⟨?_, rfl, ?_⟩
  · unfold Underway
    rw [StreamBuffer.endSeq_of_getLast?_cut hlast]
    show 0 < steps s.cutBuffer.baseSeq _ ∧ steps s.cutBuffer.baseSeq _ ≤ s.buffered
    rw [steps_advance_of_lt _ (by omega)]
    omega
  · rw [hsegments]
    exact s.cutBuffer.length_cut_le ..

/-- An acknowledgment that is accepted is the new front of what is sent. -/
theorem Noted.accepted {complete : Bool}
    (h : s.Noted ack window (.advanced bytes complete) s') :
    s'.sndUna = ack ∧ s'.buffer = (s.buffer.release ack).2 ∧
      complete = atOrBefore s.winEnd ack := by
  cases h
  exact ⟨rfl, rfl, rfl⟩

/-- **An acknowledgment that makes a sender send takes something off its
    reserve.** Either it freed a byte, or it acknowledged the very front of the
    buffer while nothing was under way. -/
theorem Noted.reserve_of_launch (hcapacity : s.buffer.capacity ≤ 2_147_483_648)
    (h : s.Noted ack window (.advanced bytes true) freed)
    (hnext : freed.nextWindow? srcPort dstPort now = some (flight, sender)) :
    sender.reserve + 1 ≤ s.reserve ∧ flight.segments.length ≤ 2_147_483_648 := by
  have hused : s.buffered < 2_147_483_648 := Nat.lt_of_lt_of_le s.buffer.used_lt hcapacity
  obtain ⟨hfront, hbuffer, hcomplete⟩ := h.accepted
  obtain ⟨hsegments, hne⟩ := segments_of_nextWindow? hnext
  rw [hsegments, hfront] at hne
  have hcut : steps freed.cutBuffer.baseSeq ack ≤ freed.cutBuffer.used :=
    StreamBuffer.steps_le_of_cut hne
  have hplace : steps s.buffer.baseSeq ack ≤ s.buffered := by
    change steps freed.buffer.baseSeq ack ≤ freed.buffer.used at hcut
    rw [hbuffer] at hcut
    exact StreamBuffer.steps_le_of_release hcut
  have hbase : freed.buffer.baseSeq = freed.sndUna := by
    rw [hbuffer, hfront, StreamBuffer.baseSeq_release _ hplace]
  have hfreed := h.freed.buffered
  have hbytes : freed.buffered + bytes = s.buffered := hfreed
  obtain ⟨hunderway, hsame, hlength⟩ := underway_of_nextWindow? hbase (by omega) hnext
  refine ⟨?_, by omega⟩
  rw [reserve_of_underway hunderway, hsame]
  rcases Nat.eq_zero_or_pos bytes with hzero | hpos
  · have hrest : ¬ s.Underway := by
      have hadvance := h.freed.base
      have hack : ack = s.buffer.baseSeq := by
        rw [← hfront, ← hbase, hadvance]
        show advance s.buffer.baseSeq bytes = _
        rw [hzero, advance_zero]
      have hbehind := atOrBefore_iff.mp hcomplete.symm
      have hchain := steps_chain s.buffer.baseSeq s.winEnd s.buffer.baseSeq
      rw [steps_self] at hchain
      rw [hack] at hbehind
      unfold Underway
      omega
    rw [reserve_of_rest hrest]
    omega
  · have hge := s.le_reserve
    omega

end Sender

/-! ### The account of a connection -/

namespace Connection

variable {ctx : Context} {c c' : Connection} {effects : List Effect} {s : Segment}

/-- The plain acknowledgment. -/
theorem weight_ack (c : Connection) (r : Receiver) : (c.ack r).weight = 3 := rfl

/-- The acknowledgment that answers a request. -/
theorem weight_synAck (c : Connection) (r : Receiver) : (c.synAck r).weight = 7 := rfl

/-- **A segment pays for all that a connection does in answer.** Twice the
    packets that are sent, and what is left in reserve, come to less than the
    segment and the reserve before. -/
theorem Responds.pays (h : c.Responds ctx (.segment s) c' effects)
    (hcapacity : c.sender.buffer.capacity ≤ 2_147_483_648) :
    2 * weightOf effects + launchWeight * c'.sender.reserve + 1 ≤
      s.weight + launchWeight * c.sender.reserve := by
  have hone := s.one_le_weight
  -- The answer is at most a single segment, and nothing is taken off the reserve.
  have hreply : ∀ {reply : Segment}, 2 * reply.weight + 1 ≤ s.weight →
      2 * weightOf (ctx.sends c.identity.remoteAddr [reply]) +
        launchWeight * c.sender.reserve + 1 ≤ s.weight + launchWeight * c.sender.reserve := by
    intro reply hpaid
    have hsent := weightOf_sends_one_le ctx c.identity.remoteAddr reply
    omega
  have hsilent : ∀ {sender : Sender}, sender.reserve ≤ c.sender.reserve →
      2 * 0 + launchWeight * sender.reserve + 1 ≤ s.weight + launchWeight * c.sender.reserve := by
    intro sender hle
    have := Nat.mul_le_mul_left launchWeight hle
    omega
  have hlaunch : ∀ {sender : Sender}, sender.reserve + 1 ≤ c.sender.reserve →
      2 * weightOf effects ≤ launchWeight →
      2 * weightOf effects + launchWeight * sender.reserve + 1 ≤
        s.weight + launchWeight * c.sender.reserve := by
    intro sender hreserve hsent
    have hpaid := Nat.mul_le_mul_left launchWeight hreserve
    rw [Nat.mul_add, Nat.mul_one] at hpaid
    omega
  have hsame : c.sender.reserve ≤ c.sender.reserve := Nat.le_refl _
  cases h with
  | ignored => exact hsilent hsame
  | opened _ hkind _ hpayload =>
    have hfull : s.payload ≠ [] := hpayload ▸ List.cons_ne_nil _ _
    refine hreply (Nat.le_of_eq ?_)
    rw [weight_ack, Segment.weight_of_payload hkind hfull]
  | regranted _ hkind =>
    refine hreply ?_
    rw [weight_synAck, Segment.weight_of_syn hkind]
    omega
  | reconfirmed _ hkind hpayload =>
    refine hreply (Nat.le_of_eq ?_)
    rw [weight_ack, Segment.weight_of_payload hkind hpayload]
  | data _ hkind =>
    refine hreply (Nat.le_of_eq ?_)
    rw [weight_ack, Segment.weight_of_data hkind]
  | dropped => exact hsilent hsame
  | confirmed => exact hsilent hsame
  | acked _ _ _ hack => exact hsilent (Sender.noted_of_onAck hack).reserve_le
  | ackedSent _ _ _ hack hwindow =>
    obtain ⟨hreserve, hlength⟩ :=
      (Sender.noted_of_onAck hack).reserve_of_launch hcapacity hwindow
    have hsent := weightOf_flies_le ctx c (kind_of_window? hwindow)
    refine hlaunch hreserve ?_
    unfold launchWeight
    omega
  | ended => exact hsilent (c.sender.reserve_abandon_le)
  | refused => exact hsilent hsame

/-- A request pays for the connection that is spawned for it. -/
theorem pays_of_answer {identity : Identity} (hkind : s.kind = .syn)
    (h : answer ctx identity s = (c, effects)) :
    2 * weightOf effects + launchWeight * c.sender.reserve + 1 ≤ s.weight := by
  obtain ⟨stats, -, hanswer⟩ := answer_eq ctx identity s
  rw [hanswer] at h
  cases h
  have hsent := weightOf_sends_one_le ctx identity.remoteAddr
    ((answering ctx identity s).synAck (.create ctx.profile.shape s.seq))
  rw [weight_synAck] at hsent
  have hreserve : (answering ctx identity s).sender.reserve = 1 := Sender.reserve_create ..
  show 2 * weightOf _ + launchWeight * (answering ctx identity s).sender.reserve + 1 ≤ _
  rw [weightOf_append, weightOf_arm, hreserve, Segment.weight_of_syn hkind]
  omega

end Connection

end ReliableStream
