import ReliableStream.Proofs.Sender
/-! # Flights of a sender

    A sound sender that has bytes left can always **launch** a flight. The
    flight carries bytes of the buffer, from the oldest unacknowledged one on;
    it leaves the buffer and the acknowledged stretch as they are, and it puts
    something under way. -/

namespace ReliableStream.Sender

open Sequence

/-- The later of two numbers is as far ahead as the farther of the two, if
    both are less than half a turn ahead. -/
theorem steps_laterOf {a x y : UInt32} (hx : steps a x < 2_147_483_648)
    (hy : steps a y < 2_147_483_648) : steps a (laterOf x y) = max (steps a x) (steps a y) := by
  have hchain := steps_chain a x y
  have hlt := steps_lt x y
  unfold laterOf
  split
  · next h =>
    rw [before_iff] at h
    omega
  · next h =>
    rw [before_iff] at h
    omega

/-- Giving up everything queued makes a sender sound that has sent nothing
    beyond its buffer, wherever it takes the oldest unacknowledged byte to
    be. -/
theorem sound_abandon {s : Sender} (hsize : s.buffer.capacity ≤ 2_147_483_648)
    (hsent : steps s.buffer.baseSeq s.sndMax ≤ s.buffered) (hcongestion : s.congestion.Bounded) :
    s.abandon.Sound := by
  have hend : s.buffer.clear.endSeq = s.endSeq := s.buffer.endSeq_clear
  have hbuffered : s.buffered < 2_147_483_648 := Nat.lt_of_lt_of_le s.buffer.used_lt hsize
  have hsteps : steps s.buffer.baseSeq s.endSeq = s.buffered :=
    steps_advance_of_lt _ (Nat.lt_trans hbuffered (by decide))
  -- Nothing was sent beyond the buffer, so its end becomes the end of all.
  have hmax : laterOf s.sndMax s.endSeq = s.endSeq := by
    have hlater := steps_laterOf (a := s.buffer.baseSeq) (x := s.sndMax) (y := s.endSeq)
      (by omega) (by omega)
    rw [hsteps, Nat.max_eq_right hsent, ← hsteps] at hlater
    have hadvance := advance_steps s.buffer.baseSeq (laterOf s.sndMax s.endSeq)
    rw [hlater, advance_steps] at hadvance
    exact hadvance.symm
  refine ⟨?_, hsize, ?_, ?_, hcongestion⟩
  · show s.endSeq = s.buffer.clear.endSeq
    exact hend.symm
  · show steps s.buffer.clear.endSeq (laterOf s.sndMax s.buffer.clear.endSeq) ≤ _
    rw [hend, hmax, steps_self]
    exact Nat.zero_le _
  · show steps s.buffer.clear.endSeq (laterOf s.sndMax s.buffer.clear.endSeq) < _
    rw [hend, hmax, steps_self]
    decide

/-- Giving up everything queued leaves nothing to acknowledge. -/
theorem Sound.abandon {s : Sender} (h : s.Sound) :
    s.abandon.Sound ∧ s.abandon.isDrained = true ∧ s.abandon.sndUna = s.endSeq := by
  refine ⟨sound_abandon h.capacity_le ?_ h.congestion, ?_, s.buffer.endSeq_clear⟩
  · rw [h.base]
    exact h.sent_le
  · rw [isDrained_iff]
    exact s.buffer.used_clear

/-! ### Launching -/

/-- The stretch of the latest window, from the oldest unacknowledged byte on. -/
def span (s : Sender) : Nat := steps s.sndUna s.winEnd

/-- The stretch of everything sent and not acknowledged. -/
def extent (s : Sender) : Nat := steps s.sndUna s.sndMax

/-- Nothing was sent beyond the buffer. -/
theorem Sound.extent_le {s : Sender} (h : s.Sound) : s.extent ≤ s.buffered := h.sent_le

theorem Sound.extent_lt {s : Sender} (h : s.Sound) : s.extent < 2_147_483_648 :=
  Nat.lt_of_le_of_lt h.extent_le h.buffered_lt

/-- A sender that sent a flight, and what it has become. The flight fills the
    new window, which is no larger than the receiver allows, except that one
    byte is always allowed. -/
structure Launch (s : Sender) (flight : Flight) (s' : Sender) : Prop where
  sound : s'.Sound
  busy : s'.isIdle = false
  contents : s'.buffer.contents = s.buffer.contents
  sndUna : s'.sndUna = s.sndUna
  isn : s'.isn = s.isn
  generation : s'.generation = s.generation + 1
  flight_generation : flight.generation = s'.generation
  carries : ∀ segment ∈ flight.segments, ∃ place, s'.buffer.Carries segment place
  rwnd : s'.rwnd = s.rwnd
  mss : s'.buffer.mss = s.buffer.mss
  extent : s'.extent = max s.extent s'.span
  span_pos : 0 < s'.span
  span_le : s'.span ≤ max s.rwnd.toNat 1
  within : ∀ segment ∈ flight.segments,
    steps s.sndUna segment.seq + segment.payload.length ≤ s'.span ∧
      segment.payload.length ≤ s.buffer.mss
  front : ∃ first rest, flight.segments = first :: rest ∧ first.seq = s.sndUna ∧
    0 < first.payload.length
  /-- Only a flight that starts afresh is timed, by its first segment. -/
  probe : ∀ p, s'.probe = some p → s.isIdle = true ∧
    ∃ n, 0 < n ∧ n ≤ s'.span ∧ p.expectedAck = advance s.sndUna n

/-- The buffer as the next window is cut from it. -/
def cutBuffer (s : Sender) : StreamBuffer :=
  s.buffer.withCongestionWindow (UInt32.ofNat (max s.congestion.cwnd 1))

/-- The receiver's window as the next window is cut with it. -/
def cutWindow (s : Sender) : UInt32 := if s.rwnd = 0 then 1 else s.rwnd

/-- The segments of a flight are those the window is cut into. -/
theorem segments_of_nextWindow? {s s' : Sender} {srcPort dstPort : UInt16} {now : Duration}
    {flight : Flight} (e : s.nextWindow? srcPort dstPort now = some (flight, s')) :
    flight.segments = s.cutBuffer.cut srcPort dstPort s.sndUna s.cutWindow ∧
      flight.segments ≠ [] := by
  have hcut : s.buffer.withCongestionWindow (UInt32.ofNat (max s.congestion.cwnd 1)) =
      s.cutBuffer := rfl
  have hwindow : (if s.rwnd = 0 then 1 else s.rwnd) = s.cutWindow := rfl
  unfold nextWindow? at e
  simp only [hcut, hwindow] at e
  split at e
  · cases e
  · next first rest hsegments =>
    cases e
    exact ⟨hsegments.symm, List.cons_ne_nil first rest⟩

/-- Any sender that sends its next window, sound or not, waits for it as long as
    for so many segments, and has the end of the last one as the end of the
    window. -/
theorem sender_of_nextWindow? {s s' : Sender} {srcPort dstPort : UInt16} {now : Duration}
    {flight : Flight} (e : s.nextWindow? srcPort dstPort now = some (flight, s')) :
    flight.timeout = s.flightTimeout flight.segments.length ∧
      ∃ last probe, flight.segments.getLast? = some last ∧
        s' =
          { s with
            buffer := s.cutBuffer
            winEnd := last.endSeq
            sndMax := laterOf s.sndMax last.endSeq
            probe
            generation := s.generation + 1 } := by
  unfold nextWindow? at e
  simp only at e
  split at e
  · cases e
  · next first rest hsegments =>
    obtain ⟨last, hlast⟩ : ∃ last, (first :: rest).getLast? = some last :=
      ⟨_, List.getLast?_eq_some_getLast (List.cons_ne_nil first rest)⟩
    rw [hlast] at e
    cases e
    exact ⟨rfl, last, _, hlast, rfl⟩

/-- What a timeout sends is the next window; it is that of the latest flight,
    and something is under way. -/
theorem exists_of_onWindowTimeout? {s s' : Sender} {generation : Nat} {srcPort dstPort : UInt16}
    {now : Duration} {flight : Flight}
    (e : s.onWindowTimeout? generation srcPort dstPort now = some (flight, s')) :
    generation = s.generation ∧ s.isIdle = false ∧ ∃ cut s'',
      s.nextWindow? srcPort dstPort now = some (cut, s'') ∧ flight.segments = cut.segments ∧
        flight.generation = cut.generation ∧
        flight.timeout = s'.flightTimeout flight.segments.length ∧
        s' = { s'' with
          congestion := s''.congestion.onTimeout, roundTrip := s''.roundTrip.backOff } := by
  unfold onWindowTimeout? at e
  split at e
  · cases e
  · next hlive =>
    obtain ⟨hgeneration, hidle⟩ := not_or.mp hlive
    rw [Option.map_eq_some_iff] at e
    obtain ⟨⟨cut, s''⟩, hnext, heq⟩ := e
    cases heq
    exact ⟨Decidable.not_not.mp hgeneration, Bool.not_eq_true _ ▸ hidle, cut, s'', hnext, rfl, rfl,
      rfl, rfl⟩

/-- A sender that gave up bytes at the front of its buffer. -/
structure Freed (s : Sender) (bytes : Nat) (s' : Sender) : Prop where
  isn : s'.isn = s.isn
  buffered : s'.buffered + bytes = s.buffered
  base : s'.buffer.baseSeq = advance s.buffer.baseSeq bytes

/-- Sending gives up nothing. -/
theorem freed_of_nextWindow? {s s' : Sender} {srcPort dstPort : UInt16} {now : Duration}
    {flight : Flight} (e : s.nextWindow? srcPort dstPort now = some (flight, s')) :
    s.Freed 0 s' := by
  obtain ⟨-, last, probe, -, rfl⟩ := sender_of_nextWindow? e
  exact ⟨rfl, rfl, (advance_zero _).symm⟩

theorem freed_of_onWindowTimeout? {s s' : Sender} {generation : Nat} {srcPort dstPort : UInt16}
    {now : Duration} {flight : Flight}
    (e : s.onWindowTimeout? generation srcPort dstPort now = some (flight, s')) :
    s.Freed 0 s' := by
  obtain ⟨-, -, cut, s'', hnext, -, -, -, rfl⟩ := exists_of_onWindowTimeout? e
  have hfreed := freed_of_nextWindow? hnext
  exact ⟨hfreed.isn, hfreed.buffered, hfreed.base⟩

/-- An acknowledgment gives up what it says, whatever it acknowledges. -/
theorem Noted.freed {s s' : Sender} {ack window : UInt32} {o : AckOutcome}
    (h : s.Noted ack window o s') : s.Freed o.freed s' := by
  cases h with
  | duplicate => exact ⟨rfl, rfl, (advance_zero _).symm⟩
  | ignored => exact ⟨rfl, rfl, (advance_zero _).symm⟩
  | advanced =>
    obtain ⟨hused, hbase⟩ := s.buffer.release_frees ack
    exact ⟨rfl, hused, hbase⟩

/-- A sender with bytes left has something to send: both windows let at least
    one byte through. -/
theorem Sound.sendable_pos {s : Sender} (h : s.Sound) (hleft : s.isDrained = false) :
    0 < s.cutBuffer.sendable 0 s.cutWindow := by
  have hused : 0 < s.buffer.used := by
    rw [Nat.pos_iff_ne_zero]
    intro hzero
    rw [s.isDrained_iff.mpr hzero] at hleft
    cases hleft
  have hcwnd : 0 < (UInt32.ofNat (max s.congestion.cwnd 1)).toNat := by
    have hle : s.congestion.cwnd ≤ 4_294_967_295 := h.congestion.cwnd
    rw [UInt32.toNat_ofNat']
    omega
  have hrwnd : 0 < s.cutWindow.toNat := by
    unfold cutWindow
    split
    · decide
    · next hne =>
      rw [Nat.pos_iff_ne_zero]
      intro hzero
      exact hne (UInt32.toNat_inj.mp hzero)
  show 0 < min (min (s.buffer.used - 0) (UInt32.ofNat (max s.congestion.cwnd 1)).toNat)
    s.cutWindow.toNat
  omega

/-- What is sent next ends within the buffer. -/
theorem sendable_le_buffered (s : Sender) : s.cutBuffer.sendable 0 s.cutWindow ≤ s.buffered :=
  s.cutBuffer.sendable_le _

/-- What is sent next is no more than the receiver allows. -/
theorem sendable_le_rwnd (s : Sender) :
    s.cutBuffer.sendable 0 s.cutWindow ≤ max s.rwnd.toNat 1 := by
  have hwindow : s.cutWindow.toNat ≤ max s.rwnd.toNat 1 := by
    unfold cutWindow
    split
    · exact Nat.le_max_right _ _
    · exact Nat.le_max_left _ _
  exact Nat.le_trans (Nat.min_le_right _ _) hwindow

/-- A flight of `n` bytes extends what was sent to at least `n` bytes. -/
theorem Sound.steps_laterOf_sent {s : Sender} (h : s.Sound) {n : Nat} (hn : n ≤ s.buffered) :
    steps s.sndUna (laterOf s.sndMax (advance s.sndUna n)) = max s.extent n := by
  have hbuffered := h.buffered_lt
  have hn' : steps s.sndUna (advance s.sndUna n) = n := steps_advance_of_lt _ (by omega)
  rw [steps_laterOf h.extent_lt (by omega), hn']
  rfl

/-- The sequence state after a flight of `n` bytes. -/
theorem Sound.sent {s : Sender} (h : s.Sound) {n : Nat} (hpos : 0 < n) (hn : n ≤ s.buffered) :
    steps s.sndUna (laterOf s.sndMax (advance s.sndUna n)) ≤ s.buffered ∧
      steps (advance s.sndUna n) (laterOf s.sndMax (advance s.sndUna n)) < 2_147_483_648 ∧
      steps (advance s.sndUna n) (laterOf s.sndMax (advance s.sndUna n)) <
        steps s.sndUna (laterOf s.sndMax (advance s.sndUna n)) := by
  have hsent := h.extent_le
  have hbuffered := h.buffered_lt
  have hn' : steps s.sndUna (advance s.sndUna n) = n := steps_advance_of_lt _ (by omega)
  have hlater := h.steps_laterOf_sent hn
  have hchain := steps_chain s.sndUna (advance s.sndUna n) (laterOf s.sndMax (advance s.sndUna n))
  have hlt := steps_lt (advance s.sndUna n) (laterOf s.sndMax (advance s.sndUna n))
  omega

theorem Sound.launch_of_nextWindow? {s s' : Sender} {srcPort dstPort : UInt16} {now : Duration}
    {flight : Flight} (h : s.Sound) (e : s.nextWindow? srcPort dstPort now = some (flight, s')) :
    s.Launch flight s' := by
  have hcut : s.buffer.withCongestionWindow (UInt32.ofNat (max s.congestion.cwnd 1)) =
      s.cutBuffer := rfl
  have hwindow : (if s.rwnd = 0 then 1 else s.rwnd) = s.cutWindow := rfl
  have hbase : s.cutBuffer.baseSeq = s.sndUna := h.base
  unfold nextWindow? at e
  simp only [hcut, hwindow] at e
  cases hsegments : s.cutBuffer.cut srcPort dstPort s.sndUna s.cutWindow with
  | nil =>
    rw [hsegments] at e
    cases e
  | cons first rest =>
    rw [hsegments] at e
    rw [← hbase] at hsegments
    -- The window ends where its last segment ends, which is where the cut ends.
    obtain ⟨last, hlast⟩ : ∃ last, (first :: rest).getLast? = some last :=
      ⟨_, List.getLast?_eq_some_getLast (List.cons_ne_nil first rest)⟩
    have hend : last.endSeq = advance s.sndUna (s.cutBuffer.sendable 0 s.cutWindow) := by
      rw [← hsegments] at hlast
      rw [StreamBuffer.endSeq_of_getLast?_cut hlast, hbase]
    have hpos : 0 < s.cutBuffer.sendable 0 s.cutWindow := by
      rw [Nat.pos_iff_ne_zero, ne_eq, ← StreamBuffer.cut_eq_nil_iff _ srcPort dstPort, hsegments]
      exact List.cons_ne_nil first rest
    obtain ⟨hsent, hlt, hbusy⟩ := h.sent hpos s.sendable_le_buffered
    have hspan : steps s.sndUna (advance s.sndUna (s.cutBuffer.sendable 0 s.cutWindow)) =
        s.cutBuffer.sendable 0 s.cutWindow := by
      have hle := s.sendable_le_buffered
      have hbuffered := h.buffered_lt
      exact steps_advance_of_lt _ (by omega)
    have hsize : s.cutBuffer.used < 4_294_967_296 := Nat.lt_trans h.buffered_lt (by decide)
    have hwithin : ∀ segment ∈ first :: rest,
        steps s.sndUna segment.seq + segment.payload.length ≤
          s.cutBuffer.sendable 0 s.cutWindow ∧ segment.payload.length ≤ s.buffer.mss := by
      intro segment hmem
      rw [← hsegments] at hmem
      have hpiece := StreamBuffer.within_of_mem_cut hsize hmem
      rw [hbase] at hpiece
      exact hpiece
    obtain ⟨hfirst, hfilled⟩ := StreamBuffer.first_of_cut_eq_cons hsegments
    rw [hbase] at hfirst
    simp only [hlast, Option.getD_some, hend, Option.some.injEq, Prod.mk.injEq] at e
    obtain ⟨rfl, rfl⟩ := e
    have hsound : Sound { s with
        buffer := s.cutBuffer
        winEnd := advance s.sndUna (s.cutBuffer.sendable 0 s.cutWindow)
        sndMax := laterOf s.sndMax (advance s.sndUna (s.cutBuffer.sendable 0 s.cutWindow))
        probe := if before s.sndUna s.winEnd = true then none else some ⟨now, first.endSeq⟩
        generation := s.generation + 1 } :=
      ⟨hbase, h.capacity_le, hsent, hlt, h.congestion⟩
    exact
      { sound := hsound
        busy := by
          rw [← Bool.not_eq_true, hsound.isIdle_iff]
          exact Nat.not_le.mpr hbusy
        contents := rfl
        sndUna := rfl
        isn := rfl
        generation := rfl
        flight_generation := rfl
        carries := by
          intro segment hmem
          rw [← hsegments] at hmem
          exact StreamBuffer.carries_of_mem_cut hmem
        rwnd := rfl
        mss := rfl
        extent := by
          unfold span
          simp only [hspan]
          exact h.steps_laterOf_sent s.sendable_le_buffered
        span_pos := Nat.lt_of_lt_of_eq hpos hspan.symm
        span_le := Nat.le_trans (Nat.le_of_eq hspan) s.sendable_le_rwnd
        within := by
          unfold span
          simp only [hspan]
          exact hwithin
        front := ⟨first, rest, rfl, hfirst, hfilled⟩
        probe := by
          intro p hp
          split at hp
          · cases hp
          · next hidle =>
            cases hp
            refine ⟨by unfold isIdle; rw [Bool.not_eq_true] at hidle; rw [hidle]; rfl,
              first.payload.length, hfilled, ?_, ?_⟩
            · have hle := (hwithin first List.mem_cons_self).1
              unfold span
              simp only [hspan]
              exact Nat.le_trans (Nat.le_add_left _ _) hle
            · show advance first.seq first.payload.length = _
              rw [hfirst] }

/-- A sound sender with bytes left launches a flight. -/
theorem Sound.exists_nextWindow? {s : Sender} (h : s.Sound) (hleft : s.isDrained = false)
    (srcPort dstPort : UInt16) (now : Duration) :
    ∃ flight s', s.nextWindow? srcPort dstPort now = some (flight, s') := by
  have hpos := h.sendable_pos hleft
  have hbase : s.cutBuffer.baseSeq = s.sndUna := h.base
  unfold nextWindow?
  simp only
  split
  · next hsegments =>
    change s.cutBuffer.cut srcPort dstPort s.sndUna s.cutWindow = [] at hsegments
    rw [← hbase, StreamBuffer.cut_eq_nil_iff] at hsegments
    omega
  · exact ⟨_, _, rfl⟩

/-- A sender with something under way is not drained. -/
theorem Sound.not_drained_of_busy {s : Sender} (h : s.Sound) (hbusy : s.isIdle = false) :
    s.isDrained = false := by
  rw [← Bool.not_eq_true] at hbusy ⊢
  rw [h.isIdle_iff] at hbusy
  rw [isDrained_iff]
  have := h.sent_le
  omega

/-- What is launched stays launched if only the congestion window, the
    timeout and the time to wait change. -/
theorem Launch.backOff {s s' : Sender} {flight : Flight} (h : s.Launch flight s')
    (roundTrip : RoundTrip) (timeout : Duration) :
    s.Launch { flight with timeout }
      { s' with congestion := s'.congestion.onTimeout, roundTrip } where
  sound := ⟨h.sound.base, h.sound.capacity_le, h.sound.sent_le, h.sound.window_lt,
    Congestion.bounded_onTimeout h.sound.congestion⟩
  busy := h.busy
  contents := h.contents
  sndUna := h.sndUna
  isn := h.isn
  generation := h.generation
  flight_generation := h.flight_generation
  carries := h.carries
  rwnd := h.rwnd
  mss := h.mss
  extent := h.extent
  span_pos := h.span_pos
  span_le := h.span_le
  within := h.within
  front := h.front
  probe := h.probe

theorem Launch.extent_le {s s' : Sender} {flight : Flight} (h : s.Launch flight s') :
    s.extent ≤ s'.extent := by
  rw [h.extent]
  exact Nat.le_max_left _ _

/-- What a sender may have on the wire: no more than it ever sent, and no more
    than its receiver allows. -/
structure Covers (s : Sender) (segment : Segment) : Prop where
  sent : steps s.sndUna segment.seq + segment.payload.length ≤ s.extent
  allowed : steps s.sndUna segment.seq + segment.payload.length ≤ max s.rwnd.toNat 1

theorem Launch.covers {s s' : Sender} {flight : Flight} {segment : Segment}
    (h : s.Launch flight s') (hmem : segment ∈ flight.segments) : s'.Covers segment := by
  have hwithin := (h.within segment hmem).1
  have hspan := h.span_le
  have hextent := h.extent
  constructor
  · rw [h.sndUna]
    omega
  · rw [h.sndUna, h.rwnd]
    omega

theorem Sound.launch_of_onWindowTimeout? {s s' : Sender} {generation : Nat}
    {srcPort dstPort : UInt16} {now : Duration} {flight : Flight} (h : s.Sound)
    (e : s.onWindowTimeout? generation srcPort dstPort now = some (flight, s')) :
    s.Launch flight s' := by
  obtain ⟨-, -, cut, s'', hnext, hsegments, hgeneration, -, rfl⟩ := exists_of_onWindowTimeout? e
  have hlaunch := (h.launch_of_nextWindow? hnext).backOff s''.roundTrip.backOff flight.timeout
  obtain ⟨segments, timeout, generation, retransmit⟩ := flight
  obtain rfl : segments = cut.segments := hsegments
  obtain rfl : generation = cut.generation := hgeneration
  exact { hlaunch with }

/-- Only a sender with bytes left launches a flight. -/
theorem Launch.not_drained {s s' : Sender} {flight : Flight} (h : s.Launch flight s') :
    s.isDrained = false := by
  have hleft := h.sound.not_drained_of_busy h.busy
  have hsame : s'.buffered = s.buffered := by
    show s'.buffer.used = s.buffer.used
    rw [← StreamBuffer.length_contents, h.contents, StreamBuffer.length_contents]
  rw [← Bool.not_eq_true] at hleft ⊢
  rw [isDrained_iff] at hleft ⊢
  rw [← hsame]
  exact hleft

/-- A timeout launches a flight exactly if it is that of the latest flight and
    something is under way. -/
theorem Sound.onWindowTimeout?_eq_none_iff {s : Sender} (h : s.Sound) (generation : Nat)
    (srcPort dstPort : UInt16) (now : Duration) :
    s.onWindowTimeout? generation srcPort dstPort now = none ↔
      generation ≠ s.generation ∨ s.isIdle = true := by
  unfold onWindowTimeout?
  split
  · next hstale => exact ⟨fun _ => hstale, fun _ => rfl⟩
  · next hlive =>
    have hbusy : s.isIdle = false := by
      rw [← Bool.not_eq_true]
      exact fun hidle => hlive (Or.inr hidle)
    obtain ⟨flight, s', hnext⟩ :=
      h.exists_nextWindow? (h.not_drained_of_busy hbusy) srcPort dstPort now
    rw [hnext]
    constructor
    · intro hnone
      cases hnone
    · intro hstale
      exact absurd hstale hlive

end ReliableStream.Sender
