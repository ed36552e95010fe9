import ReliableStream.Proofs.Acceptance
import ReliableStream.Proofs.Slices
/-! # Charts of a sender

    A **chart** tells where a sender stands in its stream, in bytes from the
    beginning that are never counted modulo anything. It is drawn from outside:
    from what the sender was asked to do and what it answered, and from nothing
    else. The numbers that the sender itself goes by are those of the places on
    the chart, and its comparisons decide what the chart says.

    A chart fits any run of a sender, also one on which the sender goes astray.
    Only then do the oldest byte of the buffer and the oldest one that the
    sender takes to be unacknowledged fall apart. -/

namespace ReliableStream

open Sequence

/-! ### Charts -/

/-- How many bytes a flight carries. -/
def Flight.length (f : Flight) : Nat := (Segment.payloads f.segments).length

/-- A flight on its way: where in the stream it starts, and when. -/
structure Sailing where
  place : Nat
  time : Duration
  flight : Flight

/-- The end of what a flight carries. -/
def Sailing.stop (s : Sailing) : Nat := s.place + s.flight.length

/-- Where a sender stands in its stream. -/
structure Chart where
  /-- The end of what is acknowledged or given up. -/
  acked : Nat := 0
  /-- The end of the latest window. -/
  windowEnd : Nat := 0
  /-- The end of everything that was ever sent or given up. -/
  sent : Nat := 0
  /-- The end of what is written. -/
  written : Nat := 0
  /-- Every flight so far, the latest one last. -/
  sailings : List Sailing := []

namespace Chart

/-- A flight starts at the oldest byte that is not acknowledged. -/
def launch (c : Chart) (time : Duration) (flight : Flight) : Chart :=
  { c with
    windowEnd := c.acked + flight.length
    sent := max c.sent (c.acked + flight.length)
    sailings := c.sailings ++ [⟨c.acked, time, flight⟩] }

/-- The chart after an operation that was answered. -/
def after (c : Chart) : SenderOperation → SenderReply → Chart
  | .write _, .count n => { c with written := c.written + n }
  | .nextWindow _ _ now, .flight (some flight) => c.launch now flight
  | .windowTimeout _ _ _ now, .flight (some flight) => c.launch now flight
  | .ack .., .outcome outcome => { c with acked := c.acked + outcome.freed }
  | .abandon, _ => { c with acked := c.written, windowEnd := c.written, sent := c.written }
  | _, _ => c

end Chart

namespace Sender

/-- Does a row of operations, and keeps the chart. -/
def survey (s : Sender) (c : Chart) (operations : List SenderOperation) :
    Except Fault (Sender × Chart) :=
  (s.course operations).recorded (fun c step => c.after step.input step.answer.1) c

variable {s s' : Sender} {c c' : Chart} {op : SenderOperation} {reply : SenderReply}
  {operations : List SenderOperation} {isn : UInt32}

/-- Whatever every operation keeps is kept by a run. -/
theorem of_survey {P : Sender → Chart → Prop}
    (hstep : ∀ {s s' : Sender} {c : Chart} {op : SenderOperation} {reply : SenderReply}, P s c →
      s.Performs op reply s' → P s' (c.after op reply))
    (hs : P s c) (h : s.survey c operations = .ok (s', c')) : P s' c' :=
  Transducer.recorded_induction (P := fun c s => P s c) hs
    (fun hm hperform => hstep hm (performs_of_perform hperform)) h

/-- A sender that keeps a chart does what it would do without. -/
theorem play_of_survey (h : s.survey c operations = .ok (s', c')) :
    (s.play operations).2 = .ok s' := (Course.of_recorded h).1

end Sender

/-! ### Numbers and places -/

namespace Sequence

/-- The later of the numbers of two near positions is that of the later
    position. -/
theorem Near.laterOf (isn : UInt32) {p q : Nat} (h : Near p q) :
    Sender.laterOf (numberAt isn p) (numberAt isn q) = numberAt isn (max p q) := by
  unfold Sender.laterOf
  split
  · next hbefore =>
    rw [h.before_iff] at hbefore
    rw [Nat.max_eq_right (Nat.le_of_lt hbefore)]
  · next hbefore =>
    rw [h.before_iff] at hbefore
    rw [Nat.max_eq_left (Nat.le_of_not_lt hbefore)]

end Sequence

/-- A row of segments ends as many bytes after its start as it carries. -/
theorem Segment.Consecutive.endSeq_last {start : UInt32} {segments : List Segment} {last : Segment}
    (h : Consecutive start segments) (hlast : segments.getLast? = some last) :
    last.endSeq = advance start (payloads segments).length := by
  induction segments generalizing start with
  | nil => cases hlast
  | cons first rest ih =>
    obtain ⟨hseq, hrest⟩ := h
    cases rest with
    | nil =>
      cases hlast
      show advance first.seq first.payload.length = _
      rw [hseq]
      simp [payloads]
    | cons second rest =>
      rw [List.getLast?_cons_cons] at hlast
      rw [ih hrest hlast, ← advance_add]
      simp [payloads]

namespace Sender

variable {s s' : Sender} {c c' : Chart} {op : SenderOperation} {reply : SenderReply}
  {operations : List SenderOperation} {isn rwnd : UInt32} {flight : Flight}

/-- A sender that sent a flight, as far as places are concerned. -/
structure Sails (s : Sender) (flight : Flight) (s' : Sender) : Prop where
  base : s'.buffer.baseSeq = s.buffer.baseSeq
  winEnd : s'.winEnd = advance s.sndUna flight.length
  sndMax : s'.sndMax = laterOf s.sndMax (advance s.sndUna flight.length)
  buffered : s'.buffered = s.buffered
  length_pos : 0 < flight.length
  length_le : flight.length ≤ s.buffered
  generation : flight.generation = s.generation + 1 ∧ s'.generation = s.generation + 1

theorem Sound.sails_of_nextWindow? {srcPort dstPort : UInt16} {now : Duration} (h : s.Sound)
    (e : s.nextWindow? srcPort dstPort now = some (flight, s')) : s.Sails flight s' := by
  have hslices := h.slices_of_nextWindow? e
  have hlaunch := h.launch_of_nextWindow? e
  obtain ⟨-, last, probe, hlast, rfl⟩ := sender_of_nextWindow? e
  have hend : last.endSeq = advance s.sndUna flight.length :=
    hslices.consecutive.endSeq_last hlast
  have hlength : flight.length = s.allowance := hslices.length_payloads
  refine ⟨rfl, hend, by rw [← hend], rfl, ?_, ?_, hlaunch.flight_generation, rfl⟩
  · have hleft := hlaunch.not_drained
    rw [← Bool.not_eq_true, isDrained_iff] at hleft
    rw [hlength]
    unfold allowance
    omega
  · rw [hlength]
    exact Nat.min_le_left _ _

theorem Sound.sails_of_onWindowTimeout? {generation : Nat} {srcPort dstPort : UInt16}
    {now : Duration} (h : s.Sound)
    (e : s.onWindowTimeout? generation srcPort dstPort now = some (flight, s')) :
    s.Sails flight s' := by
  obtain ⟨-, -, cut, s'', hnext, hsegments, hgeneration, -, rfl⟩ := exists_of_onWindowTimeout? e
  have hsails := h.sails_of_nextWindow? hnext
  have hlength : flight.length = cut.length := congrArg (List.length ∘ Segment.payloads) hsegments
  constructor
  · exact hsails.base
  · rw [hlength]
    exact hsails.winEnd
  · rw [hlength]
    exact hsails.sndMax
  · exact hsails.buffered
  · rw [hlength]
    exact hsails.length_pos
  · rw [hlength]
    exact hsails.length_le
  · rw [hgeneration]
    exact hsails.generation

/-! ### A sender on its chart -/

/-- The sender goes by the numbers of the places on the chart. -/
structure Charted (isn : UInt32) (c : Chart) (s : Sender) : Prop where
  tracked : s.Tracked
  base : s.buffer.baseSeq = numberAt isn c.acked
  winEnd : s.winEnd = numberAt isn c.windowEnd
  sndMax : s.sndMax = numberAt isn c.sent
  buffered : c.acked + s.buffered = c.written
  acked_le : c.acked ≤ c.sent
  sent_le : c.sent ≤ c.written
  window_le : c.windowEnd ≤ c.sent
  window_near : c.sent < c.windowEnd + 2_147_483_648
  /-- A sender goes astray only after everything sent is acknowledged, and
      then acknowledgments release nothing. -/
  astray : s.Astray → c.acked = c.sent
  generation : s.generation = c.sailings.length
  generations : c.sailings.map (·.flight.generation) = List.range' 1 c.sailings.length

theorem Tracked.buffered_lt (h : s.Tracked) : s.buffered < 2_147_483_648 := by
  rcases h with hsound | hastray
  · exact hsound.buffered_lt
  · exact Nat.lt_of_lt_of_le s.buffer.used_lt hastray.capacity_le

namespace Charted

theorem create {shape : BufferShape} (hsize : shape.capacity ≤ 2_147_483_648) (timers : Timers)
    (isn rwnd : UInt32) : (Sender.create shape timers isn rwnd).Charted isn {} where
  tracked := .inl (sound_create hsize timers isn rwnd)
  base := rfl
  winEnd := rfl
  sndMax := rfl
  buffered := rfl
  acked_le := Nat.le_refl 0
  sent_le := Nat.le_refl 0
  window_le := Nat.le_refl 0
  window_near := by decide
  astray := fun _ => rfl
  generation := rfl
  generations := rfl

theorem sndUna (h : s.Charted isn c) (hsound : s.Sound) : s.sndUna = numberAt isn c.acked := by
  rw [← h.base, hsound.base]

theorem endSeq (h : s.Charted isn c) : s.endSeq = numberAt isn c.written := by
  show advance s.buffer.baseSeq s.buffered = _
  rw [h.base, advance_numberAt, h.buffered]

theorem near (h : s.Charted isn c) : c.written < c.acked + 2_147_483_648 := by
  have := h.buffered
  have := h.tracked.buffered_lt
  omega

/-- What is sent and not acknowledged, on the chart. -/
theorem extent (h : s.Charted isn c) (hsound : s.Sound) : c.acked + s.extent = c.sent := by
  have hnear := h.near
  have hacked := h.acked_le
  have hsent := h.sent_le
  unfold Sender.extent
  rw [h.sndUna hsound, h.sndMax, Near.steps_of_le isn ⟨by omega, by omega⟩ hacked]
  omega

theorem before_winEnd_iff (h : s.Charted isn c) (hsound : s.Sound) :
    before s.sndUna s.winEnd = true ↔ c.acked < c.windowEnd := by
  have hnear := h.near
  have hacked := h.acked_le
  have hsent := h.sent_le
  have hwindow := h.window_le
  have hwindowNear := h.window_near
  rw [h.sndUna hsound, h.winEnd]
  exact Near.before_iff isn ⟨by omega, by omega⟩

/-- Nothing is under way if the latest window is acknowledged to its end. -/
theorem isIdle_iff (h : s.Charted isn c) (hsound : s.Sound) :
    s.isIdle = true ↔ c.windowEnd ≤ c.acked := by
  unfold isIdle
  rw [Bool.not_eq_true', ← Bool.not_eq_true, h.before_winEnd_iff hsound, Nat.not_lt]

theorem isDrained_iff (h : s.Charted isn c) : s.isDrained = true ↔ c.acked = c.written := by
  have := h.buffered
  rw [Sender.isDrained_iff]
  omega

/-! ### What operations do to the chart -/

theorem write (h : s.Charted isn c) (bytes : List UInt8) :
    (s.write bytes).2.Charted isn { c with written := c.written + (s.write bytes).1 } where
  tracked := h.tracked.write bytes
  base := h.base
  winEnd := h.winEnd
  sndMax := h.sndMax
  buffered := by
    show c.acked + (s.buffer.write bytes).2.used = c.written + (s.buffer.write bytes).1
    rw [StreamBuffer.used_write, ← Nat.add_assoc]
    exact congrArg (· + _) h.buffered
  acked_le := h.acked_le
  sent_le := Nat.le_add_right_of_le h.sent_le
  window_le := h.window_le
  window_near := h.window_near
  -- Writing changes nothing by which a sender goes astray.
  astray := fun hastray => by
    rcases h.tracked with hsound | hastray'
    · exact absurd (hsound.write bytes).base hastray.not_inStep
    · exact h.astray hastray'
  generation := h.generation
  generations := h.generations

theorem withReceiverWindow (h : s.Charted isn c) (rwnd : UInt32) :
    (s.withReceiverWindow rwnd).Charted isn c where
  tracked := h.tracked.withReceiverWindow rwnd
  base := h.base
  winEnd := h.winEnd
  sndMax := h.sndMax
  buffered := h.buffered
  acked_le := h.acked_le
  sent_le := h.sent_le
  window_le := h.window_le
  window_near := h.window_near
  astray := fun hastray => h.astray
    ⟨hastray.base, hastray.capacity_le, hastray.extent_pos, hastray.extent_le, hastray.window_lt,
      hastray.congestion⟩
  generation := h.generation
  generations := h.generations

/-- A flight goes onto the chart where the sender sends it from. -/
theorem launch (h : s.Charted isn c) (hsound : s.Sound) (hsound' : s'.Sound)
    (hsails : s.Sails flight s') (now : Duration) : s'.Charted isn (c.launch now flight) := by
  have hnear := h.near
  have hbuffered := h.buffered
  have hsent := h.sent_le
  have hacked := h.acked_le
  have hlength := hsails.length_le
  have hend : advance s.sndUna flight.length = numberAt isn (c.acked + flight.length) := by
    rw [h.sndUna hsound, advance_numberAt]
  constructor
  · exact .inl hsound'
  · rw [hsails.base]
    exact h.base
  · rw [hsails.winEnd]
    exact hend
  · rw [hsails.sndMax, hend, h.sndMax]
    exact Near.laterOf isn ⟨by omega, by omega⟩
  · rw [hsails.buffered]
    exact hbuffered
  · exact Nat.le_trans hacked (Nat.le_max_left _ _)
  · show max c.sent (c.acked + flight.length) ≤ c.written
    omega
  · exact Nat.le_max_right _ _
  · show max c.sent (c.acked + flight.length) < c.acked + flight.length + 2_147_483_648
    omega
  · intro hastray
    exact absurd hsound'.base hastray.not_inStep
  · rw [hsails.generation.2, h.generation]
    simp [Chart.launch]
  · simp only [Chart.launch, List.map_append, List.map_cons, List.map_nil, List.length_append,
      List.length_singleton]
    rw [h.generations, hsails.generation.1, h.generation, List.range'_concat, Nat.one_mul,
      Nat.add_comm 1]

end Charted

/-- An astray sender finds none of the bytes acknowledged in its buffer. -/
theorem Astray.fst_release (h : s.Astray) {ack : UInt32}
    (hpasses : before ack s.sndUna = false ∧ before s.sndMax ack = false) :
    (s.buffer.release ack).1 = 0 := by
  have hpos := h.extent_pos
  have hused : s.buffer.used < 2_147_483_648 := Nat.lt_of_lt_of_le s.buffer.used_lt h.capacity_le
  have hchain := steps_chain s.sndUna ack s.sndMax
  have hround := steps_chain s.sndMax ack s.sndMax
  have hself := steps_self s.sndMax
  have hlt := steps_lt ack s.sndMax
  have hlt' := steps_lt s.sndMax ack
  have hwithin : steps s.sndUna ack ≤ s.extent := by
    rcases (passes_iff h.extent_le ack).mp hpasses with hout | ⟨hidle, -⟩
    · exact hout
    · unfold extent at hpos
      rw [hidle, steps_self] at hpos
      omega
  have hle := h.extent_le
  unfold extent at hwithin hpos hle
  by_cases hplace : steps s.buffer.baseSeq ack ≤ s.buffer.used
  · rw [s.buffer.release_eq hplace]
    rw [h.base] at hplace ⊢
    omega
  · rw [s.buffer.release_of_lt (Nat.lt_of_not_le hplace)]

/-- An acknowledgment frees no more than was sent, and leads astray only where
    it frees the rest of it. -/
theorem Charted.freed_le {ack window : UInt32} {outcome : AckOutcome} (h : s.Charted isn c)
    (hnoted : s.Noted ack window outcome s') :
    c.acked + outcome.freed ≤ c.sent ∧ (s'.Astray → c.acked + outcome.freed = c.sent) := by
  rcases h.tracked with hsound | hastray
  · by_cases hopposed : s.Opposed ack
    · have hall : c.acked = c.sent := by
        have hextent := h.extent hsound
        unfold Sender.extent at hextent
        rw [← hopposed.1, steps_self] at hextent
        exact hextent
      have hfreed : outcome.freed = 0 := by
        cases hnoted with
        | duplicate _ => rfl
        | ignored _ _ => rfl
        | advanced _ _ _ _ _ _ =>
          have hbuffered := hsound.buffered_lt
          have hhalf := hopposed.2
          have hlt : s.buffer.used < steps s.buffer.baseSeq ack := by
            rw [hsound.base, hhalf]
            exact hbuffered
          show (s.buffer.release ack).1 = 0
          rw [s.buffer.release_of_lt hlt]
      rw [hfreed, hall]
      exact ⟨Nat.le_refl _, fun _ => rfl⟩
    · have hsound' := hsound.noted hnoted hopposed
      refine ⟨?_, fun hastray => absurd hsound'.base hastray.not_inStep⟩
      have hextent := h.extent hsound
      have hfreed : outcome.freed ≤ s.extent := by
        cases hnoted with
        | duplicate _ => exact Nat.zero_le _
        | ignored _ _ => exact Nat.zero_le _
        | advanced _ _ hahead hwithin _ _ =>
          have hpasses := passes_iff (Nat.le_of_lt hsound.extent_lt) ack
          have hle : steps s.sndUna ack ≤ s.extent := by
            rcases hpasses.mp ⟨hahead, hwithin⟩ with hout | hopposed'
            · exact hout
            · exact absurd hopposed' hopposed
          have hplace : steps s.buffer.baseSeq ack ≤ s.buffer.used := by
            rw [hsound.base]
            exact Nat.le_trans hle hsound.extent_le
          show (s.buffer.release ack).1 ≤ s.extent
          rw [s.buffer.release_eq hplace, hsound.base]
          exact hle
      omega
  · have hall := h.astray hastray
    have hfreed : outcome.freed = 0 := by
      cases hnoted with
      | duplicate _ => rfl
      | ignored _ _ => rfl
      | advanced _ _ hahead hwithin _ _ => exact hastray.fst_release ⟨hahead, hwithin⟩
    rw [hfreed, hall]
    exact ⟨Nat.le_refl _, fun _ => rfl⟩

/-- An acknowledgment moves the place of the oldest byte by what it frees. -/
theorem Charted.acked {ack window : UInt32} {now : Duration} {outcome : AckOutcome}
    (h : s.Charted isn c) (e : s.onAck ack window now = .ok (outcome, s')) :
    s'.Charted isn { c with acked := c.acked + outcome.freed } := by
  have hnoted := noted_of_onAck e
  have hfreed := hnoted.freed
  obtain ⟨hle, hastray⟩ := h.freed_le hnoted
  have hkept : s'.winEnd = s.winEnd ∧ s'.sndMax = s.sndMax ∧ s'.generation = s.generation := by
    cases hnoted <;> exact ⟨rfl, rfl, rfl⟩
  constructor
  · exact h.tracked.performs (.acked e)
  · rw [hfreed.base, h.base, advance_numberAt]
  · rw [hkept.1]
    exact h.winEnd
  · rw [hkept.2.1]
    exact h.sndMax
  · have hbuffered := h.buffered
    have := hfreed.buffered
    show c.acked + outcome.freed + s'.buffered = c.written
    omega
  · exact hle
  · exact h.sent_le
  · exact h.window_le
  · exact h.window_near
  · exact hastray
  · rw [hkept.2.2]
    exact h.generation
  · exact h.generations

/-- Giving up moves everything to the end of what is written. -/
theorem Charted.abandon (h : s.Charted isn c) : s.abandon.Charted isn
    { c with acked := c.written, windowEnd := c.written, sent := c.written } := by
  have hsound := h.tracked.abandon
  have hend : s.buffer.clear.endSeq = numberAt isn c.written := by
    rw [StreamBuffer.endSeq_clear]
    exact h.endSeq
  constructor
  · exact .inl hsound
  · show s.endSeq = _
    exact h.endSeq
  · exact hend
  · have hnear := h.near
    have hacked := h.acked_le
    have hsent := h.sent_le
    show laterOf s.sndMax s.buffer.clear.endSeq = numberAt isn c.written
    rw [hend, h.sndMax, Near.laterOf isn ⟨by omega, by omega⟩, Nat.max_eq_right hsent]
  · show c.written + s.buffer.clear.used = c.written
    rw [StreamBuffer.used_clear]
    exact Nat.add_zero _
  · exact Nat.le_refl _
  · exact Nat.le_refl _
  · exact Nat.le_refl _
  · show c.written < c.written + _
    omega
  · exact fun _ => rfl
  · exact h.generation
  · exact h.generations

/-- Only a sound sender sends. -/
theorem Tracked.sound_of_performs (h : s.Tracked)
    (hperforms : s.Performs op (.flight (some flight)) s') : s.Sound := by
  rcases h with hsound | hastray
  · exact hsound
  · cases hperforms with
    | launched hsent =>
      rw [hastray.nextWindow?_eq_none] at hsent
      cases hsent
    | relaunched hsent =>
      rw [hastray.onWindowTimeout?_eq_none] at hsent
      cases hsent

/-- Every flight is sent from where the chart says. -/
theorem Sound.sails_of_performs (h : s.Sound)
    (hperforms : s.Performs op (.flight (some flight)) s') : s.Sails flight s' := by
  cases hperforms with
  | launched hsent => exact h.sails_of_nextWindow? hsent
  | relaunched hsent => exact h.sails_of_onWindowTimeout? hsent

theorem Sound.launch_of_performs (h : s.Sound)
    (hperforms : s.Performs op (.flight (some flight)) s') : s.Launch flight s' := by
  cases hperforms with
  | launched hsent => exact h.launch_of_nextWindow? hsent
  | relaunched hsent => exact h.launch_of_onWindowTimeout? hsent

theorem Sound.slices_of_performs (h : s.Sound)
    (hperforms : s.Performs op (.flight (some flight)) s') : s.Slices flight.segments := by
  cases hperforms with
  | launched hsent => exact h.slices_of_nextWindow? hsent
  | relaunched hsent => exact h.slices_of_onWindowTimeout? hsent

/-- Whatever a sender is asked to do, it stays on its chart. -/
theorem Charted.performs (h : s.Charted isn c) (hperforms : s.Performs op reply s') :
    s'.Charted isn (c.after op reply) := by
  have hsends : ∀ {flight : Flight} (now : Duration), reply = .flight (some flight) →
      s'.Charted isn (c.launch now flight) := by
    intro flight now hreply
    subst hreply
    have hsound := h.tracked.sound_of_performs hperforms
    exact h.launch hsound (hsound.launch_of_performs hperforms).sound
      (hsound.sails_of_performs hperforms) now
  cases hperforms with
  | write => exact h.write _
  | launched _ => exact hsends _ rfl
  | nothing _ => exact h
  | acked hack => exact h.acked hack
  | relaunched _ => exact hsends _ rfl
  | moot _ => exact h
  | receiverWindow => exact h.withReceiverWindow _
  | abandoned => exact h.abandon

theorem charted_of_survey {shape : BufferShape} (hsize : shape.capacity ≤ 2_147_483_648)
    {timers : Timers} {isn rwnd : UInt32}
    (h : (Sender.create shape timers isn rwnd).survey {} operations = .ok (s, c)) :
    s.Charted isn c :=
  of_survey (P := fun s c => s.Charted isn c) Charted.performs
    (Charted.create hsize timers isn rwnd) h

/-! ### The sequence state -/

/-- What the numbers of a sender and its answers say on its chart. -/
structure Sequenced (isn : UInt32) (c : Chart) (s : Sender) : Prop where
  inStep : s.buffer.baseSeq = s.sndUna
  sndUna : s.sndUna = numberAt isn c.acked
  winEnd : s.winEnd = numberAt isn c.windowEnd
  sndMax : s.sndMax = numberAt isn c.sent
  endSeq : s.endSeq = numberAt isn c.written
  acked_le_sent : c.acked ≤ c.sent
  sent_le_written : c.sent ≤ c.written
  window_le_sent : c.windowEnd ≤ c.sent
  /-- All places are close enough to be told apart by their numbers. -/
  near : Near c.acked c.written ∧ Near c.windowEnd c.sent
  idle_iff : s.isIdle = true ↔ c.windowEnd ≤ c.acked
  drained_iff : s.isDrained = true ↔ c.acked = c.written
  /-- A timeout sends a flight if it is that of the latest flight and something
      is under way. -/
  timeout_iff : ∀ generation srcPort dstPort now,
    (∃ flight s', s.onWindowTimeout? generation srcPort dstPort now = some (flight, s')) ↔
      generation = s.generation ∧ s.isIdle = false

/-- What an operation does to a sender on its chart. -/
structure Advances (isn : UInt32) (c : Chart) (s : Sender) (op : SenderOperation)
    (reply : SenderReply) (s' : Sender) : Prop where
  sequenced : s'.Sequenced isn (c.after op reply)
  acked_le : c.acked ≤ (c.after op reply).acked
  sent_le : c.sent ≤ (c.after op reply).sent
  /-- An acknowledgment that is accepted is of something sent. It tells how far
      it is ahead, and whether nothing is under way after it. -/
  advanced : ∀ ack window now bytes complete, op = .ack ack window now →
    reply = .outcome (.advanced bytes complete) →
      ack = numberAt isn (c.acked + bytes) ∧ c.acked + bytes ≤ c.sent ∧ complete = s'.isIdle
  /-- Generations grow from flight to flight. -/
  generation : ∀ flight, reply = .flight (some flight) →
    flight.generation = s'.generation ∧
      ∀ sailing ∈ c.sailings, sailing.flight.generation < flight.generation
  /-- A timeout that sends nothing changes nothing. -/
  timeout : ∀ generation srcPort dstPort now, op = .windowTimeout generation srcPort dstPort now →
    (∃ flight, reply = .flight (some flight)) ∨ reply = .flight none ∧ s' = s
  abandon : op = .abandon → s'.isDrained = true ∧ s'.isIdle = true

theorem Charted.sequenced (h : s.Charted isn c) (hsound : s.Sound) : s.Sequenced isn c where
  inStep := hsound.base
  sndUna := h.sndUna hsound
  winEnd := h.winEnd
  sndMax := h.sndMax
  endSeq := h.endSeq
  acked_le_sent := h.acked_le
  sent_le_written := h.sent_le
  window_le_sent := h.window_le
  near := by
    have hnear := h.near
    have hacked := h.acked_le
    have hsent := h.sent_le
    have hwindow := h.window_le
    have hwindowNear := h.window_near
    exact ⟨⟨by omega, by omega⟩, by omega, by omega⟩
  idle_iff := h.isIdle_iff hsound
  drained_iff := h.isDrained_iff
  timeout_iff := by
    intro generation srcPort dstPort now
    have hnone := hsound.onWindowTimeout?_eq_none_iff generation srcPort dstPort now
    cases hsent : s.onWindowTimeout? generation srcPort dstPort now with
    | none =>
      refine ⟨nofun, ?_⟩
      rintro ⟨hgeneration, hbusy⟩
      rcases hnone.mp hsent with hstale | hidle
      · exact absurd hgeneration hstale
      · rw [hbusy] at hidle
        cases hidle
    | some sent =>
      refine ⟨fun _ => ?_, fun _ => ⟨sent.1, sent.2, rfl⟩⟩
      rw [hsent] at hnone
      obtain ⟨hgeneration, hidle⟩ := not_or.mp fun hmoot => nomatch hnone.mpr hmoot
      exact ⟨Decidable.not_not.mp hgeneration, Bool.not_eq_true _ ▸ hidle⟩

/-- The generation of a flight is larger than those of all earlier ones. -/
theorem Charted.generation_lt (h : s.Charted isn c) {sailing : Sailing}
    (hmem : sailing ∈ c.sailings) : sailing.flight.generation < s.generation + 1 := by
  have hrange : sailing.flight.generation ∈ List.range' 1 c.sailings.length := by
    rw [← h.generations]
    exact List.mem_map_of_mem hmem
  have := List.mem_range'_1.mp hrange
  have := h.generation
  omega

/-- Nothing on a chart goes back. -/
theorem Charted.after_mono (h : s.Charted isn c) (op : SenderOperation) (reply : SenderReply) :
    c.acked ≤ (c.after op reply).acked ∧ c.sent ≤ (c.after op reply).sent := by
  have hacked := h.acked_le
  have hsent := h.sent_le
  unfold Chart.after
  split
  · exact ⟨Nat.le_refl _, Nat.le_refl _⟩
  · exact ⟨Nat.le_refl _, Nat.le_max_left _ _⟩
  · exact ⟨Nat.le_refl _, Nat.le_max_left _ _⟩
  · exact ⟨Nat.le_add_right _ _, Nat.le_refl _⟩
  · exact ⟨Nat.le_trans hacked hsent, hsent⟩
  · exact ⟨Nat.le_refl _, Nat.le_refl _⟩

/-- An acknowledgment that is accepted and not opposed is of what was sent. -/
theorem Charted.advanced {ack window : UInt32} {now : Duration} {bytes : Nat} {complete : Bool}
    (h : s.Charted isn c) (hsound : s.Sound) (hopposed : ¬ s.Opposed ack)
    (e : s.onAck ack window now = .ok (.advanced bytes complete, s')) :
    ack = numberAt isn (c.acked + bytes) ∧ c.acked + bytes ≤ c.sent ∧ complete = s'.isIdle := by
  have hnoted := noted_of_onAck e
  have hout : s.Outstanding ack := by
    have haccepted := (hnoted.advanced_iff (Nat.le_of_lt hsound.extent_lt)).mp ⟨_, _, rfl⟩
    rcases haccepted with hout | hopposed'
    · exact hout
    · exact absurd hopposed' hopposed
  have hhalf : steps s.sndUna ack ≠ 2_147_483_648 :=
    Nat.ne_of_lt (Nat.lt_of_le_of_lt hout hsound.extent_lt)
  have hacked := acked_of_onAck hsound hhalf e
  refine ⟨?_, (h.freed_le hnoted).1, hsound.windowComplete hacked⟩
  cases hacked with
  | advanced roundTrip probe hle hprobe =>
    rw [← advance_numberAt, ← h.sndUna hsound, advance_steps]

/-- What a sound sender does on its chart, acknowledgments that are opposed
    excepted. -/
theorem Charted.advances (h : s.Charted isn c) (hsound : s.Sound)
    (hperforms : s.Performs op reply s') (hopposes : ¬ s.Opposes op) :
    s.Advances isn c op reply s' where
  sequenced := (h.performs hperforms).sequenced (hsound.performs hperforms hopposes)
  acked_le := (h.after_mono op reply).1
  sent_le := (h.after_mono op reply).2
  advanced := by
    rintro ack window now bytes complete rfl rfl
    cases hperforms with
    | acked hack => exact h.advanced hsound hopposes hack
  generation := by
    rintro flight rfl
    obtain ⟨hflight, hnext⟩ := (hsound.sails_of_performs hperforms).generation
    refine ⟨hflight.trans hnext.symm, fun sailing hmem => ?_⟩
    rw [hflight]
    exact h.generation_lt hmem
  timeout := by
    rintro generation srcPort dstPort now rfl
    cases hperforms with
    | relaunched hsent => exact .inl ⟨_, rfl⟩
    | moot _ => exact .inr ⟨rfl, rfl⟩
  abandon := by
    rintro rfl
    cases hperforms with
    | abandoned =>
      have hsound' := hsound.abandon.1
      exact ⟨hsound.abandon.2.1, (h.abandon.isIdle_iff hsound').mpr (Nat.le_refl _)⟩

/-- **The sequence state of a sender.** After any run of a new sender on which
    no acknowledgment is opposed, all numbers that the sender goes by are those
    of places on its chart, the places are in order, and being idle, drained
    and overdue mean what the chart says. Whatever it is asked next, it stays
    in order, nothing on the chart goes back, acknowledgments tell how far they
    go, generations grow, and giving up leaves nothing to do. -/
theorem sequence_state_on_chart {profile : Profile}
    (hsize : profile.shape.capacity ≤ 2_147_483_648)
    (hguided : (Sender.create profile.shape profile.timers isn rwnd).Guided operations)
    (hrun : (Sender.create profile.shape profile.timers isn rwnd).survey {} operations =
      .ok (s, c)) :
    s.Sequenced isn c ∧
      ∀ op reply s', s.perform op = .ok (reply, s') → ¬ s.Opposes op →
        s.Advances isn c op reply s' := by
  have hcharted := charted_of_survey hsize hrun
  have hsound : s.Sound :=
    (sound_create hsize profile.timers isn rwnd).play hguided (play_of_survey hrun)
  refine ⟨hcharted.sequenced hsound, ?_⟩
  intro op reply s' hperform hopposes
  exact hcharted.advances hsound (performs_of_perform hperform) hopposes

/-- What happens to a sender of which a window shrinks, and the bytes after it
    are acknowledged too. -/
def smallCourse : List SenderOperation :=
  [.write [1, 2, 3, 4, 5], .nextWindow 5000 80 .zero, .ack 1 7 .zero, .nextWindow 5000 80 .zero,
    .receiverWindow 1, .windowTimeout 2 5000 80 .zero, .ack 4 7 .zero, .write [6]]

/-- The window then ends two bytes behind the oldest byte of the buffer, and
    nothing is under way. The numbers wrap meanwhile. -/
theorem small_sequence_state : ∃ (s s' : Sender) (c : Chart) (flight : Flight),
    (Sender.create Transcript.smallProfile.shape Transcript.smallProfile.timers
      4_294_967_294 7).survey {} smallCourse = .ok (s, c) ∧
    (c.acked, c.windowEnd, c.sent, c.written) = (5, 3, 5, 6) ∧
    s.perform (.nextWindow 5000 80 .zero) = .ok (.flight (some flight), s') ∧
    s.Sequenced 4_294_967_294 c ∧ s.isIdle = true ∧
    s.Advances 4_294_967_294 c (.nextWindow 5000 80 .zero) (.flight (some flight)) s' := by
  have hrun : (Sender.create Transcript.smallProfile.shape Transcript.smallProfile.timers
      4_294_967_294 7).survey {} smallCourse = .ok (_, _) := rfl
  obtain ⟨hsequenced, hadvances⟩ :=
    sequence_state_on_chart (by decide) (by decide +kernel) hrun
  exact ⟨_, _, _, _, hrun, rfl, rfl, hsequenced, hsequenced.idle_iff.mpr (by decide),
    hadvances _ _ _ rfl (by decide)⟩

end Sender

end ReliableStream
