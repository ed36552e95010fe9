import ReliableStream.Proofs.Charts
import ReliableStream.Proofs.Histories
/-! # Flights that resend

    A flight **resends** if an earlier one carried some of its bytes. The sender
    goes by a simpler test: it flags a flight that starts before the end of the
    flight just before it, and times one that it does not flag. What it flags
    does resend. The other way the two differ where a window that was cut short
    is acknowledged to its end: what comes next was sent before, by a larger
    window, and goes out unflagged and timed. -/

namespace ReliableStream

open Sequence

/-- How many bytes the first segment of a flight carries. -/
def Flight.headLength (f : Flight) : Nat := (Segment.payloads (f.segments.take 1)).length

/-! ### Flights in a log -/

namespace Sailing

/-- The flight carries the byte at the place. -/
def Carries (sailing : Sailing) (place : Nat) : Prop :=
  sailing.place ≤ place ∧ place < sailing.stop

/-- Some byte of the flight was carried before. -/
def Resends (sailing : Sailing) (earlier : List Sailing) : Prop :=
  ∃ place, sailing.Carries place ∧ ∃ e ∈ earlier, e.Carries place

/-- Some byte of the first segment was carried before. -/
def ResendsHead (sailing : Sailing) (earlier : List Sailing) : Prop :=
  ∃ place, sailing.place ≤ place ∧ place < sailing.place + sailing.flight.headLength ∧
    ∃ e ∈ earlier, e.Carries place

/-- The flight starts before the flight just before it ends. -/
def Overlaps (sailing : Sailing) (earlier : List Sailing) : Prop :=
  ∃ last, earlier.getLast? = some last ∧ sailing.place < last.stop

/-- What a log tells of a flight, given those before it. -/
structure Entered (earlier : List Sailing) (sailing : Sailing) : Prop where
  head_pos : 0 < sailing.flight.headLength
  head_le : sailing.flight.headLength ≤ sailing.flight.length
  inOrder : ∀ e ∈ earlier, e.place ≤ sailing.place
  flag_iff : sailing.flight.retransmit = true ↔ sailing.Overlaps earlier

variable {earlier : List Sailing} {sailing : Sailing}

/-- A flight starts no earlier than those before it, so it resends exactly if
    it starts before one of them ends. -/
theorem Entered.resends_iff (h : Entered earlier sailing) :
    sailing.Resends earlier ↔ ∃ e ∈ earlier, sailing.place < e.stop := by
  have hpos := h.head_pos
  have hle := h.head_le
  constructor
  · intro ⟨place, hcarries, e, hmem, hearlier⟩
    exact ⟨e, hmem, Nat.lt_of_le_of_lt hcarries.1 hearlier.2⟩
  · intro ⟨e, hmem, hlt⟩
    have hstop : sailing.place < sailing.stop := by
      unfold stop
      omega
    exact ⟨sailing.place, ⟨Nat.le_refl _, hstop⟩, e, hmem, h.inOrder e hmem, hlt⟩

/-- If a flight resends anything, it resends its first byte. -/
theorem Entered.resendsHead_iff (h : Entered earlier sailing) :
    sailing.ResendsHead earlier ↔ sailing.Resends earlier := by
  have hpos := h.head_pos
  have hle := h.head_le
  constructor
  · intro ⟨place, hge, hlt, hearlier⟩
    refine ⟨place, ⟨hge, ?_⟩, hearlier⟩
    unfold stop
    omega
  · intro hresends
    obtain ⟨e, hmem, hlt⟩ := h.resends_iff.mp hresends
    exact ⟨sailing.place, Nat.le_refl _, by omega, e, hmem, h.inOrder e hmem, hlt⟩

theorem Entered.resends_of_flag (h : Entered earlier sailing)
    (hflag : sailing.flight.retransmit = true) : sailing.Resends earlier := by
  obtain ⟨last, hlast, hlt⟩ := h.flag_iff.mp hflag
  exact h.resends_iff.mpr ⟨last, List.mem_of_getLast? hlast, hlt⟩

/-- The flag is right if no flight so far ended before an earlier one did. -/
theorem Entered.flag_iff_resends (h : Entered earlier sailing)
    (honward : earlier.Pairwise (·.stop ≤ ·.stop)) :
    sailing.flight.retransmit = true ↔ sailing.Resends earlier := by
  refine ⟨h.resends_of_flag, fun hresends => ?_⟩
  obtain ⟨e, hmem, hlt⟩ := h.resends_iff.mp hresends
  obtain ⟨front, last, rfl⟩ : ∃ front last, earlier = front ++ [last] := by
    simpa using (List.eq_nil_or_concat earlier).resolve_left (List.ne_nil_of_mem hmem)
  have hle : e.stop ≤ last.stop := by
    rcases List.mem_append.mp hmem with hfront | hlast
    · exact (List.pairwise_append.mp honward).2.2 e hfront last (List.mem_singleton_self last)
    · exact Nat.le_of_eq (congrArg Sailing.stop (List.mem_singleton.mp hlast))
  exact h.flag_iff.mpr ⟨last, List.getLast?_concat, Nat.lt_of_lt_of_le hlt hle⟩

/-- What the flag of a flight says. -/
structure Flagged (earlier : List Sailing) (sailing : Sailing) : Prop where
  flag_iff : sailing.flight.retransmit = true ↔ sailing.Overlaps earlier
  resends_iff : sailing.Resends earlier ↔ ∃ e ∈ earlier, sailing.place < e.stop
  head_iff : sailing.ResendsHead earlier ↔ sailing.Resends earlier
  resends : sailing.flight.retransmit = true → sailing.Resends earlier
  tells : earlier.Pairwise (·.stop ≤ ·.stop) →
    (sailing.flight.retransmit = true ↔ sailing.Resends earlier)

theorem Entered.flagged (h : Entered earlier sailing) : Flagged earlier sailing where
  flag_iff := h.flag_iff
  resends_iff := h.resends_iff
  head_iff := h.resendsHead_iff
  resends := h.resends_of_flag
  tells := h.flag_iff_resends

end Sailing

/-! ### The log of a chart -/

namespace Chart

/-- How the log and the places of a chart agree. -/
structure Logged (c : Chart) : Prop where
  /-- Of what is not acknowledged, exactly what was sent was carried. -/
  carried_iff : ∀ place, c.acked ≤ place →
    ((∃ e ∈ c.sailings, e.Carries place) ↔ place < c.sent)
  /-- Of what is not acknowledged, the latest window is the latest flight. -/
  window_iff : ∀ place, c.acked ≤ place →
    (place < c.windowEnd ↔ ∃ last, c.sailings.getLast? = some last ∧ place < last.stop)
  place_le : ∀ e ∈ c.sailings, e.place ≤ c.acked
  enters : EachAfter Sailing.Entered c.sailings

variable {c : Chart}

theorem logged_empty : Logged {} where
  carried_iff := by simp
  window_iff := by simp
  place_le := by simp
  enters := eachAfter_nil

/-- The log stays true when more is written. -/
theorem Logged.write (h : c.Logged) (n : Nat) : Logged { c with written := c.written + n } where
  carried_iff := h.carried_iff
  window_iff := h.window_iff
  place_le := h.place_le
  enters := h.enters

/-- The log stays true when more is acknowledged. -/
theorem Logged.acked (h : c.Logged) (n : Nat) : Logged { c with acked := c.acked + n } where
  carried_iff := fun place hplace => h.carried_iff place (Nat.le_of_add_right_le hplace)
  window_iff := fun place hplace => h.window_iff place (Nat.le_of_add_right_le hplace)
  place_le := fun e hmem => Nat.le_add_right_of_le (h.place_le e hmem)
  enters := h.enters

/-- After giving up, nothing that was carried is ahead. -/
theorem Logged.abandon (h : c.Logged) (hacked : c.acked ≤ c.written) (hsent : c.sent ≤ c.written) :
    Logged { c with acked := c.written, windowEnd := c.written, sent := c.written } where
  carried_iff := by
    intro place hplace
    have hcarried := h.carried_iff place (Nat.le_trans hacked hplace)
    show _ ↔ place < c.written
    rw [hcarried]
    have hplace' : c.written ≤ place := hplace
    omega
  window_iff := by
    intro place hplace
    have hplace' : c.written ≤ place := hplace
    refine ⟨fun hlt => absurd hlt (Nat.not_lt.mpr hplace'), ?_⟩
    intro ⟨last, hlast, hlt⟩
    have hmem := List.mem_of_getLast? hlast
    have hstart := h.place_le last hmem
    have := (h.carried_iff place (Nat.le_trans hacked hplace')).mp
      ⟨last, hmem, by omega, hlt⟩
    omega
  place_le := fun e hmem => Nat.le_trans (h.place_le e hmem) hacked
  enters := h.enters

/-- A flight that is flagged by the latest window joins the log. -/
theorem Logged.launch (h : c.Logged) {now : Duration} {flight : Flight}
    (hpos : 0 < flight.headLength) (hle : flight.headLength ≤ flight.length)
    (hflag : flight.retransmit = true ↔ c.acked < c.windowEnd) : (c.launch now flight).Logged where
  carried_iff := by
    intro place hplace
    have hcarried := h.carried_iff place hplace
    have hge : c.acked ≤ place := hplace
    simp only [Chart.launch, List.mem_append, List.mem_singleton, or_and_right, exists_or,
      exists_eq_left]
    rw [hcarried]
    simp only [Sailing.Carries, Sailing.stop]
    omega
  window_iff := by
    intro place hplace
    simp [Chart.launch, Sailing.stop]
  place_le := by
    intro e hmem
    rcases List.mem_append.mp hmem with hold | hnew
    · exact h.place_le e hold
    · rw [List.mem_singleton.mp hnew]
      exact Nat.le_refl _
  enters := h.enters.concat
    { head_pos := hpos
      head_le := hle
      inOrder := h.place_le
      flag_iff := hflag.trans (h.window_iff c.acked (Nat.le_refl _)) }

/-- The next flight resends exactly if something sent is not acknowledged. -/
theorem Logged.resends_launch {now : Duration} {flight : Flight} (hc : c.Logged)
    (h : (c.launch now flight).Logged) :
    Sailing.Resends ⟨c.acked, now, flight⟩ c.sailings ↔ c.acked < c.sent := by
  have hentered := h.enters c.sailings ⟨c.acked, now, flight⟩ [] rfl
  rw [hentered.resends_iff, ← hc.carried_iff c.acked (Nat.le_refl _)]
  constructor
  · intro ⟨e, hmem, hlt⟩
    exact ⟨e, hmem, hc.place_le e hmem, hlt⟩
  · intro ⟨e, hmem, hcarries⟩
    exact ⟨e, hmem, hcarries.2⟩

end Chart

/-! ### A sender and its log -/

namespace Sender

variable {s s' : Sender} {c : Chart} {op : SenderOperation} {reply : SenderReply}
  {operations : List SenderOperation} {isn rwnd : UInt32} {flight : Flight}

/-- How a sender marks a flight, and whether it times it. -/
structure Marks (s : Sender) (now : Duration) (flight : Flight) (s' : Sender) : Prop where
  flag : flight.retransmit = before s.sndUna s.winEnd
  timed : ∃ first rest, flight.segments = first :: rest ∧
    s'.probe = if flight.retransmit then none else some ⟨now, first.endSeq⟩

theorem marks_of_nextWindow? {srcPort dstPort : UInt16} {now : Duration}
    (e : s.nextWindow? srcPort dstPort now = some (flight, s')) : s.Marks now flight s' := by
  unfold nextWindow? at e
  simp only at e
  split at e
  · cases e
  · next first rest hsegments =>
    cases e
    exact ⟨rfl, first, rest, rfl, rfl⟩

/-- What a timeout sends is always flagged, since something is under way. -/
theorem marks_of_onWindowTimeout? {generation : Nat} {srcPort dstPort : UInt16} {now : Duration}
    (e : s.onWindowTimeout? generation srcPort dstPort now = some (flight, s')) :
    s.Marks now flight s' ∧ flight.retransmit = true := by
  unfold onWindowTimeout? at e
  split at e
  · cases e
  · next hlive =>
    rw [Option.map_eq_some_iff] at e
    obtain ⟨⟨cut, s''⟩, hnext, heq⟩ := e
    cases heq
    have hmarks := marks_of_nextWindow? hnext
    refine ⟨⟨hmarks.flag, hmarks.timed⟩, ?_⟩
    have hbusy := (not_or.mp hlive).2
    simp only [isIdle, Bool.not_eq_true', Bool.not_eq_false] at hbusy
    exact hmarks.flag.trans hbusy

/-- A flight that is sent is marked, and goes onto the chart. -/
theorem exists_marks_of_performs (hperforms : s.Performs op (.flight (some flight)) s') :
    ∃ now, s.Marks now flight s' ∧ c.after op (.flight (some flight)) = c.launch now flight := by
  cases hperforms with
  | launched hsent => exact ⟨_, marks_of_nextWindow? hsent, rfl⟩
  | relaunched hsent => exact ⟨_, (marks_of_onWindowTimeout? hsent).1, rfl⟩

/-- The first segment of a flight: it starts at the oldest byte, and carries
    some of the flight. -/
theorem Sound.head_of_performs {first : Segment} {rest : List Segment} (h : s.Sound)
    (hperforms : s.Performs op (.flight (some flight)) s')
    (hsegments : flight.segments = first :: rest) :
    first.seq = s.sndUna ∧ first.endSeq = advance s.sndUna flight.headLength ∧
      0 < flight.headLength ∧ flight.headLength ≤ flight.length := by
  obtain ⟨first', rest', hfront, hseq, hpos⟩ := (h.launch_of_performs hperforms).front
  rw [hsegments] at hfront
  cases hfront
  have hhead : flight.headLength = first.payload.length := by
    simp [Flight.headLength, hsegments, Segment.payloads]
  have hlength : flight.length = first.payload.length + (Segment.payloads rest).length := by
    simp [Flight.length, hsegments, Segment.payloads]
  refine ⟨hseq, ?_, ?_, ?_⟩
  · rw [hhead, ← hseq]
    rfl
  · rw [hhead]
    exact hpos
  · rw [hhead, hlength]
    exact Nat.le_add_right _ _

/-- A measurement that runs is that of the latest flight: it started with it,
    and waits for its first segment. The flight is not flagged. -/
def Timed (isn : UInt32) (c : Chart) (s : Sender) : Prop :=
  ∀ probe, s.probe = some probe → ∃ earlier sailing, c.sailings = earlier ++ [sailing] ∧
    sailing.flight.retransmit = false ∧ probe.sentAt = sailing.time ∧
      probe.expectedAck = numberAt isn (sailing.place + sailing.flight.headLength)

/-- A sender whose chart tells what every flight resends. -/
structure Booked (isn : UInt32) (c : Chart) (s : Sender) : Prop where
  charted : s.Charted isn c
  logged : c.Logged
  timed : s.Timed isn c

theorem booked_create {shape : BufferShape} (hsize : shape.capacity ≤ 2_147_483_648)
    (timers : Timers) (isn rwnd : UInt32) :
    (Sender.create shape timers isn rwnd).Booked isn {} where
  charted := .create hsize timers isn rwnd
  logged := Chart.logged_empty
  timed := nofun

/-- A flight joins the log with its mark. -/
theorem Booked.launch {now : Duration} (h : s.Booked isn c)
    (hperforms : s.Performs op (.flight (some flight)) s') (hmarks : s.Marks now flight s') :
    (c.launch now flight).Logged ∧ s'.Timed isn (c.launch now flight) := by
  have hsound := h.charted.tracked.sound_of_performs hperforms
  obtain ⟨first, rest, hsegments, hprobe⟩ := hmarks.timed
  obtain ⟨-, hend, hpos, hle⟩ := hsound.head_of_performs hperforms hsegments
  constructor
  · apply h.logged.launch hpos hle
    rw [hmarks.flag]
    exact h.charted.before_winEnd_iff hsound
  · intro probe hsome
    rw [hprobe] at hsome
    split at hsome
    · cases hsome
    · next hflag =>
      cases hsome
      refine ⟨c.sailings, _, rfl, Bool.not_eq_true _ ▸ hflag, rfl, ?_⟩
      rw [hend, h.charted.sndUna hsound, advance_numberAt]

theorem Booked.performs (h : s.Booked isn c) (hperforms : s.Performs op reply s') :
    s'.Booked isn (c.after op reply) := by
  have hcharted := h.charted.performs hperforms
  -- A flight is the only thing that joins the log or starts a measurement.
  have hsends : ∀ {flight : Flight}, reply = .flight (some flight) →
      s'.Booked isn (c.after op reply) := by
    intro flight hreply
    subst hreply
    obtain ⟨now, hmarks, hafter⟩ := exists_marks_of_performs (c := c) hperforms
    rw [hafter] at hcharted ⊢
    obtain ⟨hlogged, htimed⟩ := h.launch hperforms hmarks
    exact ⟨hcharted, hlogged, htimed⟩
  cases hperforms with
  | write => exact ⟨hcharted, h.logged.write _, h.timed⟩
  | launched _ => exact hsends rfl
  | nothing _ => exact h
  | acked hack =>
    refine ⟨hcharted, h.logged.acked _, fun probe hsome => ?_⟩
    cases noted_of_onAck hack with
    | duplicate _ => exact h.timed probe hsome
    | ignored _ _ => exact h.timed probe hsome
    | advanced _ _ _ _ hprobe _ =>
      rcases hprobe with rfl | rfl
      · cases hsome
      · exact h.timed probe hsome
  | relaunched _ => exact hsends rfl
  | moot _ => exact h
  | receiverWindow => exact ⟨hcharted, h.logged, h.timed⟩
  | abandoned =>
    have hacked := Nat.le_trans h.charted.acked_le h.charted.sent_le
    exact ⟨hcharted, h.logged.abandon hacked h.charted.sent_le, nofun⟩

theorem booked_of_survey {shape : BufferShape} (hsize : shape.capacity ≤ 2_147_483_648)
    {timers : Timers}
    (h : (Sender.create shape timers isn rwnd).survey {} operations = .ok (s, c)) :
    s.Booked isn c :=
  of_survey (P := fun s c => s.Booked isn c) Booked.performs
    (booked_create hsize timers isn rwnd) h

/-- The estimate changes only where the measurement that runs ends. -/
theorem sample_of_onAck {ack window : UInt32} {now : Duration} {outcome : AckOutcome}
    (e : s.onAck ack window now = .ok (outcome, s')) : s'.roundTrip = s.roundTrip ∨
      ∃ probe, s.probe = some probe ∧ probe.expectedAck = ack ∧
        s.roundTrip.record (now.subSat probe.sentAt) = .ok s'.roundTrip := by
  unfold onAck at e
  split at e
  · cases e
    exact .inl rfl
  · split at e
    · cases e
      exact .inl rfl
    · simp only at e
      generalize hfinish : finishProbe _ ack now = r at e
      cases r with
      | error fault => cases e
      | ok s'' =>
        obtain ⟨roundTrip, probe, rfl, -, hsample⟩ := finishProbe_eq hfinish
        cases e
        exact hsample

/-! ### What is resent, and what is timed -/

theorem Charted.before_sndMax_iff (h : s.Charted isn c) (hsound : s.Sound) :
    before s.sndUna s.sndMax = true ↔ c.acked < c.sent := by
  have hnear := h.near
  have hacked := h.acked_le
  have hsent := h.sent_le
  rw [h.sndUna hsound, h.sndMax]
  exact Near.before_iff isn ⟨by omega, by omega⟩

/-- What a flight says that is sent next. -/
structure SendsNext (isn : UInt32) (c : Chart) (s : Sender) (op : SenderOperation) (now : Duration)
    (flight : Flight) (s' : Sender) : Prop where
  log : (c.after op (.flight (some flight))).sailings = c.sailings ++ [⟨c.acked, now, flight⟩]
  row : Segment.Consecutive (numberAt isn c.acked) flight.segments
  /-- It resends exactly if it starts before the end of everything ever sent. -/
  resends_iff : ∀ first, flight.segments.head? = some first →
    (Sailing.Resends ⟨c.acked, now, flight⟩ c.sailings ↔ before first.seq s.sndMax = true)
  /-- It is flagged exactly if it starts before the end of the latest window. -/
  flag_iff : ∀ first, flight.segments.head? = some first →
    (flight.retransmit = true ↔ before first.seq s.winEnd = true)
  /-- The flag fails to tell where the latest window is acknowledged to its end,
      and something beyond it was sent before. -/
  tells_iff : (flight.retransmit = true ↔ Sailing.Resends ⟨c.acked, now, flight⟩ c.sailings) ↔
    ¬ (c.windowEnd ≤ c.acked ∧ c.acked < c.sent)
  timed_iff : s'.probe ≠ none ↔ flight.retransmit = false
  timeout : ∀ generation srcPort dstPort now, op = .windowTimeout generation srcPort dstPort now →
    flight.retransmit = true

theorem Booked.sendsNext (h : s.Booked isn c)
    (hperforms : s.Performs op (.flight (some flight)) s') :
    ∃ now, s.SendsNext isn c op now flight s' := by
  have hsound := h.charted.tracked.sound_of_performs hperforms
  obtain ⟨now, hmarks, hafter⟩ := exists_marks_of_performs (c := c) hperforms
  obtain ⟨first, rest, hsegments, hprobe⟩ := hmarks.timed
  obtain ⟨hseq, -⟩ := hsound.head_of_performs hperforms hsegments
  have hresends := h.logged.resends_launch (h.launch hperforms hmarks).1
  have hflag : flight.retransmit = true ↔ c.acked < c.windowEnd := by
    rw [hmarks.flag]
    exact h.charted.before_winEnd_iff hsound
  have hwindow := h.charted.window_le
  have hhead : ∀ first', flight.segments.head? = some first' → first'.seq = s.sndUna := by
    intro first' hfirst
    rw [hsegments] at hfirst
    cases hfirst
    exact hseq
  refine ⟨now, ?_, ?_, ?_, ?_, ?_, ?_, ?_⟩
  · rw [hafter]
    rfl
  · rw [← h.charted.sndUna hsound]
    exact (hsound.slices_of_performs hperforms).consecutive
  · intro first' hfirst
    rw [hresends, hhead first' hfirst, h.charted.before_sndMax_iff hsound]
  · intro first' hfirst
    rw [hflag, hhead first' hfirst, h.charted.before_winEnd_iff hsound]
  · rw [hflag, hresends]
    omega
  · rw [hprobe]
    cases flight.retransmit <;> simp
  · rintro generation srcPort dstPort now rfl
    cases hperforms with
    | relaunched hsent => exact (marks_of_onWindowTimeout? hsent).2

/-- What a sample of the round trip measures: the time since the latest flight,
    from an acknowledgment of just its first segment. That flight was not
    flagged. -/
def Samples (isn : UInt32) (c : Chart) (s : Sender) (ack : UInt32) (now : Duration)
    (roundTrip : RoundTrip) : Prop :=
  ∃ earlier sailing, c.sailings = earlier ++ [sailing] ∧
    sailing.flight.retransmit = false ∧
    ack = numberAt isn (sailing.place + sailing.flight.headLength) ∧
    s.roundTrip.record (now.subSat sailing.time) = .ok roundTrip ∧
    -- It was the only one to carry them, unless an earlier flight ended later.
    (earlier.Pairwise (·.stop ≤ ·.stop) → ¬ sailing.ResendsHead earlier)

/-- **What is resent, and what is timed.** After any run of a new sender, its
    flights are flagged by the end of the flight just before each. The flag of
    a flight is never wrong where it is set, and right on a flight that resends
    unless an earlier flight ended beyond the one just before it. Exactly what
    is not flagged is timed, and a sample is only ever taken of the latest
    flight. -/
theorem resends_on_chart {shape : BufferShape} (hsize : shape.capacity ≤ 2_147_483_648)
    {timers : Timers}
    (hrun : (Sender.create shape timers isn rwnd).survey {} operations = .ok (s, c)) :
    (∀ earlier sailing later, c.sailings = earlier ++ sailing :: later →
      Sailing.Flagged earlier sailing) ∧
    (∀ op flight s', s.perform op = .ok (.flight (some flight), s') →
      ∃ now, s.SendsNext isn c op now flight s') ∧
    ∀ ack window now outcome s', s.onAck ack window now = .ok (outcome, s') →
      s'.roundTrip = s.roundTrip ∨ s.Samples isn c ack now s'.roundTrip := by
  have hbooked := booked_of_survey hsize hrun
  refine ⟨?_, ?_, ?_⟩
  · intro earlier sailing later hsplit
    exact (hbooked.logged.enters earlier sailing later hsplit).flagged
  · intro op flight s' hperform
    exact hbooked.sendsNext (performs_of_perform hperform)
  · intro ack window now outcome s' hack
    refine (sample_of_onAck hack).imp_right ?_
    rintro ⟨probe, hprobe, rfl, hrecord⟩
    obtain ⟨earlier, sailing, hlog, hflag, htime, hend⟩ := hbooked.timed probe hprobe
    rw [htime] at hrecord
    refine ⟨earlier, sailing, hlog, hflag, hend, hrecord, fun honward hhead => ?_⟩
    have hentered := hbooked.logged.enters earlier sailing [] hlog
    rw [(hentered.flag_iff_resends honward).mpr (hentered.resendsHead_iff.mp hhead)] at hflag
    cases hflag

/-- A window of four bytes times out, is cut short to two, and these two are
    acknowledged. -/
def cutShort : List SenderOperation :=
  [.write [1, 2, 3, 4], .nextWindow 1 2 .zero, .receiverWindow 2,
    .windowTimeout 1 1 2 (.ofNanos 1_000_000_000), .ack 3 8 (.ofNanos 1_500_000_000)]

/-- The other two bytes are resent then, but the flight is not flagged. The
    acknowledgment of their first copy, a millisecond later, is taken for that
    of the second, and the timeout falls to a millisecond. -/
theorem resends_unflagged : ∃ (s s' : Sender) (c : Chart) (flight : Flight) (first : Segment),
    (Sender.create ⟨8, 4, by decide, by decide⟩ {} 0 8).survey {} cutShort = .ok (s, c) ∧
    s.perform (.nextWindow 1 2 (.ofNanos 1_500_000_000)) = .ok (.flight (some flight), s') ∧
    flight.segments = [first] ∧ first.payload = [3, 4] ∧ before first.seq s.sndMax = true ∧
    (∃ e ∈ c.sailings, e.Carries 2 ∧ e.Carries 3) ∧ flight.retransmit = false ∧
    s'.probe = some ⟨.ofNanos 1_500_000_000, 5⟩ ∧ s'.rto = .ofNanos 2_000_000_000 ∧
    (s'.onAck 5 8 (.ofNanos 1_501_000_000)).toOption.map (fun (_, s'') => s''.rto) =
      some (.ofNanos 1_000_000) := by
  refine ⟨_, _, _, _, _, rfl, rfl, rfl, rfl, rfl, ?_, rfl, rfl, rfl, ?_⟩
  · exact ⟨_, List.mem_cons_self, ⟨by decide, by decide⟩, by decide, by decide⟩
  · decide +kernel

/-- Before that flight two others were sent. The second is flagged, and rightly
    so; the next one starts where everything sent so far was sent before. -/
theorem cutShort_resends : ∃ (s s' : Sender) (c : Chart) (whole short : Sailing)
    (flight : Flight) (now : Duration),
    (Sender.create ⟨8, 4, by decide, by decide⟩ {} 0 8).survey {} cutShort = .ok (s, c) ∧
    c.sailings = [whole, short] ∧ (c.acked, c.windowEnd, c.sent) = (2, 2, 4) ∧
    Sailing.Flagged [whole] short ∧ short.Resends [whole] ∧
    s.perform (.nextWindow 1 2 (.ofNanos 1_500_000_000)) = .ok (.flight (some flight), s') ∧
    s.SendsNext 0 c (.nextWindow 1 2 (.ofNanos 1_500_000_000)) now flight s' ∧
    Sailing.Resends ⟨2, now, flight⟩ [whole, short] := by
  have hrun : (Sender.create ⟨8, 4, by decide, by decide⟩ {} 0 8).survey {} cutShort =
      .ok (_, _) := rfl
  obtain ⟨hflagged, hnext, -⟩ := resends_on_chart (by decide) hrun
  have hshort := hflagged [_] _ [] rfl
  obtain ⟨now, hsends⟩ := hnext (.nextWindow 1 2 (.ofNanos 1_500_000_000)) _ _ rfl
  exact ⟨_, _, _, _, _, _, now, hrun, rfl, rfl, hshort, hshort.resends rfl, rfl, hsends,
    (hsends.resends_iff _ rfl).mpr rfl⟩

end Sender

end ReliableStream
