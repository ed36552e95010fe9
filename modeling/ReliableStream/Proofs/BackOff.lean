import Mathlib.Algebra.Group.Nat.Defs
import ReliableStream.Proofs.Resending
import ReliableStream.Proofs.Responses
/-! # Back-off

    Two things move the retransmission timeout of a sender. A **measurement**
    sets it to what the round trips suggest, and never below its floor. A timer
    that **expires** doubles it. What is sent again then is flagged, and ends the
    measurement that ran; the next one begins with a flight that is not flagged.
    Until then the timeout moves by doublings alone, whatever else is asked of
    the sender.

    None of this rests on how the fractions of durations are rounded. The rule
    for that is left open here, and the sender's own rule is one of many. -/

namespace ReliableStream

/-! ### Multiples of durations -/

namespace Duration

@[simp] theorem timesSat_one (d : Duration) : d.timesSat 1 = d := by
  have hlt := d.nanos_lt
  ext
  simp only [nanos_timesSat, longest]
  omega

/-- A multiple is no shorter. -/
theorem le_timesSat (d : Duration) {n : Nat} (h : 0 < n) : d ≤ d.timesSat n := by
  have hlt := d.nanos_lt
  have hle := Nat.le_mul_of_pos_right d.nanos h
  rw [le_def, nanos_timesSat]
  simp only [longest]
  omega

/-- Multiplied again, a multiple that was cut off stays cut off. -/
theorem timesSat_timesSat (d : Duration) (m : Nat) {n : Nat} (h : 0 < n) :
    (d.timesSat m).timesSat n = d.timesSat (m * n) := by
  ext
  simp only [nanos_timesSat]
  rw [← Nat.mul_assoc]
  rcases Nat.le_total (d.nanos * m) longest.nanos with hfits | hcut
  · rw [Nat.min_eq_left hfits]
  · have hstays := Nat.le_mul_of_pos_right longest.nanos h
    have hmore := Nat.mul_le_mul_right n hcut
    rw [Nat.min_eq_right hcut, Nat.min_eq_right hstays, Nat.min_eq_right (by omega)]

end Duration

/-! ### Measurements by any rule -/

namespace RoundTrip

variable {r r' : RoundTrip} {floor sample : Duration} {scale : Duration → Nat → Nat → Duration}

/-- Takes in one measurement, with fractions of durations as `scale` has them. -/
def recordBy (scale : Duration → Nat → Nat → Duration) (r : RoundTrip) (sample : Duration) :
    Except Fault RoundTrip := do
  let estimated ← (scale r.estimated 7 8).add (scale sample 1 8)
  let deviation ← (scale r.deviation 3 4).add (scale (sample.distance estimated) 1 4)
  let timeout ← estimated.add (← deviation.times 4)
  return { r with estimated, deviation, timeout := max timeout r.minRto }

theorem recordBy_scale (r : RoundTrip) (sample : Duration) :
    r.recordBy Duration.scale sample = r.record sample := rfl

/-- The timeout is at its floor or above it. -/
structure Floored (floor : Duration) (r : RoundTrip) : Prop where
  minRto : r.minRto = floor
  floor_le : floor ≤ r.timeout

theorem floored_create (timers : Timers) : (create timers).Floored timers.minRto where
  minRto := rfl
  floor_le := by
    show timers.minRto ≤ max timers.initialRto timers.minRto
    rw [Duration.le_def, Duration.nanos_max]
    exact Nat.le_max_right ..

/-- A measurement leaves the timeout at the floor or above it, wherever it was. -/
theorem floored_of_recordBy (h : r.recordBy scale sample = .ok r') : r'.Floored r.minRto := by
  unfold recordBy at h
  obtain ⟨estimated, -, h⟩ := exists_of_bind_eq_ok h
  obtain ⟨deviation, -, h⟩ := exists_of_bind_eq_ok h
  obtain ⟨spread, -, h⟩ := exists_of_bind_eq_ok h
  obtain ⟨timeout, -, h⟩ := exists_of_bind_eq_ok h
  cases h
  refine ⟨rfl, ?_⟩
  rw [Duration.le_def, Duration.nanos_max]
  exact Nat.le_max_right ..

theorem Floored.backOff (h : r.Floored floor) : r.backOff.Floored floor where
  minRto := h.minRto
  floor_le := Nat.le_trans h.floor_le (Duration.le_timesSat _ (by decide))

end RoundTrip

namespace Sender

/-- Ends the running measurement if this is the acknowledgment it waits for. -/
def finishProbeBy (scale : Duration → Nat → Nat → Duration) (s : Sender) (ack : UInt32)
    (now : Duration) : Except Fault Sender :=
  match s.probe with
  | some probe =>
    if probe.expectedAck = ack then
      (s.roundTrip.recordBy scale (now.subSat probe.sentAt)).map fun roundTrip =>
        { s with roundTrip, probe := none }
    else .ok s
  | none => .ok s

/-- Takes in an acknowledgment. -/
def onAckBy (scale : Duration → Nat → Nat → Duration) (s : Sender) (ack window : UInt32)
    (now : Duration) : Except Fault (AckOutcome × Sender) :=
  if Sequence.before ack s.sndUna then
    .ok (.duplicate, { s with congestion := s.congestion.onDuplicateAck })
  else if Sequence.before s.sndMax ack then
    .ok (.ignored, s)
  else
    let (bytes, buffer) := s.buffer.release ack
    let s' := { s with congestion := s.congestion.onNewAck, buffer, sndUna := ack, rwnd := window }
    (s'.finishProbeBy scale ack now).map fun s'' =>
      (.advanced bytes (Sequence.atOrBefore s.winEnd ack), s'')

/-- Does what it is asked to do. Only acknowledgments end measurements. -/
def performBy (scale : Duration → Nat → Nat → Duration) (s : Sender) :
    SenderOperation → Except Fault (SenderReply × Sender)
  | .ack ack window now =>
    (s.onAckBy scale ack window now).map fun (outcome, s') => (.outcome outcome, s')
  | op => s.perform op

/-- With the sender's own rule for fractions, it does what it always does. -/
theorem performBy_scale (s : Sender) (op : SenderOperation) :
    s.performBy Duration.scale op = s.perform op := by
  cases op <;> rfl

end Sender

/-! ### Logs -/

/-- What a sender was asked, each time with its answer. -/
abbrev SenderLog := List (SenderOperation × SenderReply)

/-- The flight that is handed out. -/
def SenderReply.flight? : SenderReply → Option Flight
  | .flight sent => sent
  | _ => none

/-- A flight is handed out that is not flagged. -/
def SenderReply.startsAfresh (reply : SenderReply) : Bool := reply.flight?.any (!·.retransmit)

@[simp] theorem SenderReply.startsAfresh_flight (sent : Flight) :
    (SenderReply.flight (some sent)).startsAfresh = !sent.retransmit := rfl

/-- The timer of a window. -/
def SenderOperation.isTimeout : SenderOperation → Bool
  | .windowTimeout .. => true
  | _ => false

/-- The timer of a window went off, and the window is sent again. -/
def SenderOperation.expires (op : SenderOperation) (reply : SenderReply) : Bool :=
  op.isTimeout && reply.flight?.isSome

/-- How many timers expired. -/
def SenderLog.expiries (log : SenderLog) : Nat := log.countP fun (op, reply) => op.expires reply

namespace Sender

variable {s s' s'' : Sender} {scale : Duration → Nat → Nat → Duration} {op : SenderOperation}
  {reply : SenderReply} {operations : List SenderOperation} {log : SenderLog} {flight : Flight}
  {floor : Duration}

/-- A sender that takes fractions by a rule. -/
def transducerBy (scale : Duration → Nat → Nat → Duration) :
    Transducer Sender SenderOperation (SenderReply × Sender) Fault where
  answer := performBy scale
  next := Prod.snd

/-- Does one thing after the other, and logs them, until it faults. -/
def runBy (scale : Duration → Nat → Nat → Duration) (s : Sender)
    (operations : List SenderOperation) : Except Fault (SenderLog × Sender) :=
  (((transducerBy scale).course s operations).recorded
    (fun log step => log ++ [(step.input, step.answer.1)]) []).map Prod.swap

/-- Whatever every operation keeps, with the log until then, is kept by a run. -/
theorem of_runBy {P : SenderLog → Sender → Prop}
    (hstep : ∀ {s s' : Sender} {log : SenderLog} {op : SenderOperation} {reply : SenderReply},
      P log s → s.performBy scale op = .ok (reply, s') → P (log ++ [(op, reply)]) s')
    (hs : P [] s) (h : s.runBy scale operations = .ok (log, s')) : P log s' := by
  obtain ⟨answer, hrecorded, hswap⟩ := exists_of_map_eq_ok h
  cases hswap
  exact Transducer.recorded_induction (P := P) hs (fun hm hperform => hstep hm hperform)
    hrecorded

/-! ### One operation -/

/-- The flight is waited for as long as so many timeouts, for one at least. -/
structure Awaits (s : Sender) (flight : Flight) : Prop where
  segments_ne : flight.segments ≠ []
  timeout : flight.timeout = s.rto.timesSat flight.segments.length

/-- So it is waited for no less than one timeout. -/
theorem Awaits.le_timeout (h : s.Awaits flight) (hfloor : floor ≤ s.rto) :
    floor ≤ flight.timeout := by
  have hsome := List.length_pos_iff.mpr h.segments_ne
  rw [h.timeout]
  exact Nat.le_trans hfloor (Duration.le_timesSat _ hsome)

/-- What an operation does to the timeout and to the running measurement. -/
inductive Retimes (scale : Duration → Nat → Nat → Duration) (s : Sender) :
    SenderOperation → SenderReply → Sender → Prop where
  /-- Nothing is sent, and nothing measured. -/
  | rests {op : SenderOperation} {reply : SenderReply} {s' : Sender}
      (hreply : reply.flight? = none) (hround : s'.roundTrip = s.roundTrip)
      (hprobe : s'.probe = none ∨ s'.probe = s.probe) : Retimes scale s op reply s'
  | measures {ack window : UInt32} {now : Duration} {outcome : AckOutcome} {s' : Sender}
      {probe : RoundTripProbe} (hprobe : s.probe = some probe) (hended : s'.probe = none)
      (hrecord : s.roundTrip.recordBy scale (now.subSat probe.sentAt) = .ok s'.roundTrip) :
      Retimes scale s (.ack ack window now) (.outcome outcome) s'
  | sends {srcPort dstPort : UInt16} {now : Duration} {flight : Flight} {s' : Sender}
      (hawaits : s'.Awaits flight) (hround : s'.roundTrip = s.roundTrip)
      (hprobe : flight.retransmit = true → s'.probe = none) :
      Retimes scale s (.nextWindow srcPort dstPort now) (.flight (some flight)) s'
  | resends {generation : Nat} {srcPort dstPort : UInt16} {now : Duration} {flight : Flight}
      {s' : Sender} (hawaits : s'.Awaits flight) (hround : s'.roundTrip = s.roundTrip.backOff)
      (hflag : flight.retransmit = true) (hprobe : s'.probe = none) :
      Retimes scale s (.windowTimeout generation srcPort dstPort now) (.flight (some flight)) s'

theorem retimes_of_onAckBy {ack window : UInt32} {now : Duration} {outcome : AckOutcome}
    (h : s.onAckBy scale ack window now = .ok (outcome, s')) :
    s.Retimes scale (.ack ack window now) (.outcome outcome) s' := by
  unfold onAckBy at h
  split at h
  · cases h
    exact .rests rfl rfl (.inr rfl)
  · split at h
    · cases h
      exact .rests rfl rfl (.inr rfl)
    · unfold finishProbeBy at h
      simp only at h
      split at h
      · next probe hprobe =>
        split at h
        -- The measurement ends, unless that faults.
        · cases hrecord : s.roundTrip.recordBy scale (now.subSat probe.sentAt) with
          | error fault =>
            rw [hrecord] at h
            cases h
          | ok roundTrip =>
            rw [hrecord] at h
            cases h
            exact .measures hprobe rfl hrecord
        · cases h
          exact .rests rfl rfl (.inr rfl)
      · cases h
        exact .rests rfl rfl (.inr rfl)

theorem awaits_of_nextWindow? {srcPort dstPort : UInt16} {now : Duration}
    (h : s.nextWindow? srcPort dstPort now = some (flight, s')) :
    s'.Awaits flight ∧ s'.roundTrip = s.roundTrip := by
  have hsome := (segments_of_nextWindow? h).2
  obtain ⟨htimeout, last, probe, -, rfl⟩ := sender_of_nextWindow? h
  exact ⟨⟨hsome, htimeout⟩, rfl⟩

theorem retimes_of_nextWindow? {srcPort dstPort : UInt16} {now : Duration}
    (h : s.nextWindow? srcPort dstPort now = some (flight, s')) :
    s.Retimes scale (.nextWindow srcPort dstPort now) (.flight (some flight)) s' := by
  obtain ⟨hawaits, hround⟩ := awaits_of_nextWindow? h
  obtain ⟨first, rest, -, hprobe⟩ := (marks_of_nextWindow? h).timed
  exact .sends hawaits hround fun hflag => by rw [hprobe, if_pos hflag]

/-- What a timer sends is flagged, and so nothing is measured after it. -/
theorem retimes_of_onWindowTimeout? {generation : Nat} {srcPort dstPort : UInt16}
    {now : Duration} (h : s.onWindowTimeout? generation srcPort dstPort now = some (flight, s')) :
    s.Retimes scale (.windowTimeout generation srcPort dstPort now) (.flight (some flight)) s' := by
  obtain ⟨hmarks, hflag⟩ := marks_of_onWindowTimeout? h
  obtain ⟨first, rest, -, hprobe⟩ := hmarks.timed
  obtain ⟨-, -, cut, s'', hnext, hsegments, -, htimeout, rfl⟩ := exists_of_onWindowTimeout? h
  obtain ⟨hawaits, hround⟩ := awaits_of_nextWindow? hnext
  refine .resends ⟨hsegments ▸ hawaits.segments_ne, htimeout⟩ ?_ hflag ?_
  · show s''.roundTrip.backOff = s.roundTrip.backOff
    rw [hround]
  · rw [hprobe, if_pos hflag]

theorem retimes_of_performBy (h : s.performBy scale op = .ok (reply, s')) :
    s.Retimes scale op reply s' := by
  cases op with
  | ack ack window now =>
    cases hack : s.onAckBy scale ack window now with
    | error fault =>
      rw [performBy, hack] at h
      cases h
    | ok acked =>
      rw [performBy, hack] at h
      cases h
      exact retimes_of_onAckBy hack
  | write bytes =>
    cases h
    exact .rests rfl rfl (.inr rfl)
  | receiverWindow rwnd =>
    cases h
    exact .rests rfl rfl (.inr rfl)
  | abandon =>
    cases h
    exact .rests rfl rfl (.inl rfl)
  | nextWindow srcPort dstPort now =>
    have hperform : s.perform (.nextWindow srcPort dstPort now) = .ok (reply, s') := h
    cases performs_of_perform hperform with
    | launched hsent => exact retimes_of_nextWindow? hsent
    | nothing _ => exact .rests rfl rfl (.inr rfl)
  | windowTimeout generation srcPort dstPort now =>
    have hperform : s.perform (.windowTimeout generation srcPort dstPort now) =
        .ok (reply, s') := h
    cases performs_of_perform hperform with
    | relaunched hsent => exact retimes_of_onWindowTimeout? hsent
    | moot _ => exact .rests rfl rfl (.inr rfl)

namespace Retimes

/-- No operation takes the timeout below its floor. -/
theorem floored (h : s.Retimes scale op reply s') (hs : s.roundTrip.Floored floor) :
    s'.roundTrip.Floored floor := by
  cases h with
  | rests _ hround => exact hround ▸ hs
  | measures _ _ hrecord => exact hs.minRto ▸ RoundTrip.floored_of_recordBy hrecord
  | sends _ hround => exact hround ▸ hs
  | resends _ hround => exact hround ▸ hs.backOff

/-- Whatever sends a flight waits for it by the timeout that holds after it. -/
theorem awaits (h : s.Retimes scale op (.flight (some flight)) s') : s'.Awaits flight := by
  cases h with
  | rests hreply => cases hreply
  | sends hawaits => exact hawaits
  | resends hawaits => exact hawaits

/-- What expires doubles the timeout. -/
theorem rto_of_expires (h : s.Retimes scale op reply s') (hexpires : op.expires reply = true) :
    s'.rto = s.rto.timesSat 2 ∧ s'.probe = none := by
  cases h with
  | rests hreply =>
    rw [SenderOperation.expires, hreply, Option.isSome_none, Bool.and_false] at hexpires
    cases hexpires
  | measures => cases hexpires
  | sends => cases hexpires
  | resends _ hround _ hprobe => exact ⟨congrArg RoundTrip.timeout hround, hprobe⟩

/-- Without a measurement nothing else moves it. -/
theorem rto_of_unmeasured (h : s.Retimes scale op reply s') (hs : s.probe = none)
    (hexpires : op.expires reply = false) : s'.rto = s.rto := by
  cases h with
  | rests _ hround => exact congrArg RoundTrip.timeout hround
  | measures hprobe =>
    rw [hs] at hprobe
    cases hprobe
  | sends _ hround => exact congrArg RoundTrip.timeout hround
  | resends => cases hexpires

/-- A measurement begins only with a flight that is not flagged. -/
theorem unmeasured (h : s.Retimes scale op reply s') (hs : s.probe = none)
    (hreply : reply.startsAfresh = false) : s'.probe = none := by
  cases h with
  | rests _ _ hprobe => exact hprobe.elim id (·.trans hs)
  | measures _ hended => exact hended
  | sends _ _ hprobe => exact hprobe (by simpa using hreply)
  | resends _ _ _ hprobe => exact hprobe

end Retimes

/-! ### Runs -/

theorem floored_of_runBy (h : s.runBy scale operations = .ok (log, s'))
    (hs : s.roundTrip.Floored floor) : s'.roundTrip.Floored floor :=
  of_runBy (P := fun _ s => s.roundTrip.Floored floor)
    (fun hm hperform => (retimes_of_performBy hperform).floored hm) hs h

theorem expiries_concat (log : SenderLog) (op : SenderOperation) (reply : SenderReply) :
    SenderLog.expiries (log ++ [(op, reply)]) =
      log.expiries + if op.expires reply = true then 1 else 0 := by
  unfold SenderLog.expiries
  rw [List.countP_append, List.countP_singleton]

/-- Until a measurement begins, the timeout doubles as often as a timer expires,
    and does nothing else. -/
theorem rto_of_unmeasured_runBy (h : s.runBy scale operations = .ok (log, s')) (hs : s.probe = none)
    (hlog : ∀ entry ∈ log, entry.2.startsAfresh = false) :
    s'.rto = s.rto.timesSat (2 ^ log.expiries) ∧ s'.probe = none := by
  refine of_runBy (P := fun log m => (∀ entry ∈ log, entry.2.startsAfresh = false) →
    m.rto = s.rto.timesSat (2 ^ log.expiries) ∧ m.probe = none) ?_
    (fun _ => ⟨(Duration.timesSat_one _).symm, hs⟩) h hlog
  intro m m' log op reply hm hperform hlog
  have hretimes := retimes_of_performBy hperform
  obtain ⟨hrto, hprobe⟩ := hm fun entry hmem => hlog entry (List.mem_append_left _ hmem)
  have hreply : reply.startsAfresh = false := hlog (op, reply) (by simp)
  refine ⟨?_, hretimes.unmeasured hprobe hreply⟩
  rw [expiries_concat]
  cases hexpires : op.expires reply with
  | true =>
    rw [(hretimes.rto_of_expires hexpires).1, hrto, Duration.timesSat_timesSat _ _ Nat.two_pos,
      if_pos rfl, Nat.pow_succ]
  | false =>
    rw [hretimes.rto_of_unmeasured hprobe hexpires, hrto, if_neg Bool.false_ne_true, Nat.add_zero]

/-! ### The result -/

/-- How the timeout of a sender backs off after the timer of a window expired
    and left `s'` of it. -/
structure BacksOff (scale : Duration → Nat → Nat → Duration) (s s' : Sender) : Prop where
  doubled : s'.rto = s.rto.timesSat 2
  /-- Until a flight that is not flagged, each timer that expires doubles it
      again. -/
  powers : ∀ operations log s'', s'.runBy scale operations = .ok (log, s'') →
    (∀ entry ∈ log, entry.2.startsAfresh = false) →
      s''.rto = s.rto.timesSat (2 ^ (log.expiries + 1))
  /-- Nothing else changes it, that flight itself included. -/
  persists : ∀ operations log s'', s'.runBy scale operations = .ok (log, s'') →
    (∀ entry ∈ log, entry.2.startsAfresh = false) →
      ∀ op reply s''', s''.performBy scale op = .ok (reply, s''') →
        op.expires reply = false → s'''.rto = s''.rto

theorem Retimes.backsOff (h : s.Retimes scale op reply s') (hexpires : op.expires reply = true) :
    BacksOff scale s s' := by
  obtain ⟨hdoubled, hprobe⟩ := h.rto_of_expires hexpires
  refine ⟨hdoubled, ?_, ?_⟩
  · intro operations log s'' hrun hlog
    rw [(rto_of_unmeasured_runBy hrun hprobe hlog).1, hdoubled,
      Duration.timesSat_timesSat _ _ (Nat.two_pow_pos _), Nat.pow_succ']
  · intro operations log s'' hrun hlog op reply s''' hperform hother
    exact (retimes_of_performBy hperform).rto_of_unmeasured
      (rto_of_unmeasured_runBy hrun hprobe hlog).2 hother

/-- **Back-off.** Whatever rule the fractions of durations are taken by, after
    any run of a new sender on which nothing faults its timeout is at the floor or
    above it. So is the timeout of every flight, which is as many timeouts as it
    has segments. A timer that expires doubles the timeout, and until a flight
    goes out that is not flagged, only the next ones that expire change it. The
    longest duration is where all multiples are cut off. -/
theorem timeout_backs_off (scale : Duration → Nat → Nat → Duration) (shape : BufferShape)
    (timers : Timers) (isn rwnd : UInt32) {operations : List SenderOperation} {log : SenderLog}
    {s : Sender} (hrun : (create shape timers isn rwnd).runBy scale operations = .ok (log, s)) :
    (∀ s op, performBy Duration.scale s op = s.perform op) ∧
    timers.minRto ≤ s.rto ∧
    (∀ op flight s', s.performBy scale op = .ok (.flight (some flight), s') →
      flight.timeout = s'.rto.timesSat flight.segments.length ∧
        timers.minRto ≤ flight.timeout) ∧
    ∀ generation srcPort dstPort now flight s',
      s.performBy scale (.windowTimeout generation srcPort dstPort now) =
        .ok (.flight (some flight), s') → BacksOff scale s s' := by
  have hfloored := floored_of_runBy hrun (RoundTrip.floored_create timers)
  refine ⟨performBy_scale, hfloored.floor_le, ?_, ?_⟩
  · intro op flight s' hperform
    have hretimes := retimes_of_performBy hperform
    exact ⟨hretimes.awaits.timeout,
      hretimes.awaits.le_timeout (hretimes.floored hfloored).floor_le⟩
  · intro generation srcPort dstPort now flight s' hperform
    exact (retimes_of_performBy hperform).backsOff rfl

/-- A round trip of no time takes the timeout to its floor of one millisecond.
    Then the timer of a flight expires twice. What comes between the two, the
    acknowledgment of a part of that flight included, measures nothing. -/
theorem small_timeout_backs_off : ∃ (log later : SenderLog) (s s' s'' : Sender) (flight : Flight),
    (create Transcript.smallProfile.shape Transcript.smallProfile.timers 4_294_967_294 7).runBy
      Duration.scale [.write [1, 2, 3, 4, 5], .nextWindow 5000 80 .zero, .ack 1 7 .zero,
        .nextWindow 5000 80 .zero] = .ok (log, s) ∧
    s.rto = .ofMillis 1 ∧ s.probe.isSome ∧
    s.performBy Duration.scale (.windowTimeout 2 5000 80 (.ofMillis 2)) =
      .ok (.flight (some flight), s') ∧
    flight.segments.length = 2 ∧ flight.timeout = .ofMillis 4 ∧
    s'.runBy Duration.scale [.ack 3 7 (.ofMillis 3), .write [6],
      .windowTimeout 3 5000 80 (.ofMillis 6), .receiverWindow 2, .abandon] = .ok (later, s'') ∧
    s''.rto = .ofMillis 4 := by
  have hrun : (create Transcript.smallProfile.shape Transcript.smallProfile.timers
    4_294_967_294 7).runBy Duration.scale [.write [1, 2, 3, 4, 5], .nextWindow 5000 80 .zero,
      .ack 1 7 .zero, .nextWindow 5000 80 .zero] = .ok (_, _) := rfl
  obtain ⟨-, -, hflight, hbacksOff⟩ := timeout_backs_off _ _ _ _ _ hrun
  have expired := hbacksOff 2 5000 80 (.ofMillis 2) _ _ rfl
  have waited := hflight (.windowTimeout 2 5000 80 (.ofMillis 2)) _ _ rfl
  have powers := expired.powers [.ack 3 7 (.ofMillis 3), .write [6],
    .windowTimeout 3 5000 80 (.ofMillis 6), .receiverWindow 2, .abandon] _ _ rfl (by decide +kernel)
  refine ⟨_, _, _, _, _, _, hrun, by decide +kernel, rfl, rfl, by decide +kernel, ?_, rfl, ?_⟩
  · rw [waited.1]
    decide +kernel
  · rw [powers]
    decide +kernel

end Sender

end ReliableStream
