import ReliableStream.Proofs.Flight
import ReliableStream.Proofs.SenderRuns
/-! # Which acknowledgments a sender accepts

    An acknowledgment is accepted if it lies between the oldest unacknowledged
    byte and the end of everything sent. Two comparisons find out, and each
    sees half of a turn. There is one number that both of them let pass
    although it lies beyond: with nothing to acknowledge, the number on the
    **opposite** side of the turn.

    A sender that accepts it goes **astray**: it takes itself to be half a turn
    away from its buffer, and as long as it does, it sends nothing. All that
    leads it back is an acknowledgment of everything it ever sent, or giving
    up. A sender that never receives an opposite acknowledgment accepts
    exactly what is outstanding. -/

namespace ReliableStream.Sender

open Sequence

variable {s s' : Sender} {ack window : UInt32} {now : Duration}

/-! ### Senders astray -/

/-- The oldest unacknowledged byte is the first one of the buffer. -/
def InStep (s : Sender) : Prop := s.buffer.baseSeq = s.sndUna

instance (s : Sender) : Decidable s.InStep := inferInstanceAs (Decidable (_ = _))

/-- A sender that accepted an opposite acknowledgment. Its buffer starts where
    everything sent ends, up to half a turn after the byte that it takes to be
    the oldest. -/
structure Astray (s : Sender) : Prop where
  base : s.buffer.baseSeq = s.sndMax
  capacity_le : s.buffer.capacity ≤ 2_147_483_648
  extent_pos : 0 < s.extent
  extent_le : s.extent ≤ 2_147_483_648
  window_lt : steps s.winEnd s.sndMax < 2_147_483_648
  congestion : s.congestion.Bounded

/-- What is true of a sender after any run. -/
def Tracked (s : Sender) : Prop := s.Sound ∨ s.Astray

theorem Astray.not_inStep (h : s.Astray) : ¬ s.InStep := by
  intro hbase
  have hpos := h.extent_pos
  unfold InStep at hbase
  unfold extent at hpos
  rw [← hbase, h.base, steps_self] at hpos
  omega

theorem Tracked.extent_le (h : s.Tracked) : s.extent ≤ 2_147_483_648 := by
  rcases h with hsound | hastray
  · exact Nat.le_of_lt hsound.extent_lt
  · exact hastray.extent_le

/-- No byte of the buffer has a number that an astray sender could send next. -/
theorem Astray.place?_eq_none (h : s.Astray) : s.cutBuffer.place? s.sndUna = none := by
  have hpos := h.extent_pos
  have hle := h.extent_le
  have hused : s.buffer.used < 2_147_483_648 := Nat.lt_of_lt_of_le s.buffer.used_lt h.capacity_le
  have hback := steps_chain s.sndUna s.sndMax s.sndUna
  have hself := steps_self s.sndUna
  have hlt := steps_lt s.sndMax s.sndUna
  have hbase : s.cutBuffer.baseSeq = s.sndMax := h.base
  have hsame : s.cutBuffer.used = s.buffer.used := rfl
  unfold extent at hpos hle
  unfold StreamBuffer.place?
  rw [hbase, hsame, if_neg (by omega)]

theorem Astray.nextWindow?_eq_none (h : s.Astray) (srcPort dstPort : UInt16) (now : Duration) :
    s.nextWindow? srcPort dstPort now = none := by
  rw [Option.eq_none_iff_forall_ne_some]
  rintro ⟨flight, s'⟩ hsome
  obtain ⟨hsegments, hne⟩ := segments_of_nextWindow? hsome
  apply hne
  rw [hsegments]
  unfold StreamBuffer.cut
  rw [h.place?_eq_none]

theorem Astray.onWindowTimeout?_eq_none (h : s.Astray) (generation : Nat)
    (srcPort dstPort : UInt16) (now : Duration) :
    s.onWindowTimeout? generation srcPort dstPort now = none := by
  unfold onWindowTimeout?
  rw [h.nextWindow?_eq_none]
  split
  · rfl
  · rfl

/-! ### What acknowledgments do -/

/-- An acknowledgment is accepted exactly if it is outstanding or opposed. -/
theorem Noted.advanced_iff {outcome : AckOutcome} (h : s.Noted ack window outcome s')
    (hextent : s.extent ≤ 2_147_483_648) :
    (∃ bytes complete, outcome = .advanced bytes complete) ↔
      s.Outstanding ack ∨ s.Opposed ack := by
  rw [← passes_iff hextent]
  cases h with
  | duplicate hbehind =>
    rw [hbehind]
    exact ⟨nofun, nofun⟩
  | ignored hahead hbeyond =>
    rw [hbeyond]
    exact ⟨nofun, nofun⟩
  | advanced _ _ hahead hwithin _ _ =>
    exact ⟨fun _ => ⟨hahead, hwithin⟩, fun _ => ⟨_, _, rfl⟩⟩

/-- One that is not accepted leaves everything as it is, but for the duplicates
    that congestion control counts. -/
theorem Noted.refused {outcome : AckOutcome} (h : s.Noted ack window outcome s')
    (hrefused : ¬ ∃ bytes complete, outcome = .advanced bytes complete) :
    outcome = .duplicate ∧ s' = { s with congestion := s.congestion.onDuplicateAck } ∨
      outcome = .ignored ∧ s' = s := by
  cases h with
  | duplicate _ => exact .inl ⟨rfl, rfl⟩
  | ignored _ _ => exact .inr ⟨rfl, rfl⟩
  | advanced => exact absurd ⟨_, _, rfl⟩ hrefused

/-- An acknowledgment that is refused keeps a sender sound, and so does one of
    what is outstanding. -/
theorem Sound.noted {outcome : AckOutcome} (h : s.Sound) (hnoted : s.Noted ack window outcome s')
    (hopposed : ¬ s.Opposed ack) : s'.Sound := by
  have hpasses := passes_iff (Nat.le_of_lt h.extent_lt) ack
  cases hnoted with
  | duplicate hbehind => exact h.acked (Acked.duplicate hbehind : s.Acked ack window _ _)
  | ignored hahead hbeyond => exact h
  | advanced roundTrip probe hahead hwithin hprobe _ =>
    rcases hpasses.mp ⟨hahead, hwithin⟩ with hle | hopposed'
    · exact h.acked (.advanced roundTrip probe hle hprobe)
    · exact absurd hopposed' hopposed

/-- One that is opposed leads a sound sender astray. -/
theorem Sound.astray {outcome : AckOutcome} (h : s.Sound) (hnoted : s.Noted ack window outcome s')
    (hopposed : s.Opposed ack) : s'.Astray := by
  obtain ⟨hidle, hhalf⟩ := hopposed
  have hpasses := (passes_iff (Nat.le_of_lt h.extent_lt) ack).mpr (.inr ⟨hidle, hhalf⟩)
  have hround := steps_chain s.sndUna ack s.sndUna
  have hself := steps_self s.sndUna
  have hlt := steps_lt ack s.sndUna
  -- The buffer has no byte of that number to release.
  have hrelease : s.buffer.release ack = (0, s.buffer) := by
    have hused : s.buffer.used < 2_147_483_648 := h.buffered_lt
    refine s.buffer.release_of_lt ?_
    rw [h.base]
    omega
  cases hnoted with
  | duplicate hbehind =>
    rw [hbehind] at hpasses
    cases hpasses.1
  | ignored hahead hbeyond =>
    rw [hbeyond] at hpasses
    cases hpasses.2
  | advanced roundTrip probe hahead hwithin hprobe _ =>
    rw [hrelease]
    refine ⟨h.base.trans hidle, h.capacity_le, ?_, ?_, h.window_lt,
      Congestion.bounded_onNewAck h.congestion⟩
    · show 0 < steps ack s.sndMax
      rw [← hidle]
      omega
    · show steps ack s.sndMax ≤ _
      rw [← hidle]
      omega

/-- An astray sender stays astray, unless everything it ever sent is
    acknowledged. -/
theorem Astray.noted {outcome : AckOutcome} (h : s.Astray)
    (hnoted : s.Noted ack window outcome s') :
    ack ≠ s.sndMax ∧ s'.Astray ∨ ack = s.sndMax ∧ s'.Sound := by
  have hpasses := passes_iff h.extent_le ack
  -- An acknowledgment of everything is outstanding, so it is not refused.
  have hends : ack = s.sndMax → before ack s.sndUna = false ∧ before s.sndMax ack = false := by
    rintro rfl
    exact hpasses.mpr (.inl (Nat.le_refl _))
  cases hnoted with
  | duplicate hbehind =>
    refine .inl ⟨?_, h.base, h.capacity_le, h.extent_pos, h.extent_le, h.window_lt,
      Congestion.bounded_onDuplicateAck h.congestion⟩
    intro hall
    rw [(hends hall).1] at hbehind
    cases hbehind
  | ignored hahead hbeyond =>
    refine .inl ⟨?_, h⟩
    intro hall
    rw [(hends hall).2] at hbeyond
    cases hbeyond
  | advanced roundTrip probe hahead hwithin hprobe _ =>
    have hpos := h.extent_pos
    have hle := h.extent_le
    unfold extent at hpos hle
    by_cases hall : ack = s.sndMax
    · have hplace : steps s.buffer.baseSeq ack ≤ s.buffer.used := by
        rw [h.base, hall, steps_self]
        exact Nat.zero_le _
      refine .inr ⟨hall, s.buffer.baseSeq_release hplace, ?_, ?_, h.window_lt,
        Congestion.bounded_onNewAck h.congestion⟩
      · show (s.buffer.release ack).2.capacity ≤ _
        rw [StreamBuffer.capacity_release]
        exact h.capacity_le
      · show steps ack s.sndMax ≤ _
        rw [hall, steps_self]
        exact Nat.zero_le _
    · have hwithin' : steps s.sndUna ack ≤ steps s.sndUna s.sndMax := by
        rcases hpasses.mp ⟨hahead, hwithin⟩ with hout | ⟨hidle, -⟩
        · exact hout
        · rw [hidle, steps_self] at hpos
          omega
      have hleft : 0 < steps ack s.sndMax := by
        rw [Nat.pos_iff_ne_zero]
        intro hzero
        exact hall (steps_eq_zero_iff.mp hzero)
      have hchain := steps_chain s.sndUna ack s.sndMax
      have hround := steps_chain s.sndMax ack s.sndMax
      have hself := steps_self s.sndMax
      have hlt := steps_lt ack s.sndMax
      have hlt' := steps_lt s.sndMax ack
      -- The buffer has no byte of that number to release.
      have hrelease : s.buffer.release ack = (0, s.buffer) := by
        have hused : s.buffer.used < 2_147_483_648 :=
          Nat.lt_of_lt_of_le s.buffer.used_lt h.capacity_le
        refine s.buffer.release_of_lt ?_
        rw [h.base]
        omega
      rw [hrelease]
      refine .inl ⟨hall, h.base, h.capacity_le, hleft, ?_, h.window_lt,
        Congestion.bounded_onNewAck h.congestion⟩
      show steps ack s.sndMax ≤ _
      omega

/-- A sender is in step after an acknowledgment if it was before and is not led
    astray, or if it is led back. -/
theorem Tracked.inStep_iff {outcome : AckOutcome} (h : s.Tracked)
    (hnoted : s.Noted ack window outcome s') :
    s'.InStep ↔ s.InStep ∧ ¬ s.Opposed ack ∨ ack = s.sndMax := by
  rcases h with hsound | hastray
  · have hstep : s.InStep := hsound.base
    by_cases hopposed : s.Opposed ack
    · have hne : ack ≠ s.sndMax := by
        rintro rfl
        have hhalf := hopposed.2
        rw [hopposed.1, steps_self] at hhalf
        cases hhalf
      simp [hopposed, hne, (hsound.astray hnoted hopposed).not_inStep]
    · have hstep' : s'.InStep := (hsound.noted hnoted hopposed).base
      simp [hstep, hopposed, hstep']
  · have hout := hastray.not_inStep
    rcases hastray.noted hnoted with ⟨hne, hstill⟩ | ⟨hall, hback⟩
    · simp [hout, hne, hstill.not_inStep]
    · have hstep' : s'.InStep := hback.base
      simp [hall, hstep']

/-- A fault is one of the round trip estimate, after an acknowledgment that is
    accepted and ends the measurement. -/
theorem passes_of_onAck_eq_error {fault : Fault} (h : s.onAck ack window now = .error fault) :
    (before ack s.sndUna = false ∧ before s.sndMax ack = false) ∧
      ∃ probe, s.probe = some probe ∧ probe.expectedAck = ack ∧
        s.roundTrip.record (now.subSat probe.sentAt) = .error fault := by
  unfold onAck at h
  split at h
  · cases h
  · next hahead =>
    split at h
    · cases h
    · next hwithin =>
      refine ⟨⟨Bool.not_eq_true _ ▸ hahead, Bool.not_eq_true _ ▸ hwithin⟩, ?_⟩
      dsimp only [finishProbe] at h
      cases hprobe : s.probe with
      | none =>
        rw [hprobe] at h
        cases h
      | some probe =>
        rw [hprobe] at h
        dsimp only at h
        split at h
        · next hexpected =>
          refine ⟨probe, rfl, hexpected, ?_⟩
          generalize s.roundTrip.record (now.subSat probe.sentAt) = recorded at h ⊢
          cases recorded with
          | error fault' => cases h; rfl
          | ok roundTrip => cases h
        · cases h

/-! ### Runs -/

theorem Tracked.write (h : s.Tracked) (bytes : List UInt8) : (s.write bytes).2.Tracked := by
  rcases h with hsound | hastray
  · exact .inl (hsound.write bytes)
  · refine .inr ⟨hastray.base, ?_, hastray.extent_pos, hastray.extent_le, hastray.window_lt,
      hastray.congestion⟩
    show (s.buffer.write bytes).2.capacity ≤ _
    rw [StreamBuffer.capacity_write]
    exact hastray.capacity_le

theorem Tracked.withReceiverWindow (h : s.Tracked) (rwnd : UInt32) :
    (s.withReceiverWindow rwnd).Tracked := by
  rcases h with hsound | hastray
  · exact .inl (hsound.withReceiverWindow rwnd)
  · exact .inr ⟨hastray.base, hastray.capacity_le, hastray.extent_pos, hastray.extent_le,
      hastray.window_lt, hastray.congestion⟩

/-- Giving up leads an astray sender back. -/
theorem Tracked.abandon (h : s.Tracked) : s.abandon.Sound := by
  rcases h with hsound | hastray
  · exact hsound.abandon.1
  · refine sound_abandon hastray.capacity_le ?_ hastray.congestion
    rw [hastray.base, steps_self]
    exact Nat.zero_le _

/-- The operation is an acknowledgment that is opposed. -/
def Opposes (s : Sender) : SenderOperation → Prop
  | .ack ack _ _ => s.Opposed ack
  | _ => False

instance (s : Sender) (op : SenderOperation) : Decidable (s.Opposes op) := by
  cases op <;> unfold Opposes <;> infer_instance

variable {op : SenderOperation} {reply : SenderReply} {operations : List SenderOperation}

/-- Without opposed acknowledgments a sender stays sound. -/
theorem Sound.performs (h : s.Sound) (hperforms : s.Performs op reply s')
    (hopposes : ¬ s.Opposes op) : s'.Sound := by
  cases hperforms with
  | write => exact h.write _
  | launched hsent => exact (h.launch_of_nextWindow? hsent).sound
  | nothing _ => exact h
  | acked hack => exact h.noted (noted_of_onAck hack) hopposes
  | relaunched hsent => exact (h.launch_of_onWindowTimeout? hsent).sound
  | moot _ => exact h
  | receiverWindow => exact h.withReceiverWindow _
  | abandoned => exact h.abandon.1

/-- Whatever happens, a sender is sound or astray. -/
theorem Tracked.performs (h : s.Tracked) (hperforms : s.Performs op reply s') : s'.Tracked := by
  rcases h with hsound | hastray
  · by_cases hopposes : s.Opposes op
    · cases hperforms with
      | acked hack => exact .inr (hsound.astray (noted_of_onAck hack) hopposes)
      | _ => exact absurd hopposes id
    · exact .inl (hsound.performs hperforms hopposes)
  · cases hperforms with
    | write => exact Tracked.write (.inr hastray) _
    | launched hsent =>
      rw [hastray.nextWindow?_eq_none] at hsent
      cases hsent
    | nothing _ => exact .inr hastray
    | acked hack =>
      rcases hastray.noted (noted_of_onAck hack) with ⟨-, hstill⟩ | ⟨-, hback⟩
      · exact .inr hstill
      · exact .inl hback
    | relaunched hsent =>
      rw [hastray.onWindowTimeout?_eq_none] at hsent
      cases hsent
    | moot _ => exact .inr hastray
    | receiverWindow => exact Tracked.withReceiverWindow (.inr hastray) _
    | abandoned => exact .inl (Tracked.abandon (.inr hastray))

/-- No operation of a run is an acknowledgment that is opposed. -/
def Guided (s : Sender) : List SenderOperation → Prop
  | [] => True
  | op :: rest => ¬ s.Opposes op ∧ ∀ reply s', s.perform op = .ok (reply, s') → s'.Guided rest

/-- A run is guided if its first operation is and what follows is. -/
theorem guided_cons {next : Sender} (h : s.perform op = .ok (reply, next)) :
    s.Guided (op :: operations) ↔ ¬ s.Opposes op ∧ next.Guided operations := by
  refine and_congr_right fun _ => ⟨fun hrest => hrest reply next h, fun hrest reply' next' h' => ?_⟩
  rw [h] at h'
  cases h'
  exact hrest

/-- A run that faults at once is guided if its first operation is. -/
theorem guided_of_error {fault : Fault} (h : s.perform op = .error fault) :
    s.Guided (op :: operations) ↔ ¬ s.Opposes op := by
  refine ⟨And.left, fun hopposes => ⟨hopposes, fun reply next h' => ?_⟩⟩
  rw [h] at h'
  cases h'

instance decidableGuided : (s : Sender) → (operations : List SenderOperation) →
    Decidable (s.Guided operations)
  | _, [] => .isTrue trivial
  | s, op :: rest =>
    match h : s.perform op with
    | .error _ => decidable_of_iff' _ (guided_of_error h)
    | .ok (_, next) =>
      have := decidableGuided next rest
      decidable_of_iff' _ (guided_cons h)

/-- A guided run never goes astray. -/
theorem Sound.play (h : s.Sound) (hguided : s.Guided operations)
    (hplay : (s.play operations).2 = .ok s') : s'.Sound := by
  induction operations generalizing s with
  | nil =>
    cases hplay
    exact h
  | cons op rest ih =>
    obtain ⟨hopposes, hrest⟩ := hguided
    obtain ⟨⟨reply, next⟩, hperform, hfinal⟩ := Transducer.exists_of_final_cons hplay
    exact ih (h.performs (performs_of_perform hperform) hopposes) (hrest reply next hperform) hfinal

theorem tracked_of_play {shape : BufferShape} (hsize : shape.capacity ≤ 2_147_483_648)
    {timers : Timers} {isn rwnd : UInt32}
    (hplay : ((create shape timers isn rwnd).play operations).2 = .ok s) : s.Tracked :=
  of_play (fun h hperforms => h.performs hperforms) (.inl (sound_create hsize timers isn rwnd))
    hplay

/-- **What a sender accepts.** After any run of a new sender, with any
    acknowledgments: one more is accepted exactly if it is outstanding or
    opposed; all others leave the sender as it is, but for the duplicates
    that congestion control counts. It takes effect, unless it is accepted and
    ends a measurement that the round trip estimate cannot take in. After it,
    the sender is in step with its buffer if it was before and the
    acknowledgment is not opposed, or if everything ever sent is
    acknowledged. A sender out of step sends nothing, and one is never out of
    step after a guided run. -/
theorem accepts_outstanding_or_opposed {shape : BufferShape}
    (hsize : shape.capacity ≤ 2_147_483_648) {timers : Timers} {isn rwnd : UInt32}
    (hplay : ((create shape timers isn rwnd).play operations).2 = .ok s) :
    (∀ ack window now outcome s', s.onAck ack window now = .ok (outcome, s') →
      ((∃ bytes complete, outcome = .advanced bytes complete) ↔
        s.Outstanding ack ∨ s.Opposed ack) ∧
      (¬ (s.Outstanding ack ∨ s.Opposed ack) →
        outcome = .duplicate ∧ s' = { s with congestion := s.congestion.onDuplicateAck } ∨
          outcome = .ignored ∧ s' = s) ∧
      (s'.InStep ↔ s.InStep ∧ ¬ s.Opposed ack ∨ ack = s.sndMax)) ∧
    (∀ ack window now fault, s.onAck ack window now = .error fault →
      (s.Outstanding ack ∨ s.Opposed ack) ∧ ∃ probe, s.probe = some probe ∧
        probe.expectedAck = ack ∧
        s.roundTrip.record (now.subSat probe.sentAt) = .error fault) ∧
    (¬ s.InStep → ∀ srcPort dstPort now, s.nextWindow? srcPort dstPort now = none) ∧
    ((create shape timers isn rwnd).Guided operations → s.InStep) := by
  have htracked := tracked_of_play hsize hplay
  have hextent := htracked.extent_le
  refine ⟨?_, ?_, ?_, ?_⟩
  · intro ack window now outcome s' hack
    have hnoted := noted_of_onAck hack
    have hadvanced := hnoted.advanced_iff hextent
    refine ⟨hadvanced, ?_, htracked.inStep_iff hnoted⟩
    intro hrefused
    exact hnoted.refused fun h => hrefused (hadvanced.mp h)
  · intro ack window now fault hack
    obtain ⟨hpasses, hprobe⟩ := passes_of_onAck_eq_error hack
    exact ⟨(passes_iff hextent ack).mp hpasses, hprobe⟩
  · intro hout
    rcases htracked with hsound | hastray
    · exact absurd hsound.base hout
    · exact hastray.nextWindow?_eq_none
  · intro hguided
    exact ((sound_create hsize timers isn rwnd).play hguided hplay).base

/-- A new sender accepts a number half a turn ahead, of which nothing was ever
    sent, and is out of step with its buffer then. -/
theorem accepts_what_was_never_sent : ∃ s s' : Sender,
    s = create ⟨8, 4, by decide, by decide⟩ {} 0 8 ∧
      ¬ steps s.sndUna 2_147_483_649 ≤ steps s.sndUna s.sndMax ∧
      s.onAck 2_147_483_649 8 .zero = .ok (.advanced 0 false, s') ∧
      s'.sndUna = 2_147_483_649 ∧ s'.buffer.baseSeq = 1 ∧ s'.congestion.cwnd = 8 :=
  ⟨_, _, rfl, by decide, rfl, rfl, rfl, rfl⟩

/-- The two bytes that are written to it then stay where they are, until the
    number before them is acknowledged. -/
theorem strays_and_returns : ∃ s : Sender,
    ((create ⟨8, 4, by decide, by decide⟩ {} 0 8).play
      [.ack 2_147_483_649 8 .zero, .write [0xaa, 0xbb]]).2 = .ok s ∧
      s.buffered = 2 ∧ ¬ s.InStep ∧
      (∀ srcPort dstPort now, s.nextWindow? srcPort dstPort now = none) ∧
      ∃ s', s.onAck 1 8 .zero = .ok (.advanced 0 true, s') ∧ s'.InStep := by
  have hplay : ((create ⟨8, 4, by decide, by decide⟩ {} 0 8).play
      [.ack 2_147_483_649 8 .zero, .write [0xaa, 0xbb]]).2 = .ok _ := rfl
  obtain ⟨haccepts, -, hsilent, -⟩ := accepts_outstanding_or_opposed (by decide) hplay
  exact ⟨_, hplay, rfl, by decide, hsilent (by decide), _, rfl,
    (haccepts 1 8 .zero _ _ rfl).2.2.mpr (.inr rfl)⟩

end ReliableStream.Sender
