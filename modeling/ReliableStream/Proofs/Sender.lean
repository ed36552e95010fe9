import ReliableStream.Flow.Sender
import ReliableStream.Proofs.Buffer
/-! # The sequence state of a sender

    A **sound** sender starts its buffer at the oldest unacknowledged byte, has
    sent nothing beyond the buffer, and has the end of its latest window at
    most `2 ^ 31` steps behind the end of everything ever sent. All four
    numbers then lie within one half turn, so that every comparison between
    them is a comparison of distances. Every operation keeps a sender sound,
    acknowledgments from exactly the opposite side of the turn excepted. -/

namespace ReliableStream

/-- How many bytes an acknowledgment freed. -/
def AckOutcome.freed : AckOutcome → Nat
  | .advanced bytes _ => bytes
  | .duplicate | .ignored => 0

namespace Congestion

/-- Both windows of the controller are 32 bit quantities. -/
structure Bounded (c : Congestion) : Prop where
  mss : c.mss ≤ maxWindow
  cwnd : c.cwnd ≤ maxWindow
  ssthresh : c.ssthresh ≤ maxWindow

theorem addSat_le (a b : Nat) : addSat a b ≤ maxWindow := Nat.min_le_right ..

theorem bounded_onNewAck {c : Congestion} (h : c.Bounded) : c.onNewAck.Bounded := by
  unfold onNewAck
  split
  · exact ⟨h.mss, addSat_le _ _, h.ssthresh⟩
  · exact ⟨h.mss, addSat_le _ _, h.ssthresh⟩
  · exact ⟨h.mss, h.ssthresh, h.ssthresh⟩

theorem bounded_onDuplicateAck {c : Congestion} (h : c.Bounded) : c.onDuplicateAck.Bounded := by
  have hhalf : c.cwnd / 2 ≤ maxWindow := Nat.le_trans (Nat.div_le_self ..) h.cwnd
  unfold onDuplicateAck
  split
  · exact ⟨h.mss, addSat_le _ _, h.ssthresh⟩
  · split
    · exact ⟨h.mss, addSat_le _ _, hhalf⟩
    · exact ⟨h.mss, h.cwnd, h.ssthresh⟩

theorem bounded_onTimeout {c : Congestion} (h : c.Bounded) : c.onTimeout.Bounded :=
  ⟨h.mss, h.mss, Nat.le_trans (Nat.div_le_self ..) h.cwnd⟩

end Congestion

namespace Sender

open Sequence

/-- The sequence state hangs together. -/
structure Sound (s : Sender) : Prop where
  base : s.buffer.baseSeq = s.sndUna
  capacity_le : s.buffer.capacity ≤ 2_147_483_648
  sent_le : steps s.sndUna s.sndMax ≤ s.buffered
  window_lt : steps s.winEnd s.sndMax < 2_147_483_648
  congestion : s.congestion.Bounded

theorem isDrained_iff (s : Sender) : s.isDrained = true ↔ s.buffered = 0 := s.buffer.isEmpty_iff

theorem Sound.buffered_lt {s : Sender} (h : s.Sound) : s.buffered < 2_147_483_648 :=
  Nat.lt_of_lt_of_le s.buffer.used_lt h.capacity_le

/-- Nothing is under way exactly if the latest window ends no later than the
    oldest unacknowledged byte, both seen from the end of everything sent. -/
theorem Sound.isIdle_iff {s : Sender} (h : s.Sound) :
    s.isIdle = true ↔ steps s.sndUna s.sndMax ≤ steps s.winEnd s.sndMax := by
  have hsent := h.sent_le
  have hbuffered := h.buffered_lt
  have hwindow := h.window_lt
  have hchain := steps_chain s.sndUna s.winEnd s.sndMax
  have hlt := steps_lt s.sndUna s.winEnd
  unfold isIdle
  rw [Bool.not_eq_true', ← Bool.not_eq_true, before_iff]
  omega

theorem sound_create {shape : BufferShape} (h : shape.capacity ≤ 2_147_483_648) (timers : Timers)
    (isn rwnd : UInt32) : (create shape timers isn rwnd).Sound where
  base := rfl
  capacity_le := h
  sent_le := by
    show steps (advance isn 1) (advance isn 1) ≤ _
    rw [steps_self]
    exact Nat.zero_le _
  window_lt := by
    show steps (advance isn 1) (advance isn 1) < _
    rw [steps_self]
    decide
  congestion := by
    have hmss := (UInt32.ofNat shape.mss).toNat_lt
    refine ⟨?_, ?_, ?_⟩
    · show (UInt32.ofNat shape.mss).toNat ≤ 4_294_967_295
      omega
    · show (UInt32.ofNat shape.mss).toNat ≤ 4_294_967_295
      omega
    · show shape.capacity % 4_294_967_296 ≤ 4_294_967_295
      omega

theorem Sound.withReceiverWindow {s : Sender} (h : s.Sound) (rwnd : UInt32) :
    (s.withReceiverWindow rwnd).Sound :=
  ⟨h.base, h.capacity_le, h.sent_le, h.window_lt, h.congestion⟩

theorem Sound.write {s : Sender} (h : s.Sound) (bytes : List UInt8) : (s.write bytes).2.Sound where
  base := h.base
  capacity_le := by
    show (s.buffer.write bytes).2.capacity ≤ _
    rw [StreamBuffer.capacity_write]
    exact h.capacity_le
  sent_le := Nat.le_trans h.sent_le (s.buffer.used_le_used_write bytes)
  window_lt := h.window_lt
  congestion := h.congestion

/-! ### Acknowledgments -/

/-- The acknowledgment lies within what is outstanding, its ends included. -/
def Outstanding (s : Sender) (ack : UInt32) : Prop :=
  steps s.sndUna ack ≤ steps s.sndUna s.sndMax

/-- Nothing is outstanding, and the acknowledgment is half a turn away. -/
def Opposed (s : Sender) (ack : UInt32) : Prop :=
  s.sndUna = s.sndMax ∧ steps s.sndUna ack = 2_147_483_648

instance (s : Sender) (ack : UInt32) : Decidable (s.Outstanding ack) :=
  inferInstanceAs (Decidable (_ ≤ _))

instance (s : Sender) (ack : UInt32) : Decidable (s.Opposed ack) :=
  inferInstanceAs (Decidable (_ ∧ _))

/-- The two comparisons of an acknowledgment let pass what is outstanding, and
    what is opposed. -/
theorem passes_iff {s : Sender} (hsent : steps s.sndUna s.sndMax ≤ 2_147_483_648) (ack : UInt32) :
    before ack s.sndUna = false ∧ before s.sndMax ack = false ↔
      s.Outstanding ack ∨ s.Opposed ack := by
  have hround := steps_chain ack s.sndUna ack
  have hchain := steps_chain s.sndMax s.sndUna ack
  have hback := steps_chain s.sndUna s.sndMax s.sndUna
  have hself := steps_self s.sndUna
  have hself' := steps_self ack
  have hlt := steps_lt s.sndUna ack
  have hlt' := steps_lt ack s.sndUna
  have hlt'' := steps_lt s.sndMax s.sndUna
  have hzero : s.sndUna = s.sndMax ↔ steps s.sndUna s.sndMax = 0 := steps_eq_zero_iff.symm
  unfold Outstanding Opposed
  rw [hzero, ← Bool.not_eq_true, ← Bool.not_eq_true, before_iff, before_iff]
  omega

/-- What an acknowledgment does to a sender. One that is accepted moves the
    oldest unacknowledged byte to it and releases what is before; only the
    round trip estimate and the end of its running measurement are left open
    here. -/
inductive Acked (s : Sender) (ack window : UInt32) : AckOutcome → Sender → Prop where
  | duplicate (hbehind : before ack s.sndUna = true) :
      Acked s ack window .duplicate { s with congestion := s.congestion.onDuplicateAck }
  | ignored (hahead : before ack s.sndUna = false) (hbeyond : before s.sndMax ack = true) :
      Acked s ack window .ignored s
  | advanced (roundTrip : RoundTrip) (probe : Option RoundTripProbe)
      (hle : steps s.sndUna ack ≤ steps s.sndUna s.sndMax)
      (hprobe : probe = none ∨ probe = s.probe) :
      Acked s ack window (.advanced (steps s.sndUna ack) (atOrBefore s.winEnd ack))
        { s with
          congestion := s.congestion.onNewAck
          buffer := (s.buffer.release ack).2
          sndUna := ack
          rwnd := window
          roundTrip
          probe }

theorem Acked.isn {s s' : Sender} {ack window : UInt32} {outcome : AckOutcome}
    (h : s.Acked ack window outcome s') : s'.isn = s.isn := by
  cases h <;> rfl

theorem Acked.mss {s s' : Sender} {ack window : UInt32} {outcome : AckOutcome}
    (h : s.Acked ack window outcome s') : s'.buffer.mss = s.buffer.mss := by
  cases h with
  | duplicate => rfl
  | ignored => rfl
  | advanced => exact s.buffer.mss_release ack

/-- Ending a measurement changes nothing but the estimate and the measurement.
    The estimate changes only where the measurement waited for this number. -/
theorem finishProbe_eq {s s' : Sender} {ack : UInt32} {now : Duration}
    (h : s.finishProbe ack now = .ok s') :
    ∃ roundTrip probe, s' = { s with roundTrip, probe } ∧ (probe = none ∨ probe = s.probe) ∧
      (roundTrip = s.roundTrip ∨ ∃ ended, s.probe = some ended ∧ ended.expectedAck = ack ∧
        s.roundTrip.record (now.subSat ended.sentAt) = .ok roundTrip) := by
  unfold finishProbe at h
  split at h
  · next probe hprobe =>
    split at h
    · next hack =>
      cases hr : s.roundTrip.record (now.subSat probe.sentAt) with
      | error e =>
        rw [hr] at h
        cases h
      | ok roundTrip =>
        rw [hr] at h
        cases h
        exact ⟨roundTrip, none, rfl, Or.inl rfl, Or.inr ⟨probe, hprobe, hack, hr⟩⟩
    · cases h
      exact ⟨s.roundTrip, s.probe, rfl, Or.inr rfl, Or.inl rfl⟩
  · cases h
    exact ⟨s.roundTrip, s.probe, rfl, Or.inr rfl, Or.inl rfl⟩

/-- What an acknowledgment does to any sender, whatever it acknowledges. -/
inductive Noted (s : Sender) (ack window : UInt32) : AckOutcome → Sender → Prop where
  | duplicate (hbehind : before ack s.sndUna = true) :
      Noted s ack window .duplicate { s with congestion := s.congestion.onDuplicateAck }
  | ignored (hahead : before ack s.sndUna = false) (hbeyond : before s.sndMax ack = true) :
      Noted s ack window .ignored s
  | advanced (roundTrip : RoundTrip) (probe : Option RoundTripProbe)
      (hahead : before ack s.sndUna = false) (hwithin : before s.sndMax ack = false)
      (hprobe : probe = none ∨ probe = s.probe)
      (hround : roundTrip = s.roundTrip ∨ ∃ sample, s.roundTrip.record sample = .ok roundTrip) :
      Noted s ack window (.advanced (s.buffer.release ack).1 (atOrBefore s.winEnd ack))
        { s with
          congestion := s.congestion.onNewAck
          buffer := (s.buffer.release ack).2
          sndUna := ack
          rwnd := window
          roundTrip
          probe }

theorem noted_of_onAck {s s' : Sender} {ack window : UInt32} {now : Duration} {o : AckOutcome}
    (e : s.onAck ack window now = .ok (o, s')) : s.Noted ack window o s' := by
  unfold onAck at e
  split at e
  · next hbehind =>
    cases e
    exact .duplicate hbehind
  · next hbehind =>
    split at e
    · next hbeyond =>
      cases e
      exact .ignored (Bool.not_eq_true _ ▸ hbehind) hbeyond
    · next hbeyond =>
      simp only at e
      -- Ending the measurement may fault; then there is no next state.
      generalize hfinish : finishProbe _ ack now = r at e
      cases r with
      | error f => cases e
      | ok s'' =>
        obtain ⟨roundTrip, probe, rfl, hprobe, hround⟩ := finishProbe_eq hfinish
        cases e
        exact .advanced roundTrip probe (Bool.not_eq_true _ ▸ hbehind)
          (Bool.not_eq_true _ ▸ hbeyond) hprobe
          (hround.imp_right fun ⟨ended, _, _, hrecord⟩ => ⟨_, hrecord⟩)

/-- The two comparisons of an acknowledgment accept exactly what lies between
    the oldest unacknowledged byte and the end of everything sent, unless the
    acknowledgment is half a turn away. -/
theorem acked_of_onAck {s s' : Sender} {ack window : UInt32} {now : Duration} {o : AckOutcome}
    (h : s.Sound) (hack : steps s.sndUna ack ≠ 2_147_483_648)
    (e : s.onAck ack window now = .ok (o, s')) : s.Acked ack window o s' := by
  cases noted_of_onAck e with
  | duplicate hbehind => exact .duplicate hbehind
  | ignored hahead hbeyond => exact .ignored hahead hbeyond
  | advanced roundTrip probe hahead hwithin hprobe =>
    have hle : steps s.sndUna ack ≤ steps s.sndUna s.sndMax := by
      have hsent := Nat.le_trans h.sent_le (Nat.le_of_lt h.buffered_lt)
      rcases (passes_iff hsent ack).mp ⟨hahead, hwithin⟩ with hout | hopposed
      · exact hout
      · exact absurd hopposed.2 hack
    have hplace : steps s.buffer.baseSeq ack ≤ s.buffer.used := by
      rw [h.base]
      exact Nat.le_trans hle h.sent_le
    have hfreed : (s.buffer.release ack).1 = steps s.sndUna ack := by
      rw [s.buffer.release_eq hplace, h.base]
    rw [hfreed]
    exact .advanced roundTrip probe hle hprobe

theorem Sound.acked {s s' : Sender} {ack window : UInt32} {o : AckOutcome} (h : s.Sound)
    (ha : s.Acked ack window o s') : s'.Sound := by
  cases ha with
  | duplicate =>
    exact ⟨h.base, h.capacity_le, h.sent_le, h.window_lt,
      Congestion.bounded_onDuplicateAck h.congestion⟩
  | ignored => exact h
  | advanced roundTrip probe hle =>
    have hplace : steps s.buffer.baseSeq ack ≤ s.buffer.used := by
      rw [h.base]
      exact Nat.le_trans hle h.sent_le
    refine ⟨s.buffer.baseSeq_release hplace, ?_, ?_, h.window_lt,
      Congestion.bounded_onNewAck h.congestion⟩
    · show (s.buffer.release ack).2.capacity ≤ _
      rw [StreamBuffer.capacity_release]
      exact h.capacity_le
    · show steps ack s.sndMax ≤ (s.buffer.release ack).2.used
      rw [s.buffer.used_release hplace, h.base]
      have hsent : steps s.sndUna s.sndMax ≤ s.buffer.used := h.sent_le
      have hbuffered := h.buffered_lt
      have hchain := steps_chain s.sndUna ack s.sndMax
      have hlt := steps_lt ack s.sndMax
      omega

/-- An acknowledgment says that the window is complete exactly if nothing is
    under way after it. -/
theorem Sound.windowComplete {s s' : Sender} {ack window : UInt32} {bytes : Nat} {complete : Bool}
    (h : s.Sound) (ha : s.Acked ack window (.advanced bytes complete) s') :
    complete = s'.isIdle := by
  have hsound := h.acked ha
  cases ha with
  | advanced roundTrip probe hle =>
    have hsent := h.sent_le
    have hbuffered := h.buffered_lt
    have hwindow := h.window_lt
    have hchain := steps_chain s.winEnd ack s.sndMax
    have hchain' := steps_chain s.sndUna ack s.sndMax
    have hlt := steps_lt s.winEnd ack
    have hlt' := steps_lt ack s.sndMax
    rw [Bool.eq_iff_iff, atOrBefore_iff, hsound.isIdle_iff]
    show steps s.winEnd ack < 2_147_483_648 ↔ steps ack s.sndMax ≤ steps s.winEnd s.sndMax
    omega

end Sender

end ReliableStream
