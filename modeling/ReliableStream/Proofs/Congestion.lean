import Mathlib.Data.List.DropRight
import ReliableStream.Proofs.Sender
/-! # Phases and windows of congestion control

    A controller is told of new acknowledgments, of duplicate ones and of
    timeouts, in any order and any number. Its **phase** can be read off what it
    was told last: it is in fast recovery exactly if the latest signals are three
    duplicates or more, and the counter of duplicates follows them up to three.
    In slow start the window is one segment size or below the threshold; in fast
    recovery it is the threshold with one segment size for each duplicate on top.

    The **growth** of the window rests on how small it can be. In slow start and
    in fast recovery it is never below one segment size, and there a new
    acknowledgment adds at most one. But each fast recovery that begins in
    congestion avoidance halves the window, down to zero, and from half a segment
    size on the quotient in the increment of congestion avoidance is more than
    one. -/

namespace ReliableStream

/-- What a controller can be told. -/
inductive CongestionSignal where
  | newAck
  | duplicateAck
  | timeout
  deriving DecidableEq, Repr

namespace Congestion

/-- Takes in a signal. -/
def hear (c : Congestion) : CongestionSignal → Congestion
  | .newAck => c.onNewAck
  | .duplicateAck => c.onDuplicateAck
  | .timeout => c.onTimeout

/-- The controller after a row of signals. -/
def hearAll (c : Congestion) (signals : List CongestionSignal) : Congestion :=
  signals.foldl hear c

/-- How many duplicates have come since the last other signal, or since the start. -/
def latestDuplicates (signals : List CongestionSignal) : Nat :=
  (signals.rtakeWhile (· = .duplicateAck)).length

variable {c : Congestion} {mss ssthresh : Nat} {signals : List CongestionSignal}

@[simp] theorem hearAll_nil (c : Congestion) : c.hearAll [] = c := rfl

theorem hearAll_append (c : Congestion) (earlier later : List CongestionSignal) :
    c.hearAll (earlier ++ later) = (c.hearAll earlier).hearAll later :=
  List.foldl_append

theorem hearAll_concat (c : Congestion) (signals : List CongestionSignal)
    (signal : CongestionSignal) : c.hearAll (signals ++ [signal]) = (c.hearAll signals).hear signal :=
  hearAll_append c signals [signal]

@[simp] theorem latestDuplicates_nil : latestDuplicates [] = 0 := rfl

@[simp] theorem latestDuplicates_duplicate (signals : List CongestionSignal) :
    latestDuplicates (signals ++ [.duplicateAck]) = latestDuplicates signals + 1 := by
  simp [latestDuplicates]

@[simp] theorem latestDuplicates_other {signal : CongestionSignal}
    (h : signal ≠ .duplicateAck) : latestDuplicates (signals ++ [signal]) = 0 := by
  simp [latestDuplicates, h]

/-! ### One signal -/

/-- The segment size never changes. -/
theorem mss_hear (c : Congestion) (signal : CongestionSignal) : (c.hear signal).mss = c.mss := by
  cases signal with
  | newAck =>
    simp only [hear, onNewAck]
    split <;> rfl
  | duplicateAck =>
    simp only [hear, onDuplicateAck]
    split
    · rfl
    · split <;> rfl
  | timeout => rfl

/-- In fast recovery a duplicate inflates the window, and is not counted. -/
theorem onDuplicateAck_of_recovering (h : c.phase = .fastRecovery) :
    c.onDuplicateAck = { c with cwnd := addSat c.cwnd c.mss } := by
  unfold onDuplicateAck
  rw [h]

/-- Outside of it a duplicate is counted, and fast recovery starts with the third. -/
theorem onDuplicateAck_of_not_recovering (h : c.phase ≠ .fastRecovery) :
    c.onDuplicateAck =
      if c.dupAcks + 1 = dupAckThreshold then
        { c with
          dupAcks := c.dupAcks + 1
          ssthresh := c.cwnd / 2
          cwnd := addSat (c.cwnd / 2) (dupAckThreshold * c.mss)
          phase := .fastRecovery }
      else { c with dupAcks := c.dupAcks + 1 } := by
  unfold onDuplicateAck
  cases hphase : c.phase with
  | fastRecovery => exact absurd hphase h
  | slowStart => rfl
  | congestionAvoidance => rfl

/-- Nothing but a duplicate leads into fast recovery or leaves it going on. -/
theorem phase_hear_ne {signal : CongestionSignal} (h : signal ≠ .duplicateAck) :
    (c.hear signal).phase ≠ .fastRecovery ∧ (c.hear signal).dupAcks = 0 := by
  cases signal with
  | duplicateAck => exact absurd rfl h
  | timeout => simp [hear, onTimeout]
  | newAck =>
    simp only [hear, onNewAck]
    split
    · refine ⟨?_, rfl⟩
      -- Slow start either goes on or turns into congestion avoidance.
      split <;> simp
    · next hphase => simp [hphase]
    · simp

/-! ### Phases follow the duplicates -/

/-- The counter of duplicates and the phase are those of the latest signals. -/
structure Counts (signals : List CongestionSignal) (c : Congestion) : Prop where
  dupAcks : c.dupAcks = min (latestDuplicates signals) dupAckThreshold
  recovering_iff : c.phase = .fastRecovery ↔ dupAckThreshold ≤ latestDuplicates signals

theorem Counts.hear (h : Counts signals c) (signal : CongestionSignal) :
    Counts (signals ++ [signal]) (c.hear signal) := by
  obtain ⟨hcount, hphase⟩ := h
  by_cases hsignal : signal = .duplicateAck
  · subst hsignal
    by_cases hrecovering : c.phase = .fastRecovery
    · have hmany := hphase.mp hrecovering
      simp only [Congestion.hear, onDuplicateAck_of_recovering hrecovering]
      constructor
      · simp only [latestDuplicates_duplicate, hcount]
        omega
      · simp only [latestDuplicates_duplicate, hrecovering, true_iff]
        omega
    · have hfew := mt hphase.mpr hrecovering
      simp only [Congestion.hear, onDuplicateAck_of_not_recovering hrecovering]
      -- The duplicate is the third one or an earlier one.
      split
      · next hthird =>
        constructor
        · simp only [latestDuplicates_duplicate]
          omega
        · simp only [latestDuplicates_duplicate, true_iff]
          omega
      · next hearly =>
        constructor
        · simp only [latestDuplicates_duplicate]
          omega
        · simp only [latestDuplicates_duplicate, hrecovering, false_iff]
          omega
  · obtain ⟨hleaves, hzero⟩ := phase_hear_ne (c := c) hsignal
    constructor
    · simp [hzero, hsignal]
    · simp [hleaves, hsignal, dupAckThreshold]

theorem counts_of_signals (mss ssthresh : Nat) (signals : List CongestionSignal) :
    Counts signals ((create mss ssthresh).hearAll signals) := by
  induction signals using List.reverseRecOn with
  | nil => exact ⟨rfl, by simp [create, dupAckThreshold]⟩
  | append_singleton signals signal ih =>
    rw [hearAll_concat]
    exact ih.hear signal

/-! ### The window in each phase -/

/-- What is true of the window in every phase. -/
structure Windowed (mss : Nat) (c : Congestion) : Prop where
  mss_eq : c.mss = mss
  cwnd_le : c.cwnd ≤ maxWindow
  slowStart : c.phase = .slowStart → c.cwnd = mss ∨ c.cwnd < c.ssthresh
  /-- Only congestion avoidance has windows below one segment size, -/
  mss_le : c.phase ≠ .congestionAvoidance → mss ≤ c.cwnd
  /-- and fast recovery falls back to a window that is no larger. -/
  ssthresh_le : c.phase = .fastRecovery → c.ssthresh ≤ c.cwnd

theorem Windowed.onNewAck (h : Windowed mss c) (hmss : mss ≤ maxWindow) :
    Windowed mss c.onNewAck := by
  obtain ⟨rfl, hcwnd, -, hlarge, hthresh⟩ := h
  cases hphase : c.phase with
  | slowStart =>
    have hle := hlarge (by simp [hphase])
    simp only [Congestion.onNewAck, hphase]
    refine ⟨rfl, addSat_le _ _, fun hstays => ?_, fun _ => ?_, fun hrecovers => ?_⟩
    -- Slow start goes on only below the threshold.
    · right
      simp only at hstays ⊢
      by_cases hreached : c.ssthresh ≤ addSat c.cwnd c.mss
      · rw [if_pos hreached] at hstays
        cases hstays
      · omega
    · simp only [addSat]
      omega
    · simp only at hrecovers
      split at hrecovers <;> cases hrecovers
  | congestionAvoidance =>
    simp only [Congestion.onNewAck, hphase]
    exact ⟨rfl, addSat_le _ _, by simp, by simp, by simp⟩
  | fastRecovery =>
    have hle := hthresh hphase
    simp only [Congestion.onNewAck, hphase]
    exact ⟨rfl, Nat.le_trans hle hcwnd, by simp, by simp, by simp⟩

theorem Windowed.onDuplicateAck (h : Windowed mss c) (hmss : mss ≤ maxWindow) :
    Windowed mss c.onDuplicateAck := by
  obtain ⟨rfl, hcwnd, hslow, hlarge, hthresh⟩ := h
  by_cases hphase : c.phase = .fastRecovery
  · have hle := hlarge (by simp [hphase])
    have hle' := hthresh hphase
    rw [onDuplicateAck_of_recovering hphase]
    refine ⟨rfl, addSat_le _ _, by simp [hphase], fun _ => ?_, fun _ => ?_⟩ <;>
      simp only [addSat] <;> omega
  · rw [onDuplicateAck_of_not_recovering hphase]
    split
    · refine ⟨rfl, addSat_le _ _, by simp, fun _ => ?_, fun _ => ?_⟩ <;>
        simp only [addSat, dupAckThreshold] <;> omega
    · exact ⟨rfl, hcwnd, hslow, hlarge, hthresh⟩

theorem Windowed.onTimeout (h : Windowed mss c) (hmss : mss ≤ maxWindow) :
    Windowed mss c.onTimeout := by
  obtain ⟨rfl, -⟩ := h
  exact ⟨rfl, hmss, fun _ => Or.inl rfl, fun _ => Nat.le_refl _, by simp [Congestion.onTimeout]⟩

theorem windowed_of_signals (hmss : mss ≤ maxWindow) (ssthresh : Nat)
    (signals : List CongestionSignal) : Windowed mss ((create mss ssthresh).hearAll signals) := by
  induction signals using List.reverseRecOn with
  | nil =>
    exact ⟨rfl, hmss, fun _ => Or.inl rfl, fun _ => Nat.le_refl _, by simp [create]⟩
  | append_singleton signals signal ih =>
    rw [hearAll_concat]
    cases signal with
    | newAck => exact ih.onNewAck hmss
    | duplicateAck => exact ih.onDuplicateAck hmss
    | timeout => exact ih.onTimeout hmss

/-! ### Fast recovery -/

/-- Fast recovery started with a duplicate, and `more` have come since. The
    threshold is half the window of that moment, and the window is inflated by
    three segment sizes and one for each duplicate since. -/
structure RecoversSince (start : Congestion) (signals before : List CongestionSignal)
    (more : Nat) : Prop where
  signals_eq : signals = before ++ [.duplicateAck] ++ List.replicate more .duplicateAck
  outside : (start.hearAll before).phase ≠ .fastRecovery
  entered : (start.hearAll (before ++ [.duplicateAck])).phase = .fastRecovery
  ssthresh : (start.hearAll signals).ssthresh = (start.hearAll before).cwnd / 2
  cwnd : (start.hearAll signals).cwnd =
    min maxWindow ((start.hearAll signals).ssthresh + (3 + more) * start.mss)

theorem mss_hearAll (c : Congestion) (signals : List CongestionSignal) :
    (c.hearAll signals).mss = c.mss := by
  induction signals using List.reverseRecOn with
  | nil => rfl
  | append_singleton signals signal ih => rw [hearAll_concat, mss_hear, ih]

/-- A duplicate that leads into fast recovery halves the window into the
    threshold, and inflates it by three segment sizes. -/
theorem windows_of_entering (houtside : c.phase ≠ .fastRecovery)
    (hentered : c.onDuplicateAck.phase = .fastRecovery) :
    c.onDuplicateAck.ssthresh = c.cwnd / 2 ∧
      c.onDuplicateAck.cwnd = addSat (c.cwnd / 2) (dupAckThreshold * c.mss) := by
  rw [onDuplicateAck_of_not_recovering houtside] at hentered ⊢
  split at hentered
  · next hthird =>
    rw [if_pos hthird]
    exact ⟨rfl, rfl⟩
  · exact absurd hentered houtside

theorem RecoversSince.enter {start : Congestion}
    (houtside : (start.hearAll signals).phase ≠ .fastRecovery)
    (hentered : (start.hearAll (signals ++ [.duplicateAck])).phase = .fastRecovery) :
    RecoversSince start (signals ++ [.duplicateAck]) signals 0 := by
  have hstep : start.hearAll (signals ++ [.duplicateAck]) =
      (start.hearAll signals).onDuplicateAck := hearAll_concat ..
  obtain ⟨hthresh, hwindow⟩ := windows_of_entering houtside (by rw [← hstep, hentered])
  refine ⟨by simp, houtside, hentered, ?_, ?_⟩
  · rw [hstep, hthresh]
  · rw [hstep, hthresh, hwindow, mss_hearAll]
    simp only [addSat, dupAckThreshold]
    omega

/-- One more duplicate inflates the window once more. -/
theorem RecoversSince.inflate {start : Congestion} {before : List CongestionSignal} {more : Nat}
    (h : RecoversSince start signals before more)
    (hrecovering : (start.hearAll signals).phase = .fastRecovery) :
    RecoversSince start (signals ++ [.duplicateAck]) before (more + 1) := by
  have hstep : start.hearAll (signals ++ [.duplicateAck]) =
      { start.hearAll signals with
        cwnd := addSat (start.hearAll signals).cwnd (start.hearAll signals).mss } :=
    (hearAll_concat ..).trans (onDuplicateAck_of_recovering hrecovering)
  refine ⟨?_, h.outside, h.entered, ?_, ?_⟩
  · rw [h.signals_eq, List.append_assoc _ _ [_], ← List.replicate_succ']
  · rw [hstep]
    exact h.ssthresh
  · rw [hstep]
    simp only [mss_hearAll, h.cwnd, addSat]
    have hsum : (3 + (more + 1)) * start.mss = (3 + more) * start.mss + start.mss := by
      rw [← Nat.add_assoc, Nat.succ_mul]
    omega

theorem exists_recoversSince (mss ssthresh : Nat) (signals : List CongestionSignal)
    (hrecovering : ((create mss ssthresh).hearAll signals).phase = .fastRecovery) :
    ∃ before more, RecoversSince (create mss ssthresh) signals before more := by
  induction signals using List.reverseRecOn with
  | nil => cases hrecovering
  | append_singleton signals signal ih =>
    -- The latest signal was a duplicate, since all others end fast recovery.
    obtain rfl : signal = .duplicateAck := by
      apply Decidable.of_not_not
      intro hother
      rw [hearAll_concat] at hrecovering
      exact (phase_hear_ne hother).1 hrecovering
    by_cases hbefore : ((create mss ssthresh).hearAll signals).phase = .fastRecovery
    · obtain ⟨before, more, hsince⟩ := ih hbefore
      exact ⟨before, more + 1, hsince.inflate hbefore⟩
    · exact ⟨signals, 0, .enter hbefore hrecovering⟩

/-! ### Growth -/

/-- How far a new acknowledgment raises the window. -/
structure Grows (mss : Nat) (c : Congestion) : Prop where
  /-- By at most one segment size, unless the window is at most half of one. -/
  le_iff : c.onNewAck.cwnd ≤ c.cwnd + mss ↔ mss < 2 * max c.cwnd 1
  /-- From such a window congestion avoidance adds a segment size for each time
      that the window goes into it. -/
  leaps : 2 * max c.cwnd 1 ≤ mss → c.phase = .congestionAvoidance ∧
    c.onNewAck.cwnd = c.cwnd + mss * (mss / max c.cwnd 1)

theorem cwnd_onNewAck_of_avoiding (h : c.phase = .congestionAvoidance) :
    c.onNewAck.cwnd = addSat c.cwnd (c.mss * (c.mss / max c.cwnd 1)) := by
  unfold onNewAck
  rw [h]

/-- In slow start and after fast recovery there is no leap. -/
theorem Windowed.cwnd_onNewAck_le (h : Windowed mss c) (hphase : c.phase ≠ .congestionAvoidance) :
    c.onNewAck.cwnd ≤ c.cwnd + mss := by
  rw [← h.mss_eq]
  unfold Congestion.onNewAck
  split
  · simp only [addSat]
    omega
  · next havoiding => exact absurd havoiding hphase
  · next hrecovering =>
    have hthresh := h.ssthresh_le hrecovering
    simp only
    omega

theorem Windowed.grows (h : Windowed mss c) (hmss : mss ≤ 65_535) : Grows mss c := by
  by_cases hphase : c.phase = .congestionAvoidance
  · have hwindow := cwnd_onNewAck_of_avoiding hphase
    rw [h.mss_eq] at hwindow
    by_cases hsmall : 2 * max c.cwnd 1 ≤ mss
    · -- The window goes into a segment size at least twice, and the sum stays
      -- within 32 bits.
      have htwice : 2 ≤ mss / max c.cwnd 1 := (Nat.le_div_iff_mul_le (by omega)).mpr hsmall
      have hleap : mss * 2 ≤ mss * (mss / max c.cwnd 1) := Nat.mul_le_mul_left mss htwice
      have hfits : mss * (mss / max c.cwnd 1) ≤ 65_535 * 65_535 :=
        Nat.mul_le_mul hmss (Nat.le_trans (Nat.div_le_self ..) hmss)
      have hsum : c.onNewAck.cwnd = c.cwnd + mss * (mss / max c.cwnd 1) := by
        rw [hwindow]
        simp only [addSat, maxWindow]
        omega
      exact ⟨by omega, fun _ => ⟨hphase, hsum⟩⟩
    · -- It goes in at most once.
      have honce : mss / max c.cwnd 1 ≤ 1 := by
        apply Nat.le_of_lt_succ
        rw [Nat.div_lt_iff_lt_mul (by omega)]
        omega
      have hstep : mss * (mss / max c.cwnd 1) ≤ mss * 1 := Nat.mul_le_mul_left mss honce
      refine ⟨?_, fun hless => absurd hless hsmall⟩
      rw [hwindow]
      simp only [addSat]
      omega
  · have hlarge := h.mss_le hphase
    have hle := h.cwnd_onNewAck_le hphase
    exact ⟨by omega, by omega⟩

/-- A round of three duplicates and a new acknowledgment. -/
def halving : List CongestionSignal := [.duplicateAck, .duplicateAck, .duplicateAck, .newAck]

/-- Such a round leads into congestion avoidance with half the window. -/
theorem hearAll_halving (hphase : c.phase ≠ .fastRecovery) (hcount : c.dupAcks = 0) :
    c.hearAll halving =
      { c with
        cwnd := c.cwnd / 2
        ssthresh := c.cwnd / 2
        phase := .congestionAvoidance } := by
  obtain ⟨mss, cwnd, ssthresh, dupAcks, phase⟩ := c
  subst hcount
  cases phase with
  | fastRecovery => exact absurd rfl hphase
  | slowStart => rfl
  | congestionAvoidance => rfl

/-- Round by round the window gets as small as one likes. -/
theorem exists_window_shiftRight (mss ssthresh rounds : Nat) :
    ∃ signals, ((create mss ssthresh).hearAll signals).phase = .congestionAvoidance ∧
      ((create mss ssthresh).hearAll signals).dupAcks = 0 ∧
      ((create mss ssthresh).hearAll signals).cwnd = mss >>> (rounds + 1) := by
  induction rounds with
  | zero => exact ⟨halving, rfl, rfl, rfl⟩
  | succ rounds ih =>
    obtain ⟨signals, hphase, hcount, hwindow⟩ := ih
    refine ⟨signals ++ halving, ?_⟩
    rw [hearAll_append, hearAll_halving (by simp [hphase]) hcount, hwindow]
    exact ⟨rfl, hcount, (Nat.shiftRight_succ ..).symm⟩

/-! ### The results -/

/-- What the phase of a controller says, after a row of signals. -/
structure Phased (mss ssthresh : Nat) (signals : List CongestionSignal) (c : Congestion) : Prop where
  dupAcks_le : c.dupAcks ≤ 3
  dupAcks_eq_three_iff : c.dupAcks = 3 ↔ c.phase = .fastRecovery
  slowStart : c.phase = .slowStart → c.cwnd = mss ∨ c.cwnd < c.ssthresh
  fastRecovery : c.phase = .fastRecovery →
    ∃ before more, RecoversSince (create mss ssthresh) signals before more
  counted : c.phase ≠ .fastRecovery → c.dupAcks = latestDuplicates signals

/-- **The phases of congestion control.** After every row of signals the counter
    of duplicates is at most three, and three exactly in fast recovery; elsewhere
    it counts the latest duplicates. In slow start the window is one segment size
    or below the threshold. In fast recovery the threshold is half the window from
    before it, with three segment sizes on top and one for each duplicate since. -/
theorem phased_of_signals {mss : Nat} (hmss : mss ≤ 65_535) (ssthresh : Nat)
    (signals : List CongestionSignal) :
    Phased mss ssthresh signals ((create mss ssthresh).hearAll signals) := by
  have hcounts := counts_of_signals mss ssthresh signals
  have hcount := hcounts.dupAcks
  have hrecovering := hcounts.recovering_iff
  unfold dupAckThreshold at hcount hrecovering
  refine ⟨by omega, ?_, ?_, exists_recoversSince mss ssthresh signals, ?_⟩
  · rw [hrecovering, hcount]
    omega
  · have hle : mss ≤ maxWindow := Nat.le_trans hmss (by decide)
    exact (windowed_of_signals hle ssthresh signals).slowStart
  · intro hnot
    have hfew := mt hrecovering.mpr hnot
    omega

/-- Two duplicates, a new acknowledgment, and five duplicates more. -/
def recoveringSignals : List CongestionSignal :=
  [.duplicateAck, .duplicateAck, .newAck] ++ List.replicate 5 .duplicateAck

/-- Fast recovery from a window of two segments, inflated twice since. -/
theorem phased_of_recovering : ∃ c, (create 1000 64_000).hearAll recoveringSignals = c ∧
    c.phase = .fastRecovery ∧ c.ssthresh = 1000 ∧ c.cwnd = 6000 ∧
    Phased 1000 64_000 recoveringSignals c :=
  ⟨_, rfl, rfl, rfl, rfl, phased_of_signals (by decide) 64_000 recoveringSignals⟩

/-- **Growth of the window.** After every row of signals a new acknowledgment
    raises the window by at most one segment size, exactly unless the window is
    at most half of one. Then the controller is in congestion avoidance, and the
    window grows by as many segment sizes as it goes into one. Whatever the
    segment size and the first threshold, all its halves are such windows that a
    controller gets to, down to zero. -/
theorem growth_of_signals {mss : Nat} (hmss : mss ≤ 65_535) (ssthresh : Nat) :
    (∀ signals, Grows mss ((create mss ssthresh).hearAll signals)) ∧
      ∀ rounds, ∃ signals,
        ((create mss ssthresh).hearAll signals).phase = .congestionAvoidance ∧
        ((create mss ssthresh).hearAll signals).cwnd = mss >>> (rounds + 1) := by
  refine ⟨fun signals => ?_, fun rounds => ?_⟩
  · have hle : mss ≤ maxWindow := Nat.le_trans hmss (by decide)
    exact (windowed_of_signals hle ssthresh signals).grows hmss
  · obtain ⟨signals, hphase, -, hwindow⟩ := exists_window_shiftRight mss ssthresh rounds
    exact ⟨signals, hphase, hwindow⟩

/-- With segments of four bytes and a window of two, a new acknowledgment adds
    eight bytes. -/
theorem growth_beyond_mss : ¬ ∀ mss ssthresh signals, 1 ≤ mss → mss ≤ 65_535 →
    ((create mss ssthresh).hearAll signals).onNewAck.cwnd ≤
      ((create mss ssthresh).hearAll signals).cwnd + mss :=
  fun h => absurd (h 4 8 halving (by decide) (by decide)) (by decide)

/-- The largest leap is from a window of nothing, with the largest segments. -/
theorem growth_from_nothing : ∃ signals c, (create 65_535 8).hearAll signals = c ∧
    c.cwnd = 0 ∧ Grows 65_535 c ∧ c.onNewAck.cwnd = 4_294_836_225 := by
  obtain ⟨hgrows, hhalves⟩ := growth_of_signals (Nat.le_refl 65_535) 8
  obtain ⟨signals, -, hwindow⟩ := hhalves 15
  have hzero : ((create 65_535 8).hearAll signals).cwnd = 0 := hwindow
  refine ⟨signals, _, rfl, hzero, hgrows signals, ?_⟩
  rw [((hgrows signals).leaps (by rw [hzero]; decide)).2, hzero]
  rfl

end Congestion

end ReliableStream
