import Mathlib.Algebra.Order.Floor.Div
import ReliableStream.Proofs.Congestion
/-! # Growth without losses

    While nothing but new acknowledgments comes in, the window of a controller
    **climbs** from one segment size: by one segment size each time, up to the
    first multiple of it that reaches the threshold. There it stays, since a
    window of more than one segment size goes into a segment size zero times.
    The first step is taken before the threshold is looked at, so that every
    climb has at least one.

    A timeout makes a controller as good as new, with half its window as the
    threshold. After it the window climbs in the same way. -/

namespace ReliableStream.Congestion

variable {c : Congestion} {mss ssthresh acks : Nat}

/-! ### The climb -/

/-- How many segment sizes the window climbs to. -/
def plateau (mss ssthresh : Nat) : Nat := max 2 (ssthresh ⌈/⌉ mss)

/-- The window after so many new acknowledgments in a row. -/
def climb (mss ssthresh acks : Nat) : Nat :=
  min maxWindow (mss * min (acks + 1) (plateau mss ssthresh))

theorem two_le_plateau (mss ssthresh : Nat) : 2 ≤ plateau mss ssthresh := Nat.le_max_left ..

/-- From two segment sizes on, the threshold is reached exactly at the plateau. -/
theorem plateau_le_iff (hpos : 0 < mss) {sizes : Nat} (htwo : 2 ≤ sizes) :
    plateau mss ssthresh ≤ sizes ↔ ssthresh ≤ mss * sizes := by
  rw [plateau, Nat.max_le, ceilDiv_le_iff_le_mul hpos]
  exact and_iff_right htwo

theorem climb_zero (hmss : mss ≤ maxWindow) : climb mss ssthresh 0 = mss := by
  have htwo := two_le_plateau mss ssthresh
  rw [climb, Nat.min_eq_left (show 0 + 1 ≤ plateau mss ssthresh by omega), Nat.mul_one,
    Nat.min_eq_right hmss]

/-- Below the threshold the climb goes on, and its first step is always taken. -/
theorem climb_succ_of_below (hpos : 0 < mss)
    (hbelow : acks = 0 ∨ climb mss ssthresh acks < ssthresh) :
    climb mss ssthresh (acks + 1) = addSat (climb mss ssthresh acks) mss := by
  have htwo := two_le_plateau mss ssthresh
  have hreach : ssthresh ≤ mss * plateau mss ssthresh :=
    (plateau_le_iff hpos htwo).mp (Nat.le_refl _)
  simp only [climb, addSat] at hbelow ⊢
  rcases Nat.lt_or_ge (acks + 1) (plateau mss ssthresh) with hclimbs | hstays
  · have hstep : mss * (acks + 1 + 1) = mss * (acks + 1) + mss := Nat.mul_succ ..
    rw [Nat.min_eq_left hclimbs, Nat.min_eq_left (Nat.le_of_lt hclimbs), hstep]
    omega
  · -- Only a threshold beyond the largest window is still ahead here.
    rw [Nat.min_eq_right hstays] at hbelow
    rw [Nat.min_eq_right hstays, Nat.min_eq_right (Nat.le_succ_of_le hstays)]
    omega

/-- At the threshold the climb is over. -/
theorem climb_succ_of_reached (hpos : 0 < mss) (hfirst : acks ≠ 0)
    (hreached : ssthresh ≤ climb mss ssthresh acks) :
    climb mss ssthresh (acks + 1) = climb mss ssthresh acks := by
  have hle : climb mss ssthresh acks ≤ mss * (acks + 1) :=
    Nat.le_trans (Nat.min_le_right ..) (Nat.mul_le_mul_left mss (Nat.min_le_left ..))
  have hstays : plateau mss ssthresh ≤ acks + 1 :=
    (plateau_le_iff hpos (by omega)).mpr (Nat.le_trans hreached hle)
  rw [climb, climb, Nat.min_eq_right hstays, Nat.min_eq_right (Nat.le_succ_of_le hstays)]

/-- After its first step the climb is above one segment size. -/
theorem lt_climb (hpos : 0 < mss) (hmss : mss ≤ 65_535) (hfirst : acks ≠ 0) :
    mss < climb mss ssthresh acks := by
  have htwo := two_le_plateau mss ssthresh
  have htwice : mss * 2 ≤ mss * min (acks + 1) (plateau mss ssthresh) :=
    Nat.mul_le_mul_left mss (by omega)
  simp only [climb, maxWindow]
  omega

/-! ### A controller that climbs -/

/-- So many new acknowledgments have come in, and nothing else. -/
structure Climbs (mss ssthresh acks : Nat) (c : Congestion) : Prop where
  mss_eq : c.mss = mss
  ssthresh_eq : c.ssthresh = ssthresh
  cwnd_eq : c.cwnd = climb mss ssthresh acks
  /-- Slow start lasts until an acknowledgment finds the threshold reached. -/
  phase_eq : c.phase =
    if acks = 0 ∨ climb mss ssthresh acks < ssthresh then .slowStart else .congestionAvoidance

theorem climbs_create (hmss : mss ≤ maxWindow) (ssthresh : Nat) :
    Climbs mss ssthresh 0 (create mss ssthresh) :=
  ⟨rfl, rfl, (climb_zero hmss).symm, rfl⟩

theorem Climbs.onNewAck (h : Climbs mss ssthresh acks c) (hpos : 0 < mss) (hmss : mss ≤ 65_535) :
    Climbs mss ssthresh (acks + 1) c.onNewAck := by
  obtain ⟨rfl, rfl, hcwnd, hphase⟩ := h
  by_cases hbelow : acks = 0 ∨ climb c.mss c.ssthresh acks < c.ssthresh
  · rw [if_pos hbelow] at hphase
    have hnext : addSat c.cwnd c.mss = climb c.mss c.ssthresh (acks + 1) := by
      rw [hcwnd, climb_succ_of_below hpos hbelow]
    simp only [Congestion.onNewAck, hphase, hnext]
    refine ⟨rfl, rfl, rfl, ?_⟩
    by_cases hreached : c.ssthresh ≤ climb c.mss c.ssthresh (acks + 1)
    · simp [hreached]
    · simp [hreached, Nat.lt_of_not_le hreached]
  · rw [if_neg hbelow] at hphase
    obtain ⟨hfirst, hreached⟩ := not_or.mp hbelow
    rw [Nat.not_lt] at hreached
    have hstays := climb_succ_of_reached hpos hfirst hreached
    -- The window is larger than a segment size, and so nothing is added to it.
    have hlarge : c.mss < c.cwnd := hcwnd ▸ lt_climb hpos hmss hfirst
    have hshare : c.mss / max c.cwnd 1 = 0 := Nat.div_eq_of_lt (by omega)
    have hsame : addSat c.cwnd (c.mss * 0) = c.cwnd := by
      rw [Nat.mul_zero, addSat, Nat.add_zero, hcwnd]
      exact Nat.min_eq_left (Nat.min_le_left ..)
    simp only [Congestion.onNewAck, hphase, hshare, hsame]
    refine ⟨rfl, rfl, ?_, ?_⟩
    · rw [hstays, hcwnd]
    · rw [hstays, if_neg (by omega)]

theorem climbs_of_newAcks (hpos : 0 < mss) (hmss : mss ≤ 65_535) (ssthresh acks : Nat) :
    Climbs mss ssthresh acks
      ((create mss ssthresh).hearAll (List.replicate acks .newAck)) := by
  induction acks with
  | zero => exact climbs_create (Nat.le_trans hmss (by decide)) ssthresh
  | succ acks ih =>
    rw [List.replicate_succ', hearAll_concat]
    exact ih.onNewAck hpos hmss

/-- A timeout leaves nothing of a controller but half of its window. -/
theorem onTimeout_eq_create (c : Congestion) : c.onTimeout = create c.mss (c.cwnd / 2) := rfl

/-- **Growth without losses.** After any number of new acknowledgments in a row,
    the window of a new controller is as many segment sizes and one more, but no
    more than it takes to reach the threshold, two at least, and never beyond the
    largest window. A timeout starts the same growth anew after every row of
    signals, and half the window of that moment is the threshold then. -/
theorem window_without_loss {mss : Nat} (hpos : 1 ≤ mss) (hmss : mss ≤ 65_535) (ssthresh : Nat) :
    (∀ acks, ((create mss ssthresh).hearAll (List.replicate acks .newAck)).cwnd =
      min maxWindow (mss * min (acks + 1) (max 2 (ssthresh ⌈/⌉ mss)))) ∧
    ∀ signals c, (create mss ssthresh).hearAll signals = c → ∀ acks,
      (c.onTimeout.hearAll (List.replicate acks .newAck)).cwnd =
        min maxWindow (mss * min (acks + 1) (max 2 ((c.cwnd / 2) ⌈/⌉ mss))) := by
  refine ⟨fun acks => (climbs_of_newAcks hpos hmss ssthresh acks).cwnd_eq, ?_⟩
  rintro signals c rfl acks
  rw [onTimeout_eq_create, mss_hearAll]
  exact (climbs_of_newAcks hpos hmss _ acks).cwnd_eq

/-- Two new acknowledgments, and three duplicates. -/
def brokenClimb : List CongestionSignal :=
  [.newAck, .newAck, .duplicateAck, .duplicateAck, .duplicateAck]

/-- Segments of 65534 bytes go into the largest threshold only with a rest, and
    the window stops at the largest one. After a fast recovery has turned three
    segment sizes into four and a half, half of these are no multiple either. -/
theorem window_of_long_climb :
    ((create 65_534 maxWindow).hearAll (List.replicate 70_000 .newAck)).cwnd = maxWindow ∧
    ((create 65_534 maxWindow).hearAll brokenClimb).cwnd = 294_903 ∧
    (((create 65_534 maxWindow).hearAll brokenClimb).onTimeout.hearAll
      (List.replicate 7 .newAck)).cwnd = 3 * 65_534 := by
  obtain ⟨hnew, hagain⟩ := window_without_loss (show 1 ≤ 65_534 by decide) (by decide) maxWindow
  have hbroken : ((create 65_534 maxWindow).hearAll brokenClimb).cwnd = 294_903 := rfl
  refine ⟨?_, hbroken, ?_⟩
  · rw [hnew]
    rfl
  · rw [hagain brokenClimb _ rfl, hbroken]
    rfl

end ReliableStream.Congestion
