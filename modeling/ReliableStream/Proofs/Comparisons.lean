import ReliableStream.Proofs.Flight
import ReliableStream.Proofs.SenderRuns
import ReliableStream.Settings
/-! # Comparisons within a buffer

    Numbers are compared by the shorter way round, so a comparison is right as
    long as the numbers are less than half a turn apart. A sender compares
    numbers of its buffered range; how long that range gets is up to the size
    of its buffer. Settings allow buffers of up to a whole turn, and those
    larger than half a turn hold bytes whose numbers compare the wrong way. -/

namespace ReliableStream

namespace Sequence

/-- The steps between two positions of a stream, whichever comes first. -/
theorem steps_between (a : UInt32) {i : Nat} (hi : i < 4_294_967_296) (j : Nat) :
    steps (advance a i) (advance a j) = (j + 4_294_967_296 - i) % 4_294_967_296 := by
  have hchain := steps_chain a (advance a i) (advance a j)
  have hlt := steps_lt (advance a i) (advance a j)
  rw [steps_advance_of_lt a hi, steps_advance] at hchain
  omega

/-- One position compares as no later than another if it is less than half a
    turn before it, or more than half a turn after it. -/
theorem atOrBefore_advance_iff (a : UInt32) {i j : Nat} (hi : i < 4_294_967_296)
    (hj : j < 4_294_967_296) : atOrBefore (advance a i) (advance a j) = true ↔
      i ≤ j ∧ j < i + 2_147_483_648 ∨ j + 2_147_483_648 < i := by
  rw [atOrBefore_iff, steps_between a hi]
  omega

theorem before_advance_iff (a : UInt32) {i j : Nat} (hi : i < 4_294_967_296)
    (hj : j < 4_294_967_296) : before (advance a i) (advance a j) = true ↔
      i < j ∧ j < i + 2_147_483_648 ∨ j + 2_147_483_648 < i := by
  rw [before_iff, steps_between a hi]
  omega

end Sequence

namespace Sender

open Sequence

variable {s s' : Sender} {op : SenderOperation} {reply : SenderReply}
  {operations : List SenderOperation}

/-- The numbers of the buffered range compare as their places do. -/
def Comparable (s : Sender) : Prop :=
  ∀ i j, i ≤ s.buffered → j ≤ s.buffered →
    (before (advance s.sndUna i) (advance s.sndUna j) = true ↔ i < j) ∧
    (atOrBefore (advance s.sndUna i) (advance s.sndUna j) = true ↔ i ≤ j)

/-- The buffered range compares right exactly if it is less than half a turn
    long. Already its two ends compare wrong if it is longer. -/
theorem comparable_iff (h : s.buffered < 4_294_967_296) :
    s.Comparable ↔ s.buffered < 2_147_483_648 := by
  constructor
  · intro hcomparable
    apply Nat.lt_of_not_le
    intro hlong
    have hends := (hcomparable 0 2_147_483_648 (Nat.zero_le _) (by omega)).2
    rw [atOrBefore_advance_iff _ (by decide) (by decide)] at hends
    omega
  · intro hshort i j hi hj
    rw [before_advance_iff _ (by omega) (by omega), atOrBefore_advance_iff _ (by omega) (by omega)]
    omega

/-! ### How long the buffered range gets -/

/-- Whatever a sender is asked to do, its buffer stays as large as it is. -/
theorem capacity_of_performs (h : s.Performs op reply s') :
    s'.buffer.capacity = s.buffer.capacity := by
  cases h with
  | write => exact s.buffer.capacity_write _
  | launched hsent =>
    obtain ⟨-, last, probe, -, rfl⟩ := sender_of_nextWindow? hsent
    rfl
  | nothing _ => rfl
  | acked hack =>
    cases noted_of_onAck hack with
    | duplicate _ => rfl
    | ignored _ _ => rfl
    | advanced _ _ _ _ _ _ => exact s.buffer.capacity_release _
  | relaunched hsent =>
    obtain ⟨-, -, cut, s'', hnext, -, -, -, rfl⟩ := exists_of_onWindowTimeout? hsent
    obtain ⟨-, last, probe, -, rfl⟩ := sender_of_nextWindow? hnext
    rfl
  | moot _ => rfl
  | receiverWindow => rfl
  | abandoned => rfl

/-- One slot of the buffer stays free, after any run. -/
theorem buffered_lt_of_play {shape : BufferShape} {timers : Timers} {isn rwnd : UInt32}
    (h : ((create shape timers isn rwnd).play operations).2 = .ok s) :
    s.buffered < shape.capacity := by
  have hcapacity : s.buffer.capacity = shape.capacity :=
    of_play (P := fun s => s.buffer.capacity = shape.capacity)
      (fun hs hperforms => (capacity_of_performs hperforms).trans hs) rfl h
  rw [← hcapacity]
  exact s.buffer.used_lt

/-- A new sender takes whatever fits its buffer. -/
theorem buffered_write_create (shape : BufferShape) (timers : Timers) (isn rwnd : UInt32)
    (bytes : List UInt8) (h : bytes.length < shape.capacity) :
    ((create shape timers isn rwnd).write bytes).2.buffered = bytes.length := by
  have hempty : (create shape timers isn rwnd).buffer.used = 0 := by
    rw [← StreamBuffer.length_contents]
    simp [create]
  have hroom := (create shape timers isn rwnd).buffer.used_add_available
  have hcapacity : (create shape timers isn rwnd).buffer.capacity = shape.capacity := rfl
  show ((create shape timers isn rwnd).buffer.write bytes).2.used = _
  rw [StreamBuffer.used_write, StreamBuffer.fst_write]
  omega

/-! ### Which settings are sound -/

/-- How the numbers of the buffered range compare. -/
structure Compares (s : Sender) : Prop where
  before_iff : ∀ i j, i ≤ s.buffered → j ≤ s.buffered →
    (before (advance s.sndUna i) (advance s.sndUna j) = true ↔
      i < j ∧ j < i + 2_147_483_648 ∨ j + 2_147_483_648 < i)
  atOrBefore_iff : ∀ i j, i ≤ s.buffered → j ≤ s.buffered →
    (atOrBefore (advance s.sndUna i) (advance s.sndUna j) = true ↔
      i ≤ j ∧ j < i + 2_147_483_648 ∨ j + 2_147_483_648 < i)
  comparable_iff : s.Comparable ↔ s.buffered < 2_147_483_648

/-- **Which settings compare soundly.** With settings that pass the check, the
    numbers of a sender's buffered range compare right exactly if they are less
    than half a turn apart. So all comparisons of all its runs are right exactly
    if the buffer has at most half a turn of slots; the check does not ask for
    that. -/
theorem comparable_iff_bufferSize_le {settings : Settings} {profile : Profile}
    (hcheck : settings.check = .ok profile) :
    (∀ isn rwnd operations s,
      ((create profile.shape profile.timers isn rwnd).play operations).2 = .ok s → s.Compares) ∧
    ((∀ isn rwnd operations s,
      ((create profile.shape profile.timers isn rwnd).play operations).2 = .ok s → s.Comparable) ↔
        settings.bufferSize ≤ 2_147_483_648) := by
  have hcapacity := (Settings.profile_of_check hcheck).1
  have hturn := profile.capacity_lt
  refine ⟨?_, ?_, ?_⟩
  · intro isn rwnd operations s hplay
    have hbuffered := buffered_lt_of_play hplay
    exact
      { before_iff := fun i j hi hj => before_advance_iff _ (by omega) (by omega)
        atOrBefore_iff := fun i j hi hj => atOrBefore_advance_iff _ (by omega) (by omega)
        comparable_iff := comparable_iff (by omega) }
  · -- A buffer that is filled shows how far the comparisons have to reach.
    intro hall
    have hlength : (List.replicate (profile.shape.capacity - 1) (0 : UInt8)).length =
        profile.shape.capacity - 1 := List.length_replicate
    have htwo := profile.shape.two_le_capacity
    have hfull := buffered_write_create profile.shape profile.timers 0 0
      (List.replicate (profile.shape.capacity - 1) 0) (by omega)
    have hcomparable := (comparable_iff (by omega)).mp
      (hall 0 0 _ _ (play_write _ (List.replicate (profile.shape.capacity - 1) 0)))
    omega
  · intro hsize isn rwnd operations s hplay
    have hbuffered := buffered_lt_of_play hplay
    exact (comparable_iff (by omega)).mpr (by omega)

/-- The largest buffer that passes the check. -/
def largestSettings : Settings := { bufferSize := 4_294_967_295 }

/-- Half a turn of bytes in the largest buffer. Neither end of the buffered range
    compares as coming before the other, and a sender that gives the bytes up is
    left with the end of everything sent far behind the oldest byte. -/
theorem incomparable_in_largest_buffer : ∃ (profile : Profile) (s : Sender),
    largestSettings.check = .ok profile ∧
    ((create profile.shape profile.timers 0 0).play
      [.write (List.replicate 2_147_483_648 0)]).2 = .ok s ∧
    s.buffered = 2_147_483_648 ∧ ¬ s.Comparable ∧
    atOrBefore s.sndUna (advance s.sndUna s.buffered) = false ∧
    before s.sndUna (advance s.sndUna s.buffered) = false ∧
    s.abandon.sndUna = 2_147_483_649 ∧ s.abandon.sndMax = 1 := by
  have hcheck : largestSettings.check = .ok _ := rfl
  have hlength : (List.replicate 2_147_483_648 (0 : UInt8)).length = 2_147_483_648 :=
    List.length_replicate
  refine ⟨_, _, hcheck, play_write _ _, ?_⟩
  generalize hwritten : (Sender.write _ (List.replicate 2_147_483_648 0)).2 = s
  have hfull : s.buffered = 2_147_483_648 := by
    rw [← hwritten, buffered_write_create _ _ _ _ _ (by rw [hlength]; decide), hlength]
  have hkept : s.sndUna = 1 ∧ s.sndMax = 1 ∧ s.buffer.baseSeq = 1 := by
    rw [← hwritten]
    exact ⟨rfl, rfl, rfl⟩
  have hend : s.buffer.clear.endSeq = 2_147_483_649 := by
    rw [StreamBuffer.endSeq_clear]
    show advance s.buffer.baseSeq s.buffered = _
    rw [hkept.2.2, hfull]
    decide
  refine ⟨hfull, ?_, ?_, ?_, hend, ?_⟩
  · rw [comparable_iff (by omega), hfull]
    decide
  · rw [hkept.1, hfull]
    decide
  · rw [hkept.1, hfull]
    decide
  · show laterOf s.sndMax s.buffer.clear.endSeq = 1
    rw [hkept.2.1, hend]
    decide

/-- Settings with the buffer size that a caller gets by default. -/
theorem comparable_by_default : ∃ (profile : Profile) (s : Sender),
    ({} : Settings).check = .ok profile ∧
    ((create profile.shape profile.timers 4_294_967_295 0).play [.write [1, 2, 3]]).2 = .ok s ∧
    s.buffered = 3 ∧ s.Compares ∧ s.Comparable := by
  have hcheck : ({} : Settings).check = .ok _ := rfl
  obtain ⟨hcompares, hsound⟩ := comparable_iff_bufferSize_le hcheck
  exact ⟨_, _, hcheck, rfl, rfl, hcompares 4_294_967_295 0 [.write [1, 2, 3]] _ rfl,
    hsound.mpr (by decide) 4_294_967_295 0 [.write [1, 2, 3]] _ rfl⟩

end Sender

end ReliableStream
