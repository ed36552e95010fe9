import ReliableStream.Flow.Receiver
import ReliableStream.Proofs.Flight
/-! # Positions in a stream

    A stream has no end, and its bytes have **positions** that never repeat;
    a sequence number is what is left of a position modulo `2 ^ 32`. Positions
    are **near** if they are less than half a turn apart, and near positions
    can be told apart by their numbers. -/

namespace ReliableStream

namespace Sequence

/-- The number of the byte at a position of the stream after `isn`. -/
def numberAt (isn : UInt32) (position : Nat) : UInt32 := advance isn (position + 1)

/-- Less than half a turn apart. -/
def Near (p q : Nat) : Prop := p < q + 2_147_483_648 ∧ q < p + 2_147_483_648

instance (p q : Nat) : Decidable (Near p q) := inferInstanceAs (Decidable (_ ∧ _))

theorem advance_numberAt (isn : UInt32) (p n : Nat) :
    advance (numberAt isn p) n = numberAt isn (p + n) := by
  unfold numberAt
  rw [← advance_add]
  congr 1
  omega

/-- Near positions are as many steps apart as their numbers. -/
theorem Near.steps_of_le (isn : UInt32) {p q : Nat} (h : Near p q) (hle : p ≤ q) :
    steps (numberAt isn p) (numberAt isn q) = q - p := by
  have hnear := h.2
  unfold numberAt
  rw [steps_advance_advance isn (Nat.add_le_add_right hle 1)]
  omega

/-- Going back is going the rest of the turn. -/
theorem Near.steps_of_lt (isn : UInt32) {p q : Nat} (h : Near p q) (hlt : q < p) :
    steps (numberAt isn p) (numberAt isn q) = 4_294_967_296 - (p - q) := by
  have hforward := Near.steps_of_le isn ⟨h.2, h.1⟩ (Nat.le_of_lt hlt)
  have hnear := h.1
  have hchain := steps_chain (numberAt isn q) (numberAt isn p) (numberAt isn q)
  have hbound := steps_lt (numberAt isn p) (numberAt isn q)
  rw [steps_self] at hchain
  omega

/-- Near positions come in the order of their numbers. -/
theorem Near.before_iff (isn : UInt32) {p q : Nat} (h : Near p q) :
    before (numberAt isn p) (numberAt isn q) = true ↔ p < q := by
  obtain ⟨hp, hq⟩ := h
  rw [Sequence.before_iff]
  rcases Nat.lt_or_ge q p with hlt | hle
  · rw [Near.steps_of_lt isn ⟨hp, hq⟩ hlt]
    omega
  · rw [Near.steps_of_le isn ⟨hp, hq⟩ hle]
    omega

/-- Near positions with the same number are the same. -/
theorem Near.eq_of_numberAt_eq {isn : UInt32} {p q : Nat} (h : Near p q)
    (e : numberAt isn p = numberAt isn q) : p = q := by
  obtain ⟨hp, hq⟩ := h
  have := advance_inj e (by omega) (by omega)
  omega

theorem Near.symm {p q : Nat} (h : Near p q) : Near q p := ⟨h.2, h.1⟩

/-- The numbers of near positions are not opposite each other. -/
theorem Near.not_opposite {isn : UInt32} {p q : Nat} (h : Near p q) :
    steps (numberAt isn q) (numberAt isn p) ≠ 2_147_483_648 := by
  obtain ⟨hp, hq⟩ := h
  rcases Nat.lt_or_ge p q with hlt | hle
  · rw [Near.steps_of_lt isn ⟨hq, hp⟩ hlt]
    omega
  · rw [Near.steps_of_le isn ⟨hq, hp⟩ hle]
    omega

end Sequence

open Sequence

/-! ### The sending end -/

namespace Sender

/-- Where the oldest unacknowledged byte stands tells where everything sent
    ends, and where the latest window ends. -/
theorem sndMax_eq {s : Sender} {isn : UInt32} {position : Nat}
    (h : s.sndUna = numberAt isn position) : s.sndMax = numberAt isn (position + s.extent) := by
  rw [← advance_numberAt, ← h]
  exact (advance_steps _ _).symm

theorem winEnd_eq {s : Sender} {isn : UInt32} {position : Nat}
    (h : s.sndUna = numberAt isn position) : s.winEnd = numberAt isn (position + s.span) := by
  rw [← advance_numberAt, ← h]
  exact (advance_steps _ _).symm

/-- The sender holds what was written from position `acked` on. -/
structure Holds (written : List UInt8) (acked : Nat) (s : Sender) : Prop where
  contents : s.buffer.contents = written.drop acked
  acked_le : acked ≤ written.length
  sndUna : s.sndUna = numberAt s.isn acked

variable {s s' : Sender} {written : List UInt8} {acked : Nat}

theorem Holds.buffered_eq (h : s.Holds written acked) : s.buffered = written.length - acked := by
  show s.buffer.used = _
  rw [← StreamBuffer.length_contents, h.contents, List.length_drop]

/-- The position of the oldest unacknowledged byte is known from the counts. -/
theorem Holds.acked_eq (h : s.Holds written acked) : written.length - s.buffered = acked := by
  have := h.buffered_eq
  have := h.acked_le
  omega

theorem Holds.of_counts (h : s.Holds written acked) :
    s.Holds written (written.length - s.buffered) := by
  rw [h.acked_eq]
  exact h

theorem holds_create (shape : BufferShape) (timers : Timers) (isn rwnd : UInt32) :
    (create shape timers isn rwnd).Holds [] 0 where
  contents := rfl
  acked_le := Nat.le_refl 0
  sndUna := rfl

theorem Holds.withReceiverWindow (h : s.Holds written acked) (rwnd : UInt32) :
    (s.withReceiverWindow rwnd).Holds written acked :=
  ⟨h.contents, h.acked_le, h.sndUna⟩

theorem Holds.write (h : s.Holds written acked) (bytes : List UInt8) :
    (s.write bytes).2.Holds (written ++ bytes.take (s.write bytes).1) acked where
  contents := by
    show (s.buffer.write bytes).2.contents =
      (written ++ bytes.take (s.buffer.write bytes).1).drop acked
    rw [StreamBuffer.contents_write_eq, h.contents, List.drop_append_of_le_length h.acked_le]
  acked_le := by
    rw [List.length_append]
    exact Nat.le_add_right_of_le h.acked_le
  sndUna := h.sndUna

theorem Holds.launch {flight : Flight} (h : s.Holds written acked) (hlaunch : s.Launch flight s') :
    s'.Holds written acked where
  contents := by rw [hlaunch.contents, h.contents]
  acked_le := h.acked_le
  sndUna := by rw [hlaunch.sndUna, hlaunch.isn, h.sndUna]

/-- An acknowledgment tells nothing, or it moves the position forward to what
    it is about and tells of the receiver's window there. What was sent ends
    where it ended. -/
theorem Holds.afterAck {ack window : UInt32} {outcome : AckOutcome} (h : s.Holds written acked)
    (hsound : s.Sound) (hacked : s.Acked ack window outcome s') :
    ∃ acked', s'.Holds written acked' ∧ acked' + s'.extent = acked + s.extent ∧
      (acked' = acked ∧ s'.rwnd = s.rwnd ∨
        acked ≤ acked' ∧ ack = s'.sndUna ∧ s'.rwnd = window) := by
  cases hacked with
  | duplicate => exact ⟨acked, ⟨h.contents, h.acked_le, h.sndUna⟩, rfl, Or.inl ⟨rfl, rfl⟩⟩
  | ignored => exact ⟨acked, h, rfl, Or.inl ⟨rfl, rfl⟩⟩
  | advanced roundTrip probe hle =>
    have hplace : steps s.buffer.baseSeq ack ≤ s.buffer.used := by
      rw [hsound.base]
      exact Nat.le_trans hle hsound.sent_le
    have hbuffered : s.buffer.used = written.length - acked := h.buffered_eq
    have hacked_le := h.acked_le
    have hextent : steps s.sndUna ack + steps ack s.sndMax = steps s.sndUna s.sndMax := by
      have hchain := steps_chain s.sndUna ack s.sndMax
      have hlt := steps_lt s.sndUna s.sndMax
      have hlt' := steps_lt ack s.sndMax
      omega
    rw [hsound.base] at hplace
    refine ⟨acked + steps s.sndUna ack, ⟨?_, ?_, ?_⟩, ?_,
      Or.inr ⟨Nat.le_add_right _ _, rfl, rfl⟩⟩
    · show (s.buffer.release ack).2.contents = _
      rw [StreamBuffer.contents_release _ (by rw [hsound.base]; exact hplace), h.contents,
        List.drop_drop, hsound.base]
    · omega
    · show ack = numberAt s.isn _
      rw [← advance_numberAt, ← h.sndUna, advance_steps]
    · show acked + steps s.sndUna ack + steps ack s.sndMax = acked + steps s.sndUna s.sndMax
      rw [Nat.add_assoc, hextent]

theorem Holds.abandon (h : s.Holds written acked) (hsound : s.Sound) :
    s.abandon.Holds written written.length where
  contents := by
    show s.buffer.clear.contents = _
    rw [StreamBuffer.contents_clear, List.drop_length]
  acked_le := Nat.le_refl _
  sndUna := by
    have hacked_le := h.acked_le
    have hbuffered : s.buffer.used = written.length - acked := h.buffered_eq
    rw [hsound.abandon.2.2]
    show advance s.buffer.baseSeq s.buffer.used = numberAt s.isn written.length
    rw [hsound.base, h.sndUna, advance_numberAt, hbuffered]
    congr 1
    omega

/-- A segment of the buffer carries the bytes that were written at the
    position its number tells. -/
theorem Holds.carries {segment : Segment} {place : Nat} (h : s.Holds written acked)
    (hsound : s.Sound) (hcarries : s.buffer.Carries segment place) :
    segment.seq = numberAt s.isn (acked + steps s.sndUna segment.seq) ∧
      segment.payload <+: written.drop (acked + steps s.sndUna segment.seq) := by
  have hplace : place < 2_147_483_648 :=
    Nat.lt_of_le_of_lt hcarries.place_le hsound.buffered_lt
  have hseq : segment.seq = advance s.sndUna place := by rw [hcarries.seq, hsound.base]
  have hsteps : steps s.sndUna segment.seq = place := by
    rw [hseq, steps_advance_of_lt _ (by omega)]
  rw [hsteps]
  constructor
  · rw [hseq, h.sndUna, advance_numberAt]
  · rw [← List.drop_drop, ← h.contents]
    exact hcarries.payload

end Sender

/-! ### The receiving end -/

namespace Receiver

@[simp] theorem contents_create (shape : BufferShape) (peerIsn : UInt32) :
    (create shape peerIsn).buffer.contents = [] := StreamBuffer.contents_create ..

/-- A data segment is left out, or it starts with the next byte expected and
    is appended whole. -/
theorem onSegment_cases (r : Receiver) (s : Segment) :
    (r.onSegment s).2 = r ∨
      s.seq = r.rcvNxt ∧ (r.onSegment s).2.buffer.contents = r.buffer.contents ++ s.payload ∧
        (r.onSegment s).2.buffer.capacity = r.buffer.capacity ∧
        (r.onSegment s).2.rcvNxt = advance r.rcvNxt s.payload.length := by
  unfold onSegment
  split
  · exact Or.inl rfl
  · next hseq =>
    split
    · next buffer hwrite =>
      exact Or.inr ⟨Decidable.not_not.mp hseq, StreamBuffer.contents_of_writeWhole? hwrite,
        (StreamBuffer.used_of_writeWhole? hwrite).2, rfl⟩
    · exact Or.inl rfl

/-- The next segment is accepted if there is room for it. -/
theorem onSegment_of_fits {r : Receiver} {s : Segment} (hseq : s.seq = r.rcvNxt)
    (hfit : s.payload.length ≤ r.buffer.available) :
    ∃ buffer, r.onSegment s =
        (.accepted s.payload.length, ⟨buffer, advance r.rcvNxt s.payload.length⟩) ∧
      buffer.available + s.payload.length = r.buffer.available := by
  have hwrite : r.buffer.writeWhole? s.payload = some (r.buffer.write s.payload).2 := if_pos hfit
  obtain ⟨hused, hcapacity⟩ := StreamBuffer.used_of_writeWhole? hwrite
  refine ⟨(r.buffer.write s.payload).2, ?_, ?_⟩
  · unfold onSegment
    rw [if_neg (not_not_intro hseq), hwrite]
  · have hbefore := r.buffer.used_add_available
    have hafter := (r.buffer.write s.payload).2.used_add_available
    omega

theorem onSegment_of_ne {r : Receiver} {s : Segment} (hseq : s.seq ≠ r.rcvNxt) :
    r.onSegment s = (.outOfOrder, r) := if_pos hseq

/-- Only the next segment can find no room, and only if it is too long. -/
theorem onSegment_eq_noRoom_iff (r : Receiver) (s : Segment) :
    (r.onSegment s).1 = .noRoom ↔ s.seq = r.rcvNxt ∧ r.buffer.available < s.payload.length := by
  unfold onSegment StreamBuffer.writeWhole?
  by_cases hseq : s.seq = r.rcvNxt
  · by_cases hfit : s.payload.length ≤ r.buffer.available
    · simp [hseq, hfit]
    · simp [hseq, hfit, Nat.lt_of_not_le hfit]
  · simp [hseq]

/-- Reading moves bytes from the buffer to the reader. -/
theorem fst_read_append (r : Receiver) (n : Nat) :
    (r.read n).1 ++ (r.read n).2.buffer.contents = r.buffer.contents := by
  show (r.buffer.read n).1 ++ (r.buffer.read n).2.contents = _
  rw [StreamBuffer.fst_read, StreamBuffer.contents_read, List.take_append_drop]

end Receiver

end ReliableStream
