import ReliableStream.Proofs.ByteQueue
import ReliableStream.Proofs.Checked.Rings
/-! # Offsets as stream positions

    Number the bytes that a stream buffer ever accepted by their **positions**,
    from zero on. The number of the byte at a position is the first number
    advanced by it, and its slot is the position modulo the capacity. Neither
    can be computed from the other, since the capacity need not divide the range
    of the numbers: what ties the two together is the position, and that is not
    stored anywhere.

    So the invariant speaks of how many bytes have **left** the front so far, a
    count without a bound. The front slot and the base number both follow it,
    the one modulo the capacity and the other modulo the range of the numbers. -/

namespace ReliableStream

open Sequence

/-! ### What enters a queue and what leaves it -/

namespace ByteQueue

/-- The bytes that an operation adds to a queue. -/
def entering (q : ByteQueue) : BufferOperation → List UInt8
  | .write bytes => bytes.take q.room
  | .writeWhole bytes => if bytes.length ≤ q.room then bytes else []
  | _ => []

/-- The bytes that a row of operations adds to a queue. -/
def enteringAll (q : ByteQueue) : List BufferOperation → List UInt8
  | [] => []
  | op :: rest => q.entering op ++ (q.perform op).2.enteringAll rest

/-- Only bytes that are in the queue leave it. -/
theorem leaving_le (q : ByteQueue) (op : BufferOperation) : q.leaving op ≤ q.bytes.length := by
  cases op with
  | read n => exact Nat.min_le_right ..
  | release ack =>
    unfold leaving
    dsimp only
    split
    · assumption
    · exact Nat.zero_le _
  | clear => exact Nat.le_refl _
  | _ => exact Nat.zero_le _

/-- What leaves, leaves at the front. What enters, enters at the back. -/
theorem bytes_perform (q : ByteQueue) (op : BufferOperation) :
    (q.perform op).2.bytes = q.bytes.drop (q.leaving op) ++ q.entering op := by
  cases op with
  | write bytes => rfl
  | read n =>
    show q.bytes.drop (q.bytes.take n).length = q.bytes.drop (min n q.bytes.length) ++ []
    rw [List.length_take, List.append_nil]
  | writeWhole bytes =>
    unfold perform entering
    dsimp only
    by_cases hfit : bytes.length ≤ q.room
    · rw [dif_pos hfit, if_pos hfit]
      rfl
    · rw [dif_neg hfit, if_neg hfit]
      exact (List.append_nil _).symm
  | release ack =>
    unfold perform leaving
    dsimp only
    by_cases hplace : steps q.base ack ≤ q.bytes.length
    · rw [if_pos hplace, if_pos hplace]
      exact (List.append_nil _).symm
    · rw [if_neg hplace, if_neg hplace]
      exact (List.append_nil _).symm
  | clear => exact (List.append_nil _).symm
  | withCongestionWindow cwnd => exact (List.append_nil _).symm

/-- In a row of operations too, what was there first leaves first. -/
theorem bytes_runAll (q : ByteQueue) (ops : List BufferOperation) :
    q.leavingAll ops ≤ (q.bytes ++ q.enteringAll ops).length ∧
      (BufferOperation.runAll perform q ops).2.bytes =
        (q.bytes ++ q.enteringAll ops).drop (q.leavingAll ops) := by
  induction ops generalizing q with
  | nil => exact ⟨Nat.zero_le _, (List.append_nil _).symm⟩
  | cons op rest ih =>
    have hle := q.leaving_le op
    obtain ⟨hrest, hbytes⟩ := ih (q.perform op).2
    -- All that enters is behind what leaves first.
    have hsplit : (q.perform op).2.bytes ++ (q.perform op).2.enteringAll rest =
        (q.bytes ++ q.enteringAll (op :: rest)).drop (q.leaving op) := by
      rw [bytes_perform, List.append_assoc, List.drop_append_of_le_length hle]
      rfl
    rw [hsplit] at hrest hbytes
    refine ⟨?_, ?_⟩
    · rw [List.length_drop, List.length_append] at hrest
      rw [List.length_append]
      show q.leaving op + (q.perform op).2.leavingAll rest ≤ _
      omega
    · show (BufferOperation.runAll perform (q.perform op).2 rest).2.bytes = _
      rw [hbytes, List.drop_drop]
      rfl

end ByteQueue

/-! ### Fronts follow positions -/

namespace Ring

theorem front_drop (r : Ring) (n : Nat) :
    (r.drop n).front = (r.front + min n r.used) % r.capacity := by
  have hlt := r.used_lt
  exact r.index_eq_mod (by omega)

theorem front_clear (r : Ring) : r.clear.front = (r.front + r.used) % r.capacity := by
  rw [← r.index_eq_mod (Nat.le_of_lt r.used_lt), index_used]
  rfl

end Ring

namespace StreamBuffer

variable {b : StreamBuffer} {capacity left d : Nat} {first seq : UInt32}

/-- So many bytes have left a buffer, which began with the number `first`. -/
structure Aligned (b : StreamBuffer) (capacity : Nat) (first : UInt32) (left : Nat) : Prop where
  capacity_eq : b.capacity = capacity
  front_eq : b.ring.front = left % capacity
  baseSeq_eq : b.baseSeq = advance first left

theorem aligned_create (shape : BufferShape) (cwnd first : UInt32) :
    (create shape cwnd first).Aligned shape.capacity first 0 :=
  ⟨rfl, (Nat.zero_mod _).symm, (advance_zero first).symm⟩

/-- An operation moves the front and the base number by what leaves. -/
theorem front_perform (b : StreamBuffer) (op : BufferOperation) :
    (b.perform op).2.ring.front = (b.ring.front + b.queue.leaving op) % b.capacity ∧
      (b.perform op).2.baseSeq = advance b.baseSeq (b.queue.leaving op) := by
  -- Where nothing leaves, neither moves.
  have hstays : b.ring.front = (b.ring.front + 0) % b.capacity ∧
      b.baseSeq = advance b.baseSeq 0 :=
    ⟨(Nat.mod_eq_of_lt b.ring.front_lt).symm, (advance_zero _).symm⟩
  have hwrites (bytes : List UInt8) : (b.write bytes).2.ring.front = b.ring.front :=
    Ring.front_foldl_push _ b.ring
  cases op with
  | write bytes => exact ⟨(hwrites bytes).trans hstays.1, hstays.2⟩
  | read n =>
    have htaken : (b.read n).1.length = min n b.ring.used := Ring.length_slice ..
    rw [leaving_read]
    refine ⟨b.ring.front_drop n, ?_⟩
    rw [← htaken]
    rfl
  | writeWhole bytes =>
    rcases Nat.lt_or_ge b.available bytes.length with hlarge | hfit
    · rw [perform_writeWhole_of_lt b hlarge]
      exact hstays
    · rw [perform_writeWhole_of_le b hfit]
      exact ⟨(hwrites bytes).trans hstays.1, hstays.2⟩
  | release ack =>
    show (b.release ack).2.ring.front = _ ∧ (b.release ack).2.baseSeq = _
    rcases Nat.lt_or_ge b.used (steps b.baseSeq ack) with hfar | hplace
    · rw [leaving_release_of_lt b hfar, release_of_lt b hfar]
      exact hstays
    · have hall : min (steps b.baseSeq ack) b.ring.used = steps b.baseSeq ack :=
        Nat.min_eq_left hplace
      rw [leaving_release_of_le b hplace, release_eq b hplace]
      refine ⟨?_, (advance_steps b.baseSeq ack).symm⟩
      rw [Ring.front_drop, hall]
      rfl
  | clear =>
    rw [leaving_clear]
    exact ⟨b.ring.front_clear, rfl⟩
  | withCongestionWindow cwnd => exact hstays

theorem Aligned.perform (h : b.Aligned capacity first left) (op : BufferOperation) :
    (b.perform op).2.Aligned capacity first (left + b.queue.leaving op) := by
  obtain ⟨hfront, hbase⟩ := b.front_perform op
  refine ⟨(b.dimensions_perform op).1.trans h.capacity_eq, ?_, ?_⟩
  · rw [hfront, h.capacity_eq, h.front_eq, Nat.mod_add_mod]
  · rw [hbase, h.baseSeq_eq, advance_add]

theorem Aligned.runAll (h : b.Aligned capacity first left) (ops : List BufferOperation) :
    (BufferOperation.runAll StreamBuffer.perform b ops).2.Aligned capacity first
      (left + b.queue.leavingAll ops) := by
  induction ops generalizing b left with
  | nil => exact h
  | cons op rest ih =>
    rw [leavingAll_cons, ← Nat.add_assoc]
    exact ih (h.perform op)

/-! ### Offsets -/

/-- A buffered number, or the next one to come, has the slot of its position. -/
theorem Aligned.offset?_advance (h : b.Aligned capacity first left)
    (hcapacity : capacity < 4_294_967_296) (hd : d ≤ b.used) :
    b.offset? (advance first (left + d)) = some ((left + d) % capacity) := by
  have hlt := b.used_lt
  have hsize := h.capacity_eq
  have hsteps : steps b.baseSeq (advance first (left + d)) = d := by
    rw [advance_add, ← h.baseSeq_eq]
    exact steps_advance_of_lt _ (by omega)
  have hindex : b.ring.index d = (left + d) % capacity := by
    rw [b.ring.index_eq_mod (Nat.le_of_lt (Nat.lt_of_le_of_lt hd hlt)), h.front_eq,
      show b.ring.capacity = capacity from hsize, Nat.mod_add_mod]
  have hplace : b.place? (advance first (left + d)) = some d := by
    rw [b.place?_eq_some (Nat.le_trans (Nat.le_of_eq hsteps) hd), hsteps]
  unfold offset?
  rw [hplace, Option.map_some, hindex]

/-- No other number has a slot. -/
theorem Aligned.offset?_eq_none (h : b.Aligned capacity first left)
    (hseq : ∀ d ≤ b.used, seq ≠ advance first (left + d)) : b.offset? seq = none := by
  have hfar : b.used < steps b.baseSeq seq := by
    rw [← Nat.not_le]
    intro hnear
    apply hseq _ hnear
    rw [advance_add, ← h.baseSeq_eq, advance_steps]
  unfold offset?
  rw [b.place?_eq_none hfar, Option.map_none]

/-- **Offsets.** Whatever was done to a stream buffer from its creation on, and
    however many bytes have left its front meanwhile: it holds the accepted bytes
    after these, the base number is the first one advanced by as many, and the
    buffered numbers and the one after them have the slots of their stream
    positions. No other number has a slot. -/
theorem offsets_follow_positions (shape : BufferShape)
    (hcapacity : shape.capacity < 4_294_967_296) (cwnd first : UInt32)
    (ops : List BufferOperation) :
    let b := (BufferOperation.runAll perform (create shape cwnd first) ops).2
    let q := ByteQueue.empty (shape.capacity - 1) first
    let left := q.leavingAll ops
    (left ≤ (q.enteringAll ops).length ∧ b.contents = (q.enteringAll ops).drop left) ∧
      b.baseSeq = advance first left ∧
      (∀ d ≤ b.used, b.offset? (advance first (left + d)) = some ((left + d) % shape.capacity)) ∧
      ∀ seq, (∀ d ≤ b.used, seq ≠ advance first (left + d)) → b.offset? seq = none := by
  intro b q left
  have haligned : b.Aligned shape.capacity first left := by
    have hrun := (aligned_create shape cwnd first).runAll ops
    rw [queue_create, Nat.zero_add] at hrun
    exact hrun
  have hcontents : b.contents = (BufferOperation.runAll ByteQueue.perform q ops).2.bytes :=
    congrArg ByteQueue.bytes (queue_runAll_create shape cwnd first ops)
  refine ⟨?_, haligned.baseSeq_eq, fun d hd => haligned.offset?_advance hcapacity hd,
    fun seq hseq => haligned.offset?_eq_none hseq⟩
  rw [hcontents]
  exact q.bytes_runAll ops

/-- Whatever a buffer can be asked to do, in a row. -/
def mixedOperations : List BufferOperation :=
  [.write [1, 2, 3, 4, 5, 6], .withCongestionWindow 3, .read 3, .writeWhole [7, 8, 9],
    .release 4_294_967_295, .clear, .write [10, 11, 12]]

/-- Seven bytes have left a ring of five slots, and the numbers have wrapped. The
    three bytes that follow are around the end of the ring. -/
theorem offsets_after_mixed_operations :
    let shape : BufferShape :=
      { capacity := 5, mss := 2, two_le_capacity := by decide, mss_pos := by decide }
    let b := (BufferOperation.runAll perform (create shape 9 4_294_967_290) mixedOperations).2
    b.contents = [10, 11, 12] ∧ b.baseSeq = 1 ∧
      (∀ d ≤ 3, b.offset? (advance 1 d) = some ((7 + d) % 5)) ∧
      ∀ seq, (∀ d ≤ 3, seq ≠ advance 1 d) → b.offset? seq = none := by
  intro shape b
  have hleft : (ByteQueue.empty (shape.capacity - 1) 4_294_967_290).leavingAll
      mixedOperations = 7 := by decide +kernel
  have hused : b.used = 3 := by decide +kernel
  have hwrapped (d : Nat) : advance 4_294_967_290 (7 + d) = advance 1 d := advance_add _ 7 d
  obtain ⟨-, hbase, hbuffered, hothers⟩ :=
    offsets_follow_positions shape (by decide) 9 4_294_967_290 mixedOperations
  rw [hleft] at hbase hbuffered hothers
  refine ⟨by decide +kernel, hbase, ?_, ?_⟩
  · intro d hd
    rw [← hwrapped]
    exact hbuffered d (Nat.le_trans hd (Nat.le_of_eq hused.symm))
  · intro seq hseq
    refine hothers seq fun d hd => ?_
    rw [hwrapped]
    exact hseq d (Nat.le_trans hd (Nat.le_of_eq hused))

end StreamBuffer

end ReliableStream
