import ReliableStream.Proofs.Buffer
/-! # Stream buffers as bounded byte queues

    Seen from outside, a stream buffer is a **bounded queue**: a list of bytes
    that never grows beyond a limit, and the number of the byte at its front.
    The operations of the queue are written down here on lists, without slots
    and indices, and every run of a buffer is shown to give the replies and the
    reports that the queue gives. Beneath the view, a byte stays in the slot
    it was written to for as long as it is in the queue. -/

namespace ReliableStream

/-! ### The queue -/

/-- A queue of at most `limit` bytes. -/
@[ext]
structure ByteQueue where
  limit : Nat
  /-- The bytes, from the front. -/
  bytes : List UInt8
  /-- The number of the byte at the front, or of the next one to come. -/
  base : UInt32
  length_le : bytes.length ≤ limit

/-- What a buffer can be asked to do. -/
inductive BufferOperation where
  | write (bytes : List UInt8)
  | read (n : Nat)
  | writeWhole (bytes : List UInt8)
  | release (ack : UInt32)
  | clear
  | withCongestionWindow (cwnd : UInt32)
  deriving DecidableEq, Repr

/-- What an operation answers. -/
inductive BufferReply where
  /-- How many bytes were written or given up. -/
  | count (n : Nat)
  | bytes (bytes : List UInt8)
  | refused
  | done
  deriving DecidableEq, Repr

/-- What can be asked about a buffer at any time. -/
@[ext]
structure BufferReport where
  used : Nat
  available : Nat
  isEmpty : Bool
  isFull : Bool
  baseSeq : UInt32
  endSeq : UInt32
  deriving DecidableEq, Repr

/-- The replies to a row of operations, and the state after them. -/
def BufferOperation.runAll {σ : Type} (perform : σ → BufferOperation → BufferReply × σ)
    (state : σ) : List BufferOperation → List BufferReply × σ
  | [] => ([], state)
  | op :: rest =>
    let (reply, next) := perform state op
    let (replies, last) := runAll perform next rest
    (reply :: replies, last)

namespace ByteQueue

/-- The queue without a byte. -/
def empty (limit : Nat) (base : UInt32) : ByteQueue := ⟨limit, [], base, Nat.zero_le _⟩

/-- How many bytes still fit. -/
def room (q : ByteQueue) : Nat := q.limit - q.bytes.length

/-- Adds bytes that fit at the back. -/
def append (q : ByteQueue) (bytes : List UInt8) (h : bytes.length ≤ q.room) : ByteQueue where
  limit := q.limit
  bytes := q.bytes ++ bytes
  base := q.base
  length_le := by
    have := q.length_le
    unfold room at h
    rw [List.length_append]
    omega

/-- Takes `n` bytes from the front; the next byte is then at `base`. -/
def dropFront (q : ByteQueue) (n : Nat) (base : UInt32) : ByteQueue where
  limit := q.limit
  bytes := q.bytes.drop n
  base := base
  length_le := by
    have := q.length_le
    rw [List.length_drop]
    omega

/-- What each operation does to a queue.

    - Writing appends the longest beginning that fits, writing whole appends
      everything or nothing.
    - Reading takes up to `n` bytes from the front.
    - Releasing takes every byte before a number from the front, and nothing if
      that number is not one of the queue's or the one after them.
    - Clearing takes all bytes. The congestion window is no concern of the
      queue. -/
def perform (q : ByteQueue) : BufferOperation → BufferReply × ByteQueue
  | .write bytes =>
    (.count (bytes.take q.room).length, q.append (bytes.take q.room) (List.length_take_le ..))
  | .read n =>
    let taken := q.bytes.take n
    (.bytes taken, q.dropFront taken.length (Sequence.advance q.base taken.length))
  | .writeWhole bytes =>
    if h : bytes.length ≤ q.room then (.count bytes.length, q.append bytes h) else (.refused, q)
  | .release ack =>
    let n := Sequence.steps q.base ack
    if n ≤ q.bytes.length then (.count n, q.dropFront n ack) else (.count 0, q)
  | .clear => (.done, q.dropFront q.bytes.length (Sequence.advance q.base q.bytes.length))
  | .withCongestionWindow _ => (.done, q)

/-- The queue's own account of itself. -/
def report (q : ByteQueue) : BufferReport where
  used := q.bytes.length
  available := q.limit - q.bytes.length
  isEmpty := q.bytes.length = 0
  isFull := q.bytes.length = q.limit
  baseSeq := q.base
  endSeq := Sequence.advance q.base q.bytes.length

theorem limit_perform (q : ByteQueue) (op : BufferOperation) : (q.perform op).2.limit = q.limit := by
  cases op with
  | writeWhole bytes =>
    unfold perform
    dsimp only
    split <;> rfl
  | release ack =>
    unfold perform
    dsimp only
    split <;> rfl
  | _ => rfl

/-- No operation moves the limit. -/
theorem limit_runAll (q : ByteQueue) (ops : List BufferOperation) :
    (BufferOperation.runAll perform q ops).2.limit = q.limit := by
  induction ops generalizing q with
  | nil => rfl
  | cons op rest ih => exact (ih _).trans (q.limit_perform op)

end ByteQueue

/-! ### The buffer as a queue -/

namespace StreamBuffer

/-- What each operation does to a buffer. -/
def perform (b : StreamBuffer) : BufferOperation → BufferReply × StreamBuffer
  | .write bytes => let (n, b') := b.write bytes; (.count n, b')
  | .read n => let (bytes, b') := b.read n; (.bytes bytes, b')
  | .writeWhole bytes =>
    match b.writeWhole? bytes with
    | some b' => (.count bytes.length, b')
    | none => (.refused, b)
  | .release ack => let (n, b') := b.release ack; (.count n, b')
  | .clear => (.done, b.clear)
  | .withCongestionWindow cwnd => (.done, b.withCongestionWindow cwnd)

/-- A segment that fits is written. -/
theorem perform_writeWhole_of_le (b : StreamBuffer) {bytes : List UInt8}
    (h : bytes.length ≤ b.available) :
    b.perform (.writeWhole bytes) = (.count bytes.length, (b.write bytes).2) := by
  have hsome : b.writeWhole? bytes = some (b.write bytes).2 := if_pos h
  simp only [perform, hsome]

/-- One that does not fit changes nothing. -/
theorem perform_writeWhole_of_lt (b : StreamBuffer) {bytes : List UInt8}
    (h : b.available < bytes.length) : b.perform (.writeWhole bytes) = (.refused, b) := by
  have hnone : b.writeWhole? bytes = none := if_neg (Nat.not_le.mpr h)
  simp only [perform, hnone]

/-- No operation changes how large a buffer is and how large its segments. -/
theorem dimensions_perform (b : StreamBuffer) (op : BufferOperation) :
    (b.perform op).2.capacity = b.capacity ∧ (b.perform op).2.mss = b.mss := by
  cases op with
  | write bytes => exact ⟨b.capacity_write bytes, rfl⟩
  | writeWhole bytes =>
    rcases Nat.lt_or_ge b.available bytes.length with hlarge | hfit
    · rw [perform_writeWhole_of_lt b hlarge]
      exact ⟨rfl, rfl⟩
    · rw [perform_writeWhole_of_le b hfit]
      exact ⟨b.capacity_write bytes, rfl⟩
  | release ack => exact ⟨b.capacity_release ack, b.mss_release ack⟩
  | _ => exact ⟨rfl, rfl⟩

theorem dimensions_runAll (b : StreamBuffer) (ops : List BufferOperation) :
    (BufferOperation.runAll perform b ops).2.capacity = b.capacity ∧
      (BufferOperation.runAll perform b ops).2.mss = b.mss := by
  induction ops generalizing b with
  | nil => exact ⟨rfl, rfl⟩
  | cons op rest ih =>
    obtain ⟨hcapacity, hmss⟩ := b.dimensions_perform op
    obtain ⟨hcapacity', hmss'⟩ := ih (b.perform op).2
    exact ⟨hcapacity'.trans hcapacity, hmss'.trans hmss⟩

/-- What the buffer says of itself. -/
def report (b : StreamBuffer) : BufferReport where
  used := b.used
  available := b.available
  isEmpty := b.isEmpty
  isFull := b.isFull
  baseSeq := b.baseSeq
  endSeq := b.endSeq

/-- The queue a buffer stands for. -/
def queue (b : StreamBuffer) : ByteQueue where
  limit := b.capacity - 1
  bytes := b.contents
  base := b.baseSeq
  length_le := by
    have := b.used_add_available
    rw [length_contents]
    omega

/-- The room in the queue is what the buffer has available. -/
theorem room_queue (b : StreamBuffer) : b.queue.room = b.available := by
  have := b.used_add_available
  show b.capacity - 1 - b.contents.length = b.available
  rw [length_contents]
  omega

theorem queue_create (shape : BufferShape) (cwnd first : UInt32) :
    (create shape cwnd first).queue = ByteQueue.empty (shape.capacity - 1) first := rfl

/-- The buffer and its queue give the same account. -/
theorem report_queue (b : StreamBuffer) : b.queue.report = b.report := by
  have hsum := b.used_add_available
  have hlength : b.queue.bytes.length = b.used := b.length_contents
  have hlimit : b.queue.limit = b.capacity - 1 := rfl
  ext1
  · exact hlength
  · show b.queue.limit - b.queue.bytes.length = b.available
    omega
  · show decide (b.queue.bytes.length = 0) = b.isEmpty
    rw [hlength, Bool.eq_iff_iff, decide_eq_true_iff, isEmpty_iff]
  · show decide (b.queue.bytes.length = b.queue.limit) = (b.available == 0)
    rw [Bool.eq_iff_iff, decide_eq_true_iff, beq_iff_eq]
    omega
  · rfl
  · show Sequence.advance b.baseSeq b.queue.bytes.length = Sequence.advance b.baseSeq b.used
    rw [hlength]

theorem perform_write (b : StreamBuffer) (bytes : List UInt8) :
    b.queue.perform (.write bytes) =
      ((b.perform (.write bytes)).1, (b.perform (.write bytes)).2.queue) := by
  refine Prod.ext ?_ (ByteQueue.ext ?_ ?_ rfl)
  · show BufferReply.count (bytes.take b.queue.room).length = .count (b.write bytes).1
    rw [room_queue, fst_write, List.length_take]
  · show b.capacity - 1 = (b.write bytes).2.capacity - 1
    rw [capacity_write]
  · show b.contents ++ bytes.take b.queue.room = (b.write bytes).2.contents
    rw [room_queue, contents_write]

theorem perform_read (b : StreamBuffer) (n : Nat) :
    b.queue.perform (.read n) = ((b.perform (.read n)).1, (b.perform (.read n)).2.queue) := by
  have htaken : b.contents.take n = (b.read n).1 := (b.fst_read n).symm
  refine Prod.ext ?_ (ByteQueue.ext rfl ?_ ?_)
  · show BufferReply.bytes (b.contents.take n) = .bytes (b.read n).1
    rw [htaken]
  · -- Asking for more than there is takes everything.
    show b.contents.drop (b.contents.take n).length = (b.read n).2.contents
    rw [contents_read, List.length_take]
    rcases Nat.le_total n b.contents.length with h | h
    · rw [Nat.min_eq_left h]
    · rw [Nat.min_eq_right h, List.drop_length, List.drop_of_length_le h]
  · show Sequence.advance b.baseSeq (b.contents.take n).length =
      Sequence.advance b.baseSeq (b.read n).1.length
    rw [htaken]

theorem perform_writeWhole (b : StreamBuffer) (bytes : List UInt8) :
    b.queue.perform (.writeWhole bytes) =
      ((b.perform (.writeWhole bytes)).1, (b.perform (.writeWhole bytes)).2.queue) := by
  have hroom := b.room_queue
  rcases Nat.lt_or_ge b.available bytes.length with hlarge | hfit
  · have hqueue : ¬ bytes.length ≤ b.queue.room := by omega
    rw [perform_writeWhole_of_lt b hlarge]
    exact dif_neg hqueue
  · have hqueue : bytes.length ≤ b.queue.room := by omega
    rw [perform_writeWhole_of_le b hfit]
    refine (dif_pos hqueue).trans (Prod.ext rfl (ByteQueue.ext ?_ ?_ rfl))
    · show b.capacity - 1 = (b.write bytes).2.capacity - 1
      rw [capacity_write]
    · show b.contents ++ bytes = (b.write bytes).2.contents
      rw [contents_write, List.take_of_length_le hfit]

theorem perform_release (b : StreamBuffer) (ack : UInt32) :
    b.queue.perform (.release ack) =
      ((b.perform (.release ack)).1, (b.perform (.release ack)).2.queue) := by
  have hlength : b.queue.bytes.length = b.used := b.length_contents
  unfold perform ByteQueue.perform
  by_cases hplace : Sequence.steps b.baseSeq ack ≤ b.used
  · have hqueue : Sequence.steps b.queue.base ack ≤ b.queue.bytes.length := by
      rw [hlength]
      exact hplace
    simp only [release_eq b hplace]
    rw [if_pos hqueue]
    exact Prod.ext rfl (ByteQueue.ext rfl (b.ring.contents_drop _).symm rfl)
  · have hqueue : ¬ Sequence.steps b.queue.base ack ≤ b.queue.bytes.length := by
      rw [hlength]
      exact hplace
    have hnone : b.release ack = (0, b) := release_of_lt b (Nat.lt_of_not_le hplace)
    simp only [hnone]
    rw [if_neg hqueue]

theorem perform_clear (b : StreamBuffer) :
    b.queue.perform .clear = ((b.perform .clear).1, (b.perform .clear).2.queue) := by
  refine Prod.ext rfl (ByteQueue.ext rfl ?_ ?_)
  · show b.contents.drop b.contents.length = b.clear.contents
    rw [List.drop_length, contents_clear]
  · show Sequence.advance b.baseSeq b.contents.length = b.endSeq
    rw [length_contents]
    rfl

/-- Each operation does to the queue of a buffer what it does to the buffer,
    and replies the same. -/
theorem perform_queue (b : StreamBuffer) (op : BufferOperation) :
    b.queue.perform op = ((b.perform op).1, (b.perform op).2.queue) := by
  cases op with
  | write bytes => exact b.perform_write bytes
  | read n => exact b.perform_read n
  | writeWhole bytes => exact b.perform_writeWhole bytes
  | release ack => exact b.perform_release ack
  | clear => exact b.perform_clear
  | withCongestionWindow cwnd => rfl

/-- So does each row of operations. -/
theorem runAll_queue (b : StreamBuffer) (ops : List BufferOperation) :
    BufferOperation.runAll ByteQueue.perform b.queue ops =
      ((BufferOperation.runAll perform b ops).1, (BufferOperation.runAll perform b ops).2.queue) := by
  induction ops generalizing b with
  | nil => rfl
  | cons op rest ih => simp only [BufferOperation.runAll, perform_queue, ih]

/-- A buffer stands for the queue that the same operations lead to. -/
theorem queue_runAll_create (shape : BufferShape) (cwnd first : UInt32)
    (ops : List BufferOperation) :
    (BufferOperation.runAll perform (create shape cwnd first) ops).2.queue =
      (BufferOperation.runAll ByteQueue.perform
        (ByteQueue.empty (shape.capacity - 1) first) ops).2 := by
  have hboth := runAll_queue (create shape cwnd first) ops
  rw [queue_create] at hboth
  rw [hboth]

end StreamBuffer

/-! ### Bytes keep their slots -/

namespace Ring

/-- The byte at a place of the ring stands in a slot. -/
structure Stands (r : Ring) (place slot : Nat) (byte : UInt8) : Prop where
  lt : place < r.used
  index : r.index place = slot
  byte : r.slot slot = byte

/-- Writing a byte overwrites none that is in the ring. -/
theorem Stands.push {r : Ring} {place slot : Nat} {byte b : UInt8} (h : r.Stands place slot byte)
    (hroom : r.used + 1 < r.capacity) : (r.push b).Stands place slot byte where
  lt := by
    have := h.lt
    rw [r.used_push b hroom]
    omega
  index := h.index
  byte := by
    have hback := r.index_ne_back h.lt
    rw [h.index] at hback
    rw [slot_push, if_neg hback, h.byte]

theorem Stands.foldl_push {place slot : Nat} {byte : UInt8} (bytes : List UInt8) {r : Ring}
    (h : r.Stands place slot byte) (hroom : r.used + bytes.length < r.capacity) :
    (bytes.foldl Ring.push r).Stands place slot byte := by
  induction bytes generalizing r with
  | nil => exact h
  | cons b rest ih =>
    rw [List.length_cons] at hroom
    have hfirst : r.used + 1 < r.capacity := by omega
    refine ih (h.push hfirst) ?_
    rw [r.used_push b hfirst, capacity_push]
    omega

theorem Stands.write {r : Ring} {place slot : Nat} {byte : UInt8} (h : r.Stands place slot byte)
    (bytes : List UInt8) : (r.write bytes).2.Stands place slot byte := by
  have hlt := r.used_lt
  have hsum := r.used_add_available
  have htake := List.length_take_le r.available bytes
  exact h.foldl_push _ (by omega)

/-- Giving up older bytes moves a byte forward in the ring, and leaves it in
    its slot. -/
theorem Stands.drop {r : Ring} {place slot n : Nat} {byte : UInt8} (h : r.Stands place slot byte)
    (hstay : n ≤ place) : (r.drop n).Stands (place - n) slot byte where
  lt := by
    have := h.lt
    rw [used_drop]
    omega
  index := by
    have := h.lt
    rw [r.index_drop (by omega), Nat.add_sub_cancel' hstay]
    exact h.index
  byte := h.byte

end Ring

/-- How many bytes leave a queue by an operation. -/
def ByteQueue.leaving (q : ByteQueue) (op : BufferOperation) : Nat :=
  match op with
  | .write _ | .writeWhole _ | .withCongestionWindow _ => 0
  | .read n => min n q.bytes.length
  | .release ack =>
    let n := Sequence.steps q.base ack
    if n ≤ q.bytes.length then n else 0
  | .clear => q.bytes.length

/-- How many bytes leave a queue by a row of operations. -/
def ByteQueue.leavingAll (q : ByteQueue) : List BufferOperation → Nat
  | [] => 0
  | op :: rest => q.leaving op + (q.perform op).2.leavingAll rest

namespace StreamBuffer

theorem leaving_read (b : StreamBuffer) (n : Nat) :
    b.queue.leaving (.read n) = min n b.ring.used := by
  rw [← show b.queue.bytes.length = b.ring.used from b.length_contents]
  rfl

theorem leaving_release_of_le (b : StreamBuffer) {ack : UInt32}
    (h : Sequence.steps b.baseSeq ack ≤ b.used) :
    b.queue.leaving (.release ack) = Sequence.steps b.baseSeq ack :=
  if_pos (Nat.le_trans h (Nat.le_of_eq b.length_contents.symm))

theorem leaving_release_of_lt (b : StreamBuffer) {ack : UInt32}
    (h : b.used < Sequence.steps b.baseSeq ack) : b.queue.leaving (.release ack) = 0 :=
  if_neg fun hle => Nat.not_le.mpr h (Nat.le_trans hle (Nat.le_of_eq b.length_contents))

theorem leaving_clear (b : StreamBuffer) : b.queue.leaving .clear = b.ring.used :=
  b.length_contents

/-- An operation leaves the bytes that stay in the queue in their slots. -/
theorem stands_perform {b : StreamBuffer} {op : BufferOperation} {place slot : Nat} {byte : UInt8}
    (h : b.ring.Stands place slot byte) (hstay : b.queue.leaving op ≤ place) :
    (b.perform op).2.ring.Stands (place - b.queue.leaving op) slot byte := by
  cases op with
  | write bytes => exact h.write bytes
  | read n =>
    have hlt := h.lt
    rw [leaving_read] at hstay ⊢
    -- A byte that stays is behind all that were asked for.
    have hmin : min n b.ring.used = n := by omega
    rw [hmin] at hstay ⊢
    exact h.drop hstay
  | writeWhole bytes =>
    rcases Nat.lt_or_ge b.available bytes.length with hlarge | hfit
    · rw [perform_writeWhole_of_lt b hlarge]
      exact h
    · rw [perform_writeWhole_of_le b hfit]
      exact h.write bytes
  | release ack =>
    show (b.release ack).2.ring.Stands _ slot byte
    rcases Nat.lt_or_ge b.used (Sequence.steps b.baseSeq ack) with hfar | hplace
    · rw [leaving_release_of_lt b hfar, release_of_lt b hfar]
      exact h
    · rw [leaving_release_of_le b hplace] at hstay ⊢
      rw [release_eq b hplace]
      exact h.drop hstay
  | clear =>
    -- Nothing stays.
    have hlt := h.lt
    rw [leaving_clear] at hstay
    omega
  | withCongestionWindow cwnd => exact h

theorem leavingAll_cons (b : StreamBuffer) (op : BufferOperation) (rest : List BufferOperation) :
    b.queue.leavingAll (op :: rest) =
      b.queue.leaving op + (b.perform op).2.queue.leavingAll rest := by
  show b.queue.leaving op + (b.queue.perform op).2.leavingAll rest = _
  rw [perform_queue]

/-- So does a row of operations. -/
theorem stands_runAll (ops : List BufferOperation) {b : StreamBuffer} {place slot : Nat}
    {byte : UInt8} (h : b.ring.Stands place slot byte) (hstay : b.queue.leavingAll ops ≤ place) :
    (BufferOperation.runAll perform b ops).2.ring.Stands (place - b.queue.leavingAll ops)
      slot byte := by
  induction ops generalizing b place with
  | nil => exact h
  | cons op rest ih =>
    rw [leavingAll_cons] at hstay ⊢
    rw [← Nat.sub_sub]
    have hfirst : b.queue.leaving op ≤ place := by omega
    have hrest : (b.perform op).2.queue.leavingAll rest ≤ place - b.queue.leaving op := by omega
    exact ih (stands_perform h hfirst) hrest

/-! ### Refinement -/

/-- **Refinement.** A stream buffer is a bounded queue of one byte fewer than it
    has slots: whatever is done to it from its creation on, in whatever order,
    it replies as the queue does, holds afterwards what the queue holds and
    reports what the queue reports. A byte that is in the queue by then is
    found unchanged in the same slot for as long as later operations have not
    taken it out. -/
theorem refines_byteQueue (shape : BufferShape) (cwnd first : UInt32)
    (ops : List BufferOperation) :
    let concrete := BufferOperation.runAll perform (create shape cwnd first) ops
    let abstract := BufferOperation.runAll ByteQueue.perform
      (ByteQueue.empty (shape.capacity - 1) first) ops
    concrete.1 = abstract.1 ∧
      concrete.2.contents = abstract.2.bytes ∧
      concrete.2.report = abstract.2.report ∧
      abstract.2.limit = shape.capacity - 1 ∧
      abstract.2.bytes.length ≤ shape.capacity - 1 ∧
      ∀ later place slot byte, concrete.2.ring.Stands place slot byte →
        abstract.2.leavingAll later ≤ place →
        (BufferOperation.runAll perform concrete.2 later).2.ring.Stands
          (place - abstract.2.leavingAll later) slot byte := by
  intro concrete abstract
  have hrun : abstract = (concrete.1, concrete.2.queue) := by
    show BufferOperation.runAll ByteQueue.perform (ByteQueue.empty (shape.capacity - 1) first) ops = _
    rw [← queue_create shape cwnd first]
    exact runAll_queue _ ops
  have hlimit : abstract.2.limit = shape.capacity - 1 := by
    rw [ByteQueue.limit_runAll]
    rfl
  refine ⟨?_, ?_, ?_, hlimit, ?_, ?_⟩
  · rw [hrun]
  · rw [hrun]
    rfl
  · rw [hrun]
    exact concrete.2.report_queue.symm
  · rw [← hlimit]
    exact abstract.2.length_le
  · intro later place slot byte hstands hstay
    rw [hrun] at hstay ⊢
    exact stands_runAll later hstands hstay

end StreamBuffer

end ReliableStream
