import ReliableStream.Proofs.Checked.Words
import ReliableStream.Proofs.Slices
/-! # Stream buffers in flat memory

    A stream buffer as a machine keeps it: a row of `capacity` bytes, all of
    them allocated at once, the index of the oldest byte and the index behind
    the newest. Whatever passes the end of the row is copied in two stretches,
    and every index is computed modulo the capacity.

    `StreamBuffer.flat` lays a stream buffer out in this way. On such rows each
    operation has a result, and it is that of the plain operation. -/

namespace ReliableStream.Checked

open Sequence

/-- A stream buffer in flat memory. -/
structure Buffer where
  data : List UInt8
  /-- The index of the oldest byte. -/
  base : Nat
  /-- The index behind the newest byte. -/
  stop : Nat
  /-- The sequence number of the oldest byte. -/
  baseSeq : UInt32
  cwnd : UInt32
  mss : Nat

namespace Buffer

/-- The empty buffer. Its dimensions are asserted. -/
def create (capacity mss : Nat) (cwnd first : UInt32) : Except Trap Buffer :=
  if capacity < 2 then .error .assertion
  else if mss < 1 then .error .assertion
  else .ok
    { data := List.replicate capacity 0, base := 0, stop := 0, baseSeq := first, cwnd, mss }

def capacity (b : Buffer) : Nat := b.data.length

/-- The index `n` behind another one, around the end of the row. -/
def ahead (b : Buffer) (index n : Nat) : Except Trap Nat := do
  rem (← add .bits64 index n) b.capacity

/-- How many bytes are buffered. -/
def used (b : Buffer) : Except Trap Nat := do
  let turned ← sub (← add .bits64 b.stop b.capacity) b.base
  rem turned b.capacity

/-- How many bytes can still be written. -/
def available (b : Buffer) : Except Trap Nat := do
  let unused ← sub b.capacity (← b.used)
  sub unused 1

def isEmpty (b : Buffer) : Bool := b.base == b.stop

/-- Writing one more byte would make the buffer look empty. -/
def isFull (b : Buffer) : Except Trap Bool := do
  return (← b.ahead b.stop 1) == b.base

/-- The sequence number just after the newest byte. -/
def endSeq (b : Buffer) : Except Trap UInt32 := do return advance b.baseSeq (← b.used)

/-- The place of a sequence number counted from the oldest byte, if it is
    buffered or the next to come. -/
def place? (b : Buffer) (seq : UInt32) : Except Trap (Option Nat) := do
  let n := steps b.baseSeq seq
  if n ≤ (← b.used) then return some n else return none

/-- The index of a sequence number. -/
def offset? (b : Buffer) (seq : UInt32) : Except Trap (Option Nat) := do
  match ← b.place? seq with
  | some n => return some (← b.ahead b.base n)
  | none => return none

/-- Copies bytes out of the row, around its end if need be. -/
def copyOut (b : Buffer) (start size : Nat) : Except Trap (List UInt8) := do
  let first := min size (← sub b.capacity start)
  let head ← slice b.data start (← add .bits64 start first)
  let tail ← slice b.data 0 (← sub size first)
  return head ++ tail

/-- Writes as many of the bytes as fit, and says how many those are. -/
def write (b : Buffer) (bytes : List UInt8) : Except Trap (Nat × Buffer) := do
  let n := min bytes.length (← b.available)
  let first := min n (← sub b.capacity b.stop)
  let data ← blit b.data b.stop (← add .bits64 b.stop first) (← slice bytes 0 first)
  let data ← blit data 0 (← sub n first) (← slice bytes first n)
  let stop ← b.ahead b.stop n
  return (n, { b with data, stop })

/-- Takes bytes out into a row of `size` bytes, as many as there are. -/
def read (b : Buffer) (size : Nat) : Except Trap (List UInt8 × Buffer) := do
  let n := min size (← b.used)
  let chunk ← b.copyOut b.base n
  let out ← blit (List.replicate size 0) 0 n chunk
  let base ← b.ahead b.base n
  return (out.take n, { b with base, baseSeq := advance b.baseSeq n })

/-- Writes all of the bytes, or refuses if they do not all fit. -/
def writeWhole? (b : Buffer) (bytes : List UInt8) : Except Trap (Option Buffer) := do
  if (← b.available) < bytes.length then return none
  else return some (← b.write bytes).2

/-- Gives up every byte before the number `ack`, and says how many those are. -/
def release (b : Buffer) (ack : UInt32) : Except Trap (Nat × Buffer) := do
  match ← b.place? ack with
  | some n =>
    let base ← b.ahead b.base n
    return (n, { b with base, baseSeq := ack })
  | none => return (0, b)

/-- Gives up every byte. -/
def clear (b : Buffer) : Except Trap Buffer := do
  return { b with baseSeq := ← b.endSeq, base := b.stop }

def withCongestionWindow (b : Buffer) (cwnd : UInt32) : Buffer := { b with cwnd }

/-- The pieces of a cut of `total` bytes from `offset` on. Each pass covers a
    piece, and there are at most so many passes. -/
def pieces (b : Buffer) (srcPort dstPort : UInt16) (start : UInt32) (index total : Nat) :
    Nat → Nat → Except Trap (List Segment)
  | 0, offset => if offset < total then .error .endless else .ok []
  | passes + 1, offset =>
    if offset < total then do
      let size := min b.mss (← sub total offset)
      let payload ← b.copyOut (← b.ahead index offset) size
      let segment : Segment :=
        { srcPort, dstPort, kind := .data, window := b.cwnd, seq := advance start offset, payload }
      let rest ← b.pieces srcPort dstPort start index total passes (← add .bits64 offset size)
      return segment :: rest
    else .ok []

/-- Cuts the bytes from the number `start` on into data segments. -/
def cut (b : Buffer) (srcPort dstPort : UInt16) (start window : UInt32) :
    Except Trap (List Segment) := do
  match ← b.place? start, ← b.offset? start with
  | some skip, some index =>
    let pending ← sub (← b.used) skip
    let total := min (min pending b.cwnd.toNat) window.toNat
    -- Room for the pieces is reserved first.
    let _ ← quotUp total b.mss
    -- A pass that covered nothing would never end; one that does covers a byte.
    b.pieces srcPort dstPort start index total total 0
  | _, _ => return []

end Buffer

end ReliableStream.Checked

namespace ReliableStream

open Checked

/-! ### Rings laid out flat -/

namespace Ring

/-- All slots of a ring in a row. -/
def flat (r : Ring) : List UInt8 := (List.range r.capacity).map r.slot

@[simp] theorem length_flat (r : Ring) : r.flat.length = r.capacity := by simp [flat]

theorem wrap_eq {n capacity : Nat} (h : n < capacity + capacity) :
    n % capacity = if n < capacity then n else n - capacity := by
  by_cases hn : n < capacity
  · rw [if_pos hn, Nat.mod_eq_of_lt hn]
  · rw [if_neg hn, Nat.mod_eq_sub_mod (by omega), Nat.mod_eq_of_lt (by omega)]

/-- Computed modulo the capacity, an index is that of the ring. -/
theorem index_eq_mod (r : Ring) {offset : Nat} (h : offset ≤ r.capacity) :
    r.index offset = (r.front + offset) % r.capacity := by
  have hfront := r.front_lt
  rw [wrap_eq (by omega)]
  rfl

theorem index_lt (r : Ring) {offset : Nat} (h : offset ≤ r.capacity) :
    r.index offset < r.capacity := by
  have htwo := r.two_le
  rw [r.index_eq_mod h]
  exact Nat.mod_lt _ (by omega)

theorem used_eq_mod (r : Ring) : r.used = (r.back + r.capacity - r.front) % r.capacity := by
  have hfront := r.front_lt
  have hback := r.back_lt
  rw [wrap_eq (by omega)]
  unfold used
  by_cases h : r.front ≤ r.back
  · rw [if_pos h, if_neg (by omega)]
    omega
  · rw [if_neg h, if_pos (by omega)]

theorem flat_push (r : Ring) (b : UInt8) : (r.push b).flat = r.flat.set r.back b := by
  apply List.ext_getElem
  · simp
  · intro i h₁ h₂
    simp only [flat, List.getElem_map, List.getElem_range, List.getElem_set, slot_push]
    by_cases h : i = r.back
    · rw [if_pos h, if_pos h.symm]
    · rw [if_neg h, if_neg (Ne.symm h)]

theorem front_foldl_push (bytes : List UInt8) (r : Ring) :
    (bytes.foldl push r).front = r.front := by
  induction bytes generalizing r with
  | nil => rfl
  | cons b rest ih => rw [List.foldl_cons, ih]; rfl

theorem back_push (r : Ring) (b : UInt8) : (r.push b).back = (r.back + 1) % r.capacity := by
  have hback := r.back_lt
  rw [wrap_eq (by omega)]
  show (if r.back + 1 < r.capacity then r.back + 1 else 0) = _
  by_cases h : r.back + 1 < r.capacity
  · rw [if_pos h, if_pos h]
  · rw [if_neg h, if_neg h]
    omega

/-- The back moves on by as many slots as bytes are written. -/
theorem back_foldl_push (bytes : List UInt8) (r : Ring) :
    (bytes.foldl push r).back = (r.back + bytes.length) % r.capacity := by
  induction bytes generalizing r with
  | nil => exact (Nat.mod_eq_of_lt r.back_lt).symm
  | cons b rest ih =>
    rw [List.foldl_cons, ih, back_push, capacity_push, Nat.mod_add_mod, List.length_cons]
    congr 1
    omega

/-- Bytes that do not reach around the end of the row are written in one
    stretch. -/
theorem flat_foldl_push (bytes : List UInt8) {r : Ring}
    (h : r.back + bytes.length ≤ r.capacity) :
    (bytes.foldl push r).flat =
      r.flat.take r.back ++ bytes ++ r.flat.drop (r.back + bytes.length) := by
  induction bytes generalizing r with
  | nil => simp
  | cons b rest ih =>
    have hback := r.back_lt
    have hset : (r.push b).flat = r.flat.take r.back ++ b :: r.flat.drop (r.back + 1) := by
      rw [flat_push, List.set_eq_take_append_cons_drop, if_pos (by rw [length_flat]; exact hback)]
    rw [List.length_cons] at h ⊢
    rw [List.foldl_cons]
    rcases rest with - | ⟨c, rest⟩
    · rw [List.foldl_nil, hset]
      simp
    · rw [List.length_cons] at h
      have hnext : (r.push b).back = r.back + 1 := by
        rw [back_push, Nat.mod_eq_of_lt (by omega)]
      have hsize : (r.flat.take r.back).length = r.back := by
        rw [List.length_take, length_flat]
        omega
      have htake : (r.push b).flat.take (r.back + 1) = r.flat.take r.back ++ [b] := by
        rw [hset, List.take_append, hsize, List.take_of_length_le (by omega),
          Nat.add_sub_cancel_left]
        rfl
      have hdrop : (r.push b).flat.drop (r.back + 1 + (rest.length + 1)) =
          r.flat.drop (r.back + 1 + (rest.length + 1)) := by
        rw [hset, List.drop_append, hsize, List.drop_eq_nil_of_le (by omega), List.nil_append,
          show r.back + 1 + (rest.length + 1) - r.back = rest.length + 1 + 1 by omega,
          List.drop_succ_cons, List.drop_drop]
      rw [ih (by rw [hnext, capacity_push, List.length_cons]; omega), hnext, List.length_cons,
        htake, hdrop, List.append_assoc _ [b], List.singleton_append]
      congr 2
      omega

/-- Bytes that do reach around are written in two. -/
theorem flat_foldl_push_append (r : Ring) (head tail : List UInt8)
    (hhead : r.back + head.length ≤ r.capacity) (htail : tail.length ≤ r.capacity)
    (hturn : tail = [] ∨ r.back + head.length = r.capacity) :
    ((head ++ tail).foldl push r).flat =
      tail ++ (r.flat.take r.back ++ head ++ r.flat.drop (r.back + head.length)).drop
        tail.length := by
  rw [List.foldl_append, ← flat_foldl_push head hhead]
  rcases hturn with rfl | hturn
  · rfl
  · have hback : (head.foldl push r).back = 0 := by
      rw [back_foldl_push, hturn, Nat.mod_self]
    rw [flat_foldl_push tail (by rw [hback, capacity_foldl_push]; omega), hback, Nat.zero_add]
    rfl

/-- The stretch of a row from an index on. -/
theorem take_drop_flat (r : Ring) {start n : Nat} (h : start + n ≤ r.capacity) :
    (r.flat.drop start).take n = (List.range n).map fun i => r.slot (start + i) := by
  apply List.ext_getElem
  · simp
    omega
  · intro i h₁ h₂
    simp [flat]

/-- Bytes in order are one stretch up to the end of the row, and one from its
    beginning. -/
theorem slice_eq_stretches (r : Ring) {offset n first : Nat} (h : offset + n ≤ r.capacity)
    (hfirst : first = min n (r.capacity - r.index offset)) :
    r.slice offset n =
      (r.flat.drop (r.index offset)).take first ++ (r.flat.drop 0).take (n - first) := by
  have hindex := r.index_lt (show offset ≤ r.capacity by omega)
  have hle : first ≤ n := by omega
  rw [take_drop_flat r (by omega), take_drop_flat r (by omega)]
  unfold slice
  have hsplit : List.range n = List.range first ++ (List.range (n - first)).map (first + ·) := by
    rw [← List.range_add, Nat.add_sub_cancel' hle]
  rw [hsplit, List.map_append]
  have hmod := r.index_eq_mod (show offset ≤ r.capacity by omega)
  have hfront := r.front_lt
  rw [wrap_eq (by omega)] at hmod
  congr 1
  · apply List.map_congr_left
    intro i hi
    have hi := List.mem_range.mp hi
    rw [r.index_eq_mod (by omega), wrap_eq (by omega)]
    congr 1
    (repeat' split) <;> split at hmod <;> omega
  · rw [List.map_map]
    apply List.map_congr_left
    intro i hi
    have hi := List.mem_range.mp hi
    show r.slot (r.index (offset + (first + i))) = r.slot (0 + i)
    rw [r.index_eq_mod (by omega), wrap_eq (by omega)]
    congr 1
    split <;> split at hmod <;> omega

end Ring

/-! ### Stream buffers laid out flat -/

namespace StreamBuffer

/-- A stream buffer in flat memory. -/
def flat (b : StreamBuffer) : Checked.Buffer where
  data := b.ring.flat
  base := b.ring.front
  stop := b.ring.back
  baseSeq := b.baseSeq
  cwnd := b.cwnd
  mss := b.mss

@[simp] theorem capacity_flat (b : StreamBuffer) : b.flat.capacity = b.capacity :=
  b.ring.length_flat

/-- What is asserted of the dimensions of a buffer holds of a shape. -/
theorem create_flat (shape : BufferShape) (cwnd first : UInt32) :
    Checked.Buffer.create shape.capacity shape.mss cwnd first =
      .ok (create shape cwnd first).flat := by
  have htwo := shape.two_le_capacity
  have hpos := shape.mss_pos
  have hempty : (create shape cwnd first).ring.flat = List.replicate shape.capacity 0 := by
    apply List.ext_getElem
    · simp [create, Ring.empty]
    · intro i h₁ h₂
      simp [Ring.flat, Ring.slot, create, Ring.empty, ByteArray.size]
  unfold Checked.Buffer.create
  rw [if_neg (by omega), if_neg (by omega), flat, hempty]
  rfl

variable {b : StreamBuffer}

theorem base_flat_lt : b.flat.base < b.capacity := b.ring.front_lt

theorem stop_flat_lt : b.flat.stop < b.capacity := b.ring.back_lt

variable (h : b.capacity < 4_294_967_296)

include h

/-- Indices are so small that two of them can be added. -/
theorem add_index {i j : Nat} (hi : i ≤ b.capacity) (hj : j ≤ b.capacity) :
    add .bits64 i j = .ok (i + j) := by
  apply add_bits64
  omega

theorem ahead_flat {i n : Nat} (hi : i ≤ b.capacity) (hn : n ≤ b.capacity) :
    b.flat.ahead i n = .ok ((i + n) % b.capacity) := by
  have htwo : 2 ≤ b.capacity := b.ring.two_le
  unfold Checked.Buffer.ahead
  rw [add_index h hi hn, ok_bind, capacity_flat, rem_eq_ok (by omega)]

@[simp] theorem used_flat : b.flat.used = .ok b.used := by
  have hbase := b.base_flat_lt
  have hstop := b.stop_flat_lt
  unfold Checked.Buffer.used
  rw [capacity_flat, add_index h (Nat.le_of_lt hstop) (Nat.le_refl _), ok_bind,
    sub_eq_ok (by omega), ok_bind, rem_eq_ok (by omega)]
  exact congrArg Except.ok b.ring.used_eq_mod.symm

@[simp] theorem available_flat : b.flat.available = .ok b.available := by
  have hused := b.used_lt
  unfold Checked.Buffer.available
  rw [used_flat h, ok_bind, capacity_flat, sub_eq_ok (Nat.le_of_lt hused), ok_bind,
    sub_eq_ok (by omega)]
  congr 1
  show b.capacity - b.used - 1 = b.capacity - 1 - b.used
  omega

@[simp] theorem endSeq_flat : b.flat.endSeq = .ok b.endSeq := by
  unfold Checked.Buffer.endSeq
  rw [used_flat h]
  rfl

@[simp] theorem place?_flat (seq : UInt32) : b.flat.place? seq = .ok (b.place? seq) := by
  unfold Checked.Buffer.place? place?
  rw [used_flat h]
  show (if Sequence.steps b.baseSeq seq ≤ b.used then _ else _) = _
  by_cases hplace : Sequence.steps b.baseSeq seq ≤ b.used
  · rw [if_pos hplace, if_pos hplace]
    rfl
  · rw [if_neg hplace, if_neg hplace]
    rfl

theorem index_flat {n : Nat} (hn : n ≤ b.used) :
    b.flat.ahead b.flat.base n = .ok (b.ring.index n) := by
  have hused := b.used_lt
  have hle : n ≤ b.capacity := by omega
  rw [ahead_flat h (Nat.le_of_lt b.base_flat_lt) hle]
  exact congrArg Except.ok (b.ring.index_eq_mod hle).symm

@[simp] theorem offset?_flat (seq : UInt32) : b.flat.offset? seq = .ok (b.offset? seq) := by
  unfold Checked.Buffer.offset? offset?
  rw [place?_flat h, ok_bind]
  cases hplace : b.place? seq with
  | none => rfl
  | some n =>
    show (do return some (← b.flat.ahead b.flat.base n)) = _
    rw [index_flat h (le_used_of_place? hplace)]
    rfl

/-- Bytes in order are copied out, around the end of the row if need be. -/
theorem copyOut_flat {offset n : Nat} (hn : offset + n ≤ b.capacity) :
    b.flat.copyOut (b.ring.index offset) n = .ok (b.ring.slice offset n) := by
  have hindex : b.ring.index offset < b.capacity := b.ring.index_lt (Nat.le_of_add_right_le hn)
  have hdata : b.flat.data.length = b.capacity := b.capacity_flat
  unfold Checked.Buffer.copyOut
  rw [capacity_flat, sub_eq_ok (Nat.le_of_lt hindex), ok_bind]
  dsimp only
  generalize hfirst : min n (b.capacity - b.ring.index offset) = first
  rw [add_index h (Nat.le_of_lt hindex) (by omega), ok_bind, slice_eq_ok (by omega) (by omega),
    ok_bind, sub_eq_ok (by omega), ok_bind, slice_eq_ok (by omega) (by omega), ok_bind,
    Nat.add_sub_cancel_left, Nat.sub_zero]
  exact congrArg Except.ok (b.ring.slice_eq_stretches hn hfirst.symm).symm

@[simp] theorem isFull_flat : b.flat.isFull = .ok b.isFull := by
  have hbase := b.base_flat_lt
  have hstop := b.stop_flat_lt
  have hfull : (b.flat.stop + 1) % b.capacity = b.flat.base ↔ b.available = 0 := by
    have hlt : b.ring.back + 1 < b.ring.capacity + b.ring.capacity := by
      show b.flat.stop + 1 < b.capacity + b.capacity
      omega
    show (b.ring.back + 1) % b.ring.capacity = b.ring.front ↔
      b.ring.capacity - 1 - b.ring.used = 0
    have hback : b.ring.back < b.ring.capacity := hstop
    have hfront : b.ring.front < b.ring.capacity := hbase
    rw [Ring.wrap_eq hlt]
    unfold Ring.used
    split <;> split <;> omega
  unfold Checked.Buffer.isFull isFull
  rw [ahead_flat h (Nat.le_of_lt hstop) (by omega), ok_bind, pure_eq_ok]
  congr 1
  rw [Bool.eq_iff_iff, beq_iff_eq, beq_iff_eq]
  exact hfull

/-- Writing copies up to the end of the row, and then to its beginning. -/
@[simp] theorem write_flat (bytes : List UInt8) :
    b.flat.write bytes = .ok ((b.write bytes).1, (b.write bytes).2.flat) := by
  have hstop := b.stop_flat_lt
  have hused := b.used_lt
  have havailable := b.used_add_available
  have hdata : b.flat.data.length = b.capacity := b.capacity_flat
  unfold Checked.Buffer.write
  rw [available_flat h, ok_bind]
  dsimp only
  generalize hn : min bytes.length b.available = n
  rw [capacity_flat, sub_eq_ok (Nat.le_of_lt hstop), ok_bind]
  generalize hfirst : min n (b.capacity - b.flat.stop) = first
  rw [add_index h (Nat.le_of_lt hstop) (by omega), ok_bind, slice_eq_ok (by omega) (by omega),
    ok_bind, blit_eq_ok (by omega) (by simp; omega), ok_bind, sub_eq_ok (by omega), ok_bind,
    slice_eq_ok (by omega) (by omega), ok_bind,
    blit_eq_ok (by simp; omega) (by simp; omega), ok_bind,
    ahead_flat h (Nat.le_of_lt hstop) (by omega), ok_bind, pure_eq_ok]
  have hfit : bytes.take b.available =
      bytes.take first ++ (bytes.drop first).take (n - first) := by
    rw [← List.take_add, Nat.add_sub_cancel' (by omega), ← hn, List.take_eq_take_min,
      Nat.min_comm]
  have hlength : (bytes.take b.available).length = n := by
    rw [List.length_take]
    omega
  have hhead : (bytes.take first).length = first := by
    rw [List.length_take]
    omega
  have htail : ((bytes.drop first).take (n - first)).length = n - first := by
    rw [List.length_take, List.length_drop]
    omega
  have hturn : (bytes.drop first).take (n - first) = [] ∨ b.flat.stop + first = b.capacity := by
    rcases Nat.eq_or_lt_of_le (show first ≤ n by omega) with hall | hpart
    · exact Or.inl (by rw [hall, Nat.sub_self, List.take_zero])
    · exact Or.inr (by omega)
  have hring := b.ring.flat_foldl_push_append (bytes.take first)
    ((bytes.drop first).take (n - first)) (by rw [hhead]; show b.flat.stop + _ ≤ b.capacity; omega)
    (by rw [htail]; show _ ≤ b.capacity; omega) (by rw [hhead]; exact hturn)
  rw [← hfit, hhead, htail] at hring
  have hwrite : b.write bytes =
      (n, { b with ring := (bytes.take b.available).foldl Ring.push b.ring }) := by
    rw [← hlength]
    rfl
  have hback := b.ring.back_foldl_push (bytes.take b.available)
  rw [hlength] at hback
  rw [hwrite]
  simp only [flat, hring, hback, Ring.front_foldl_push, List.take_zero, List.nil_append,
    List.drop_zero, Nat.sub_zero]
  rfl

/-- Reading copies out of the row and into the row of the caller. -/
@[simp] theorem read_flat (size : Nat) :
    b.flat.read size = .ok ((b.read size).1, (b.read size).2.flat) := by
  have hused := b.used_lt
  unfold Checked.Buffer.read
  rw [used_flat h, ok_bind]
  dsimp only
  generalize hn : min size b.used = n
  have hindex := index_flat h (show 0 ≤ b.used by omega)
  have hcopy := copyOut_flat h (show 0 + n ≤ b.capacity by omega)
  have hfront : b.ring.index 0 = b.flat.base := by
    have hlt := b.base_flat_lt
    rw [b.ring.index_eq_mod (Nat.zero_le _)]
    exact Nat.mod_eq_of_lt hlt
  rw [hfront] at hcopy
  rw [hcopy, ok_bind, blit_eq_ok (by simp; omega) (by simp), ok_bind,
    index_flat h (by omega), ok_bind, pure_eq_ok]
  have hread : b.read size = (b.ring.slice 0 n, { b with
      ring := b.ring.drop size, baseSeq := Sequence.advance b.baseSeq n }) := by
    have hsize : (b.ring.read size).1.length = n := by
      rw [← hn]
      exact Ring.length_slice ..
    show ((b.ring.read size).1, { b with
      ring := b.ring.drop size
      baseSeq := Sequence.advance b.baseSeq (b.ring.read size).1.length : StreamBuffer }) = _
    rw [hsize, ← hn]
    rfl
  rw [hread, List.take_zero, List.nil_append, List.take_append_of_le_length (by simp),
    List.take_of_length_le (by simp)]
  have hdrop : (b.ring.drop size).front = b.ring.index n := by
    rw [← hn]
    rfl
  rw [← hdrop]
  rfl

@[simp] theorem writeWhole?_flat (bytes : List UInt8) :
    b.flat.writeWhole? bytes = .ok ((b.writeWhole? bytes).map StreamBuffer.flat) := by
  unfold Checked.Buffer.writeWhole? writeWhole?
  rw [available_flat h, ok_bind]
  by_cases hfit : bytes.length ≤ b.available
  · rw [if_pos hfit, if_neg (by omega), write_flat h]
    rfl
  · rw [if_neg hfit, if_pos (by omega)]
    rfl

@[simp] theorem release_flat (ack : UInt32) :
    b.flat.release ack = .ok ((b.release ack).1, (b.release ack).2.flat) := by
  unfold Checked.Buffer.release release
  rw [place?_flat h, ok_bind]
  cases hplace : b.place? ack with
  | none => rfl
  | some n =>
    have hn := le_used_of_place? hplace
    have hdrop : (b.ring.drop n).front = b.ring.index n := by
      show b.ring.index (min n b.used) = _
      rw [Nat.min_eq_left hn]
    show (do
      let base ← b.flat.ahead b.flat.base n
      return (n, { b.flat with base, baseSeq := ack })) = _
    rw [index_flat h hn, ← hdrop]
    rfl

@[simp] theorem clear_flat : b.flat.clear = .ok b.clear.flat := by
  unfold Checked.Buffer.clear
  rw [endSeq_flat h]
  rfl

omit h in
/-- As many pieces as segment sizes are needed, one at a time. -/
theorem pieces_succ (b : StreamBuffer) {left : Nat} (hleft : 0 < left) :
    (left + b.mss - 1) / b.mss = (left - min b.mss left + b.mss - 1) / b.mss + 1 := by
  have hpos := b.mss_pos
  rcases Nat.le_total left b.mss with hlast | hfull
  · have hone : (left + b.mss - 1) / b.mss = 1 := by
      rw [Nat.div_eq_iff hpos]
      omega
    have hzero : (b.mss - 1) / b.mss = 0 := Nat.div_eq_of_lt (by omega)
    rw [Nat.min_eq_right hlast, Nat.sub_self, Nat.zero_add, hone, hzero]
  · rw [Nat.min_eq_left hfull, ← Nat.add_div_right _ hpos]
    congr 1
    omega

/-- From an index of the ring one comes to the next ones. -/
theorem ahead_index_flat {skip offset : Nat} (hsum : skip + offset ≤ b.capacity) :
    b.flat.ahead (b.ring.index skip) offset = .ok (b.ring.index (skip + offset)) := by
  have hskip : skip ≤ b.capacity := by omega
  rw [ahead_flat h (Nat.le_of_lt (b.ring.index_lt hskip)) (by omega), b.ring.index_eq_mod hskip,
    b.ring.index_eq_mod hsum, ← Nat.add_assoc]
  exact congrArg Except.ok (Nat.mod_add_mod _ _ _)

/-- A pass of a cut copies one piece. -/
theorem pieces_pass_flat (srcPort dstPort : UInt16) (start : UInt32) {skip total : Nat}
    (htotal : skip + total ≤ b.used) (passes : Nat) {offset : Nat} (hleft : offset < total) :
    b.flat.pieces srcPort dstPort start (b.ring.index skip) total (passes + 1) offset = (do
      let rest ← b.flat.pieces srcPort dstPort start (b.ring.index skip) total passes
        (offset + min b.mss (total - offset))
      return b.piece srcPort dstPort start skip total offset :: rest) := by
  have hused := b.used_lt
  have hcopy : b.flat.copyOut (b.ring.index (skip + offset)) (min b.mss (total - offset)) =
      .ok (b.piece srcPort dstPort start skip total offset).payload :=
    copyOut_flat h (by omega)
  have hadd : add .bits64 offset (min b.mss (total - offset)) =
      .ok (offset + min b.mss (total - offset)) :=
    add_index h (by omega) (by omega)
  conv => lhs; unfold Checked.Buffer.pieces
  rw [if_pos hleft, sub_eq_ok (Nat.le_of_lt hleft), ok_bind]
  show (do
    let payload ← b.flat.copyOut
      (← b.flat.ahead (b.ring.index skip) offset) (min b.mss (total - offset))
    let rest ← b.flat.pieces srcPort dstPort start (b.ring.index skip) total passes
      (← add .bits64 offset (min b.mss (total - offset)))
    return { b.piece srcPort dstPort start skip total offset with payload } :: rest) = _
  rw [ahead_index_flat h (by omega), ok_bind, hcopy, ok_bind, hadd, ok_bind]

/-- The passes of a cut suffice. -/
theorem pieces_flat (srcPort dstPort : UInt16) (start : UInt32) {skip total : Nat}
    (htotal : skip + total ≤ b.used) (passes : Nat) {offset : Nat} (hoffset : offset ≤ total)
    (hpasses : total ≤ offset + passes) :
    b.flat.pieces srcPort dstPort start (b.ring.index skip) total passes offset =
      .ok (b.piecesFrom srcPort dstPort start skip total offset
        ((total - offset + b.mss - 1) / b.mss)) := by
  have hpos := b.mss_pos
  have hnone : ∀ {offset : Nat}, b.piecesFrom srcPort dstPort start skip total offset
      ((0 + b.mss - 1) / b.mss) = [] := by
    intro offset
    rw [Nat.zero_add, Nat.div_eq_of_lt (by omega)]
    rfl
  induction passes generalizing offset with
  | zero =>
    unfold Checked.Buffer.pieces
    rw [if_neg (by omega), show total - offset = 0 by omega, hnone]
  | succ passes ih =>
    by_cases hleft : offset < total
    · -- A piece has at least one byte, so fewer bytes are left than passes.
      have hrest := ih (show offset + min b.mss (total - offset) ≤ total by omega) (by omega)
      rw [pieces_pass_flat h srcPort dstPort start htotal passes hleft, hrest, ok_bind, pure_eq_ok,
        b.pieces_succ (show 0 < total - offset by omega), piecesFrom_succ, Nat.sub_add_eq]
      rcases Nat.le_total (total - offset) b.mss with hlast | hfull
      · rw [Nat.min_eq_right hlast, Nat.sub_self, hnone, hnone]
      · rw [Nat.min_eq_left hfull]
    · unfold Checked.Buffer.pieces
      rw [if_neg hleft, show total - offset = 0 by omega, hnone]

@[simp] theorem cut_flat (srcPort dstPort : UInt16) (start window : UInt32) :
    b.flat.cut srcPort dstPort start window = .ok (b.cut srcPort dstPort start window) := by
  unfold Checked.Buffer.cut
  rw [place?_flat h, ok_bind, offset?_flat h, ok_bind]
  unfold offset? cut
  cases hplace : b.place? start with
  | none => rfl
  | some skip =>
    have hskip := le_used_of_place? hplace
    have hpos := b.mss_pos
    have hmss : b.flat.mss ≠ 0 := Nat.pos_iff_ne_zero.mp hpos
    have htotal : skip + b.sendable skip window ≤ b.used := by
      unfold sendable
      omega
    have hpieces := pieces_flat h srcPort dstPort start htotal (b.sendable skip window)
      (Nat.zero_le _) (by omega)
    simp only [Option.map_some, used_flat h, ok_bind, sub_eq_ok hskip, quotUp_eq_ok hmss]
    show b.flat.pieces srcPort dstPort start (b.ring.index skip) (b.sendable skip window)
      (b.sendable skip window) 0 = _
    rw [hpieces]
    simp only [piecesFrom, Nat.zero_add, Nat.sub_zero]

end StreamBuffer

end ReliableStream
