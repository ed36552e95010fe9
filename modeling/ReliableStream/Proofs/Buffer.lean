import ReliableStream.Proofs.Sequence
import ReliableStream.Stream.Buffer
/-! # Stream buffers through their contents

    What the operations of a stream buffer do to its contents, its base number
    and its capacity, and what a cut of the whole buffer looks like: a row of
    data segments that carry consecutive pieces of the contents and together
    end where the cut ends. -/

namespace ReliableStream

namespace Ring

theorem front_eq_back_iff (r : Ring) : r.front = r.back ↔ r.used = 0 := by
  have := r.front_lt
  have := r.back_lt
  unfold used
  split <;> omega

end Ring

namespace StreamBuffer

theorem isEmpty_iff (b : StreamBuffer) : b.isEmpty = true ↔ b.used = 0 := by
  unfold isEmpty used
  rw [beq_iff_eq, Ring.front_eq_back_iff]

theorem contents_eq_nil_iff (b : StreamBuffer) : b.contents = [] ↔ b.used = 0 := by
  rw [← List.length_eq_zero_iff, length_contents]

theorem used_lt (b : StreamBuffer) : b.used < b.capacity := b.ring.used_lt

/-! ### Places -/

/-- The numbers of the buffered stretch have places, and so has the next one. -/
theorem place?_eq_some (b : StreamBuffer) {seq : UInt32}
    (h : Sequence.steps b.baseSeq seq ≤ b.used) :
    b.place? seq = some (Sequence.steps b.baseSeq seq) :=
  if_pos h

theorem place?_eq_none (b : StreamBuffer) {seq : UInt32}
    (h : b.used < Sequence.steps b.baseSeq seq) : b.place? seq = none :=
  if_neg (Nat.not_le.mpr h)

theorem le_used_of_place? {b : StreamBuffer} {seq : UInt32} {n : Nat}
    (hplace : b.place? seq = some n) : n ≤ b.used := by
  unfold place? at hplace
  dsimp only at hplace
  split at hplace
  · next hle =>
    cases hplace
    exact hle
  · cases hplace

/-! ### Writing -/

@[simp] theorem fst_write (b : StreamBuffer) (bytes : List UInt8) :
    (b.write bytes).1 = min b.available bytes.length :=
  b.ring.fst_write bytes

@[simp] theorem capacity_write (b : StreamBuffer) (bytes : List UInt8) :
    (b.write bytes).2.capacity = b.capacity :=
  b.ring.capacity_write bytes

/-- Writing appends as many bytes as it says. -/
theorem contents_write_eq (b : StreamBuffer) (bytes : List UInt8) :
    (b.write bytes).2.contents = b.contents ++ bytes.take (b.write bytes).1 := by
  rw [contents_write, fst_write]
  congr 1
  rcases Nat.le_total b.available bytes.length with h | h
  · rw [Nat.min_eq_left h]
  · rw [Nat.min_eq_right h, List.take_of_length_le h, List.take_length]

/-- Writing grows the buffer by as many bytes as it says. -/
theorem used_write (b : StreamBuffer) (bytes : List UInt8) :
    (b.write bytes).2.used = b.used + (b.write bytes).1 := by
  rw [← length_contents, ← length_contents, contents_write, List.length_append, List.length_take,
    fst_write]

theorem used_le_used_write (b : StreamBuffer) (bytes : List UInt8) :
    b.used ≤ (b.write bytes).2.used := by
  rw [used_write]
  exact Nat.le_add_right _ _

/-- A segment that fits is written whole. -/
theorem contents_of_writeWhole? {b b' : StreamBuffer} {bytes : List UInt8}
    (h : b.writeWhole? bytes = some b') : b'.contents = b.contents ++ bytes := by
  unfold writeWhole? at h
  split at h
  · next hfit =>
    cases h
    rw [contents_write, List.take_of_length_le hfit]
  · cases h

/-- Writing a whole segment adds its length and no slot. -/
theorem used_of_writeWhole? {b b' : StreamBuffer} {bytes : List UInt8}
    (h : b.writeWhole? bytes = some b') :
    b'.used = b.used + bytes.length ∧ b'.capacity = b.capacity := by
  constructor
  · rw [← length_contents, ← length_contents, contents_of_writeWhole? h, List.length_append]
  · unfold writeWhole? at h
    split at h
    · cases h
      exact b.capacity_write bytes
    · cases h

/-! ### Releasing -/

/-- Releasing up to a number in the buffered stretch gives up the bytes
    before it. -/
theorem release_eq (b : StreamBuffer) {ack : UInt32} (h : Sequence.steps b.baseSeq ack ≤ b.used) :
    b.release ack = (Sequence.steps b.baseSeq ack,
      { b with ring := b.ring.drop (Sequence.steps b.baseSeq ack), baseSeq := ack }) := by
  unfold release
  rw [b.place?_eq_some h]

/-- A number that is not one of the buffer's releases nothing. -/
theorem release_of_lt (b : StreamBuffer) {ack : UInt32}
    (h : b.used < Sequence.steps b.baseSeq ack) : b.release ack = (0, b) := by
  unfold release
  rw [b.place?_eq_none h]

theorem contents_release (b : StreamBuffer) {ack : UInt32}
    (h : Sequence.steps b.baseSeq ack ≤ b.used) :
    (b.release ack).2.contents = b.contents.drop (Sequence.steps b.baseSeq ack) := by
  rw [release_eq b h]
  exact b.ring.contents_drop _

theorem baseSeq_release (b : StreamBuffer) {ack : UInt32}
    (h : Sequence.steps b.baseSeq ack ≤ b.used) : (b.release ack).2.baseSeq = ack := by
  rw [release_eq b h]

theorem used_release (b : StreamBuffer) {ack : UInt32}
    (h : Sequence.steps b.baseSeq ack ≤ b.used) :
    (b.release ack).2.used = b.used - Sequence.steps b.baseSeq ack := by
  rw [← length_contents, contents_release b h, List.length_drop, length_contents]

/-- Whatever the number, releasing gives up as many bytes as it says, and moves
    the front by as many. -/
theorem release_frees (b : StreamBuffer) (ack : UInt32) :
    (b.release ack).2.used + (b.release ack).1 = b.used ∧
      (b.release ack).2.baseSeq = Sequence.advance b.baseSeq (b.release ack).1 := by
  by_cases h : Sequence.steps b.baseSeq ack ≤ b.used
  · rw [used_release b h, baseSeq_release b h, release_eq b h]
    exact ⟨Nat.sub_add_cancel h, (Sequence.advance_steps b.baseSeq ack).symm⟩
  · rw [release_of_lt b (Nat.lt_of_not_le h)]
    exact ⟨rfl, (Sequence.advance_zero b.baseSeq).symm⟩

@[simp] theorem capacity_release (b : StreamBuffer) (ack : UInt32) :
    (b.release ack).2.capacity = b.capacity := by
  unfold release
  split <;> rfl

@[simp] theorem mss_release (b : StreamBuffer) (ack : UInt32) : (b.release ack).2.mss = b.mss := by
  unfold release
  split <;> rfl

@[simp] theorem used_clear (b : StreamBuffer) : b.clear.used = 0 := by
  rw [← contents_eq_nil_iff, contents_clear]

/-- Clearing does not move the end. -/
@[simp] theorem endSeq_clear (b : StreamBuffer) : b.clear.endSeq = b.endSeq := by
  unfold endSeq
  rw [used_clear, Sequence.advance_zero]
  rfl

/-! ### Cutting -/

/-- A data segment that carries bytes of the buffer, from a place on. -/
structure Carries (b : StreamBuffer) (s : Segment) (place : Nat) : Prop where
  kind : s.kind = .data
  seq : s.seq = Sequence.advance b.baseSeq place
  place_le : place ≤ b.used
  payload : s.payload <+: b.contents.drop place

/-- A piece of a cut carries bytes of the buffer. -/
theorem carries_piece (b : StreamBuffer) (srcPort dstPort : UInt16) {total offset : Nat}
    (htotal : total ≤ b.used) (hoffset : offset ≤ total) :
    b.Carries (b.piece srcPort dstPort b.baseSeq 0 total offset) offset where
  kind := rfl
  seq := rfl
  place_le := Nat.le_trans hoffset htotal
  payload := by
    show b.ring.slice (0 + offset) (min b.mss (total - offset)) <+: b.ring.contents.drop offset
    have hfit : 0 + offset + min b.mss (total - offset) ≤ b.ring.used := by
      have : b.used = b.ring.used := rfl
      omega
    rw [b.ring.slice_eq _ _ hfit, Nat.zero_add]
    exact List.take_prefix _ _

/-- The last piece of a cut ends where the cut ends. -/
theorem endSeq_piece (b : StreamBuffer) (srcPort dstPort : UInt16) (start : UInt32)
    {total offset : Nat} (hoffset : offset ≤ total) (hlast : total ≤ offset + b.mss) :
    (b.piece srcPort dstPort start 0 total offset).endSeq = Sequence.advance start total := by
  have hlen : min b.mss (total - offset) = total - offset := by omega
  show Sequence.advance (Sequence.advance start offset)
    (b.ring.slice (0 + offset) (min b.mss (total - offset))).length = _
  rw [Ring.length_slice, hlen, ← Sequence.advance_add]
  congr 1
  omega

/-- A cut from a number that has a place, piece by piece. -/
theorem cut_of_place? {b : StreamBuffer} (srcPort dstPort : UInt16) {start : UInt32}
    (window : UInt32) {skip : Nat} (hplace : b.place? start = some skip) :
    b.cut srcPort dstPort start window =
      (List.range ((b.sendable skip window + b.mss - 1) / b.mss)).map fun i =>
        b.piece srcPort dstPort start skip (b.sendable skip window) (i * b.mss) := by
  unfold cut
  rw [hplace]

/-- From any other number nothing is cut. -/
theorem cut_eq_nil_of_lt (b : StreamBuffer) (srcPort dstPort : UInt16) {start : UInt32}
    (window : UInt32) (h : b.used < Sequence.steps b.baseSeq start) :
    b.cut srcPort dstPort start window = [] := by
  unfold cut
  rw [b.place?_eq_none h]

/-- The cut that starts at the oldest byte, piece by piece. -/
theorem cut_baseSeq (b : StreamBuffer) (srcPort dstPort : UInt16) (window : UInt32) :
    b.cut srcPort dstPort b.baseSeq window =
      (List.range ((b.sendable 0 window + b.mss - 1) / b.mss)).map fun i =>
        b.piece srcPort dstPort b.baseSeq 0 (b.sendable 0 window) (i * b.mss) := by
  have hplace : b.place? b.baseSeq = some 0 := by
    rw [b.place?_eq_some (by rw [Sequence.steps_self]; exact Nat.zero_le _), Sequence.steps_self]
  exact cut_of_place? srcPort dstPort window hplace

theorem sendable_le (b : StreamBuffer) (window : UInt32) : b.sendable 0 window ≤ b.used := by
  unfold sendable
  omega

/-- Every piece but the last is full, so each of them starts within the cut. -/
theorem start_lt_of_mem_range {total mss i : Nat} (hpos : 0 < mss)
    (h : i ∈ List.range ((total + mss - 1) / mss)) : i * mss < total := by
  have hlt : i + 1 ≤ (total + mss - 1) / mss := List.mem_range.mp h
  have hmul := (Nat.le_div_iff_mul_le hpos).mp hlt
  rw [Nat.add_mul, Nat.one_mul] at hmul
  omega

/-- Every segment of the cut carries bytes of the buffer. -/
theorem carries_of_mem_cut {b : StreamBuffer} {srcPort dstPort : UInt16} {window : UInt32}
    {s : Segment} (h : s ∈ b.cut srcPort dstPort b.baseSeq window) :
    ∃ place, b.Carries s place := by
  rw [cut_baseSeq] at h
  obtain ⟨i, hi, rfl⟩ := List.mem_map.mp h
  have hstart := start_lt_of_mem_range b.mss_pos hi
  exact ⟨i * b.mss, carries_piece b srcPort dstPort (b.sendable_le window) (Nat.le_of_lt hstart)⟩

/-- No segment of the cut reaches beyond it, and none is larger than the
    largest segment. -/
theorem within_of_mem_cut {b : StreamBuffer} {srcPort dstPort : UInt16} {window : UInt32}
    {s : Segment} (hsize : b.used < 4_294_967_296)
    (h : s ∈ b.cut srcPort dstPort b.baseSeq window) :
    Sequence.steps b.baseSeq s.seq + s.payload.length ≤ b.sendable 0 window ∧
      s.payload.length ≤ b.mss := by
  rw [cut_baseSeq] at h
  obtain ⟨i, hi, hs⟩ := List.mem_map.mp h
  have hstart := start_lt_of_mem_range b.mss_pos hi
  have hle := b.sendable_le window
  have hseq : s.seq = Sequence.advance b.baseSeq (i * b.mss) := by
    rw [← hs]
    rfl
  have hlength : s.payload.length = min b.mss (b.sendable 0 window - i * b.mss) := by
    rw [← hs]
    exact Ring.length_slice ..
  rw [hseq, Sequence.steps_advance_of_lt _ (by omega), hlength]
  omega

/-- A cut starts with the oldest byte. -/
theorem first_of_cut_eq_cons {b : StreamBuffer} {srcPort dstPort : UInt16} {window : UInt32}
    {first : Segment} {rest : List Segment}
    (h : b.cut srcPort dstPort b.baseSeq window = first :: rest) :
    first.seq = b.baseSeq ∧ 0 < first.payload.length := by
  have hpos := b.mss_pos
  rw [cut_baseSeq] at h
  have hhead := congrArg (·[0]?) h
  simp only [List.getElem?_map, List.getElem?_cons_zero, Option.map_eq_some_iff] at hhead
  obtain ⟨i, hi, hfirst⟩ := hhead
  have hmem := List.mem_of_getElem? hi
  have hzero : i = 0 := by
    rw [List.getElem?_range (Nat.lt_of_le_of_lt (Nat.zero_le i) (List.mem_range.mp hmem))] at hi
    exact (Option.some.inj hi).symm
  have hstart := start_lt_of_mem_range hpos hmem
  rw [hzero, Nat.zero_mul] at hstart hfirst
  have hseq : first.seq = Sequence.advance b.baseSeq 0 := by
    rw [← hfirst]
    rfl
  have hlength : first.payload.length = min b.mss (b.sendable 0 window - 0) := by
    rw [← hfirst]
    exact Ring.length_slice ..
  rw [hseq, hlength, Sequence.advance_zero]
  exact ⟨rfl, by omega⟩

/-- A cut is empty only if nothing may be sent. -/
theorem cut_eq_nil_iff (b : StreamBuffer) (srcPort dstPort : UInt16) (window : UInt32) :
    b.cut srcPort dstPort b.baseSeq window = [] ↔ b.sendable 0 window = 0 := by
  have hpos := b.mss_pos
  rw [cut_baseSeq, List.map_eq_nil_iff, List.range_eq_nil, Nat.div_eq_zero_iff]
  omega

/-- The last segment of a cut ends where the cut ends. -/
theorem endSeq_of_getLast?_cut {b : StreamBuffer} {srcPort dstPort : UInt16} {window : UInt32}
    {s : Segment} (h : (b.cut srcPort dstPort b.baseSeq window).getLast? = some s) :
    s.endSeq = Sequence.advance b.baseSeq (b.sendable 0 window) := by
  have hpos := b.mss_pos
  rw [cut_baseSeq, List.getLast?_map, List.getLast?_range] at h
  split at h
  · cases h
  · next hcount =>
    cases h
    -- The number of pieces is the quotient rounded up: one piece fewer is too few.
    have hle := Nat.div_mul_le_self (b.sendable 0 window + b.mss - 1) b.mss
    have hge := Nat.lt_div_mul_add hpos (a := b.sendable 0 window + b.mss - 1)
    have hsplit : ((b.sendable 0 window + b.mss - 1) / b.mss - 1) * b.mss + b.mss =
        (b.sendable 0 window + b.mss - 1) / b.mss * b.mss := by
      rw [← Nat.succ_mul, Nat.succ_eq_add_one, Nat.sub_add_cancel (Nat.pos_of_ne_zero hcount)]
    apply endSeq_piece
    · omega
    · omega

/-- Only from a number in the buffered stretch can anything be cut. -/
theorem steps_le_of_cut {b : StreamBuffer} {srcPort dstPort : UInt16} {start window : UInt32}
    (h : b.cut srcPort dstPort start window ≠ []) : Sequence.steps b.baseSeq start ≤ b.used := by
  rw [← Nat.not_lt]
  intro hfar
  exact h (b.cut_eq_nil_of_lt srcPort dstPort window hfar)

/-- A number in the buffered stretch after it was released was there before. -/
theorem steps_le_of_release {b : StreamBuffer} {ack : UInt32}
    (h : Sequence.steps (b.release ack).2.baseSeq ack ≤ (b.release ack).2.used) :
    Sequence.steps b.baseSeq ack ≤ b.used := by
  by_cases hplace : Sequence.steps b.baseSeq ack ≤ b.used
  · exact hplace
  · rw [release_of_lt b (Nat.lt_of_not_le hplace)] at h
    exact h

/-- There are no more segments than bytes. -/
theorem length_cut_le (b : StreamBuffer) (srcPort dstPort : UInt16) (window : UInt32) :
    (b.cut srcPort dstPort b.baseSeq window).length ≤ b.used := by
  have hpos := b.mss_pos
  have hle := b.sendable_le window
  rw [cut_baseSeq, List.length_map, List.length_range]
  rcases Nat.eq_zero_or_pos (b.sendable 0 window) with hzero | hpositive
  · rw [hzero, Nat.zero_add, Nat.div_eq_of_lt (by omega)]
    exact Nat.zero_le _
  · refine Nat.le_trans ?_ hle
    rw [Nat.div_le_iff_le_mul_add_pred hpos]
    have := Nat.le_mul_of_pos_left (b.sendable 0 window) hpos
    omega

end StreamBuffer

end ReliableStream
