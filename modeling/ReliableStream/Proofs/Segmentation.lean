import Mathlib.Algebra.Order.Floor.Div
import ReliableStream.Proofs.ByteQueue
import ReliableStream.Proofs.Checked.Rings
/-! # Cuts as segmentations

    A cut of a stream buffer is a **segmentation** of a stretch of its queue:
    the bytes of the stretch in pieces of the largest segment size, with only
    the last piece shorter, and each piece with the number of its first byte.
    The stretch begins where the cut does, and is as long as what is queued
    there and both windows let it be.

    Where the bytes stand in the ring does not show. In flat memory a piece may
    pass the end of the row, and so may the stretch as a whole; the loop that
    copies the pieces out comes to the same segments. Nor does a cut show in the
    buffer, which is afterwards as it was. -/

namespace ReliableStream

open Sequence

/-! ### Segmentations -/

/-- The bytes are split into data segments of `mss` bytes each, the last one
    excepted, which follow each other from a number on. -/
structure Segment.Splits (bytes : List UInt8) (mss : Nat) (srcPort dstPort : UInt16)
    (window start : UInt32) (segments : List Segment) : Prop where
  payloads_eq : Segment.payloads segments = bytes
  length_eq : segments.length = bytes.length ⌈/⌉ mss
  full : ∀ i s, segments[i]? = some s → i + 1 < segments.length → s.payload.length = mss
  last : ∀ s, segments.getLast? = some s → 1 ≤ s.payload.length ∧ s.payload.length ≤ mss
  header : ∀ i s, segments[i]? = some s → s.srcPort = srcPort ∧ s.dstPort = dstPort ∧
    s.kind = .data ∧ s.window = window ∧ s.seq = advance start (i * mss)

namespace StreamBuffer

variable {b : StreamBuffer} {start : UInt32} {skip : Nat}

/-- The segment in each place of a cut is the piece that starts so many largest
    segments into it, and starts before its end. -/
theorem piece_of_getElem?_cut {srcPort dstPort : UInt16} {window : UInt32} {i : Nat} {s : Segment}
    (hplace : b.place? start = some skip)
    (hs : (b.cut srcPort dstPort start window)[i]? = some s) :
    i * b.mss < b.sendable skip window ∧
      s = b.piece srcPort dstPort start skip (b.sendable skip window) (i * b.mss) := by
  rw [cut_of_place? srcPort dstPort window hplace, List.getElem?_map, Option.map_eq_some_iff] at hs
  obtain ⟨j, hj, rfl⟩ := hs
  obtain ⟨hi, rfl⟩ := List.getElem?_eq_some_iff.mp hj
  rw [List.getElem_range]
  rw [List.length_range] at hi
  exact ⟨start_lt_of_mem_range b.mss_pos (List.mem_range.mpr hi), rfl⟩

/-- The bytes of the buffer that a cut covers. -/
def stretch (b : StreamBuffer) (skip : Nat) (window : UInt32) : List UInt8 :=
  (b.contents.drop skip).take (b.sendable skip window)

theorem length_stretch (b : StreamBuffer) (skip : Nat) (window : UInt32) :
    (b.stretch skip window).length = b.sendable skip window := by
  rw [stretch, List.length_take, List.length_drop, length_contents]
  unfold sendable
  omega

/-- A cut from a number that has a place is a segmentation. -/
theorem splits_cut (srcPort dstPort : UInt16) (window : UInt32)
    (hplace : b.place? start = some skip) :
    Segment.Splits (b.stretch skip window) b.mss srcPort dstPort b.cwnd start
      (b.cut srcPort dstPort start window) where
  payloads_eq := (row_cut srcPort dstPort window hplace).2.1
  length_eq := by
    rw [length_stretch, cut_of_place? srcPort dstPort window hplace, List.length_map,
      List.length_range, Nat.ceilDiv_eq_add_pred_div]
  full := by
    intro i s hs hnext
    -- The piece after this one starts within the cut, and where this one ends.
    obtain ⟨hlt, -⟩ := piece_of_getElem?_cut hplace (List.getElem?_eq_getElem hnext)
    obtain ⟨-, rfl⟩ := piece_of_getElem?_cut hplace hs
    rw [Nat.succ_mul] at hlt
    rw [length_piece]
    omega
  last := by
    intro s hs
    rw [List.getLast?_eq_getElem?] at hs
    obtain ⟨hlt, rfl⟩ := piece_of_getElem?_cut hplace hs
    have hpos := b.mss_pos
    rw [length_piece]
    omega
  header := by
    intro i s hs
    obtain ⟨-, rfl⟩ := piece_of_getElem?_cut hplace hs
    exact ⟨rfl, rfl, rfl, rfl, rfl⟩

end StreamBuffer

/-! ### Buffers in use -/

/-- What is done with a buffer: an operation, or a cut of what it holds. -/
inductive BufferUse where
  | operation (op : BufferOperation)
  | cut (srcPort dstPort : UInt16) (start window : UInt32)
  deriving DecidableEq, Repr

/-- The operation, if it is one. -/
def BufferUse.operation? : BufferUse → Option BufferOperation
  | .operation op => some op
  | .cut .. => none

namespace StreamBuffer

/-- What is handed out, and the buffer after that. -/
def serve (b : StreamBuffer) : BufferUse → (BufferReply ⊕ List Segment) × StreamBuffer
  | .operation op => (.inl (b.perform op).1, (b.perform op).2)
  | .cut srcPort dstPort start window => (.inr (b.cut srcPort dstPort start window), b)

/-- The buffer after a row of uses. -/
def serveAll (b : StreamBuffer) (uses : List BufferUse) : StreamBuffer :=
  uses.foldl (fun b use => (b.serve use).2) b

/-- Cuts leave no trace: a buffer is after its uses as it is after the
    operations among them. -/
theorem serveAll_eq_runAll (b : StreamBuffer) (uses : List BufferUse) :
    b.serveAll uses =
      (BufferOperation.runAll perform b (uses.filterMap BufferUse.operation?)).2 := by
  induction uses generalizing b with
  | nil => rfl
  | cons use rest ih =>
    cases use with
    | operation op => exact ih (b.perform op).2
    | cut srcPort dstPort start window => exact ih b

/-- **Segmentation.** However a stream buffer was used from its creation on, a cut
    from a number beyond its queue is empty. Any other cut splits the bytes that
    are queued from that number on into segments, as many bytes as both windows
    let through. The loop in flat memory cuts the same segments. Cuts leave the
    buffer as the operations alone would have left it. -/
theorem cut_is_segmentation (shape : BufferShape) (hcapacity : shape.capacity < 4_294_967_296)
    (cwnd first : UInt32) (uses : List BufferUse) (srcPort dstPort : UInt16)
    (start window : UInt32) :
    let operations := uses.filterMap BufferUse.operation?
    let b := (create shape cwnd first).serveAll uses
    let q := (BufferOperation.runAll ByteQueue.perform
      (ByteQueue.empty (shape.capacity - 1) first) operations).2
    let skip := steps q.base start
    let n := min (min (q.bytes.length - skip) b.cwnd.toNat) window.toNat
    let stretch := (q.bytes.drop skip).take n
    b = (BufferOperation.runAll perform (create shape cwnd first) operations).2 ∧
      b.flat.cut srcPort dstPort start window = .ok (b.cut srcPort dstPort start window) ∧
      (q.bytes.length < skip → b.cut srcPort dstPort start window = []) ∧
      (skip ≤ q.bytes.length → stretch.length = n ∧
        Segment.Splits stretch shape.mss srcPort dstPort b.cwnd start
          (b.cut srcPort dstPort start window)) := by
  intro operations b q skip n stretch
  have hrun : b = (BufferOperation.runAll perform (create shape cwnd first) operations).2 :=
    serveAll_eq_runAll _ uses
  obtain ⟨hsize, hmss⟩ := dimensions_runAll (create shape cwnd first) operations
  rw [← hrun] at hsize hmss
  have hqueue : q = b.queue := by
    rw [hrun, queue_runAll_create]
  have hskip : skip = steps b.baseSeq start := by
    show steps q.base start = _
    rw [hqueue]
    rfl
  have hlength : q.bytes.length = b.used := by
    rw [hqueue]
    exact b.length_contents
  have hn : n = b.sendable skip window := by
    show min (min (q.bytes.length - skip) _) _ = _
    rw [hlength]
    rfl
  have hstretch : stretch = b.stretch skip window := by
    show (q.bytes.drop skip).take n = _
    rw [hn, hqueue]
    rfl
  have hfits : b.capacity < 4_294_967_296 := lt_of_eq_of_lt hsize hcapacity
  refine ⟨hrun, cut_flat hfits srcPort dstPort start window, ?_, ?_⟩
  · intro hfar
    rw [hlength, hskip] at hfar
    exact b.cut_eq_nil_of_lt srcPort dstPort window hfar
  · intro hnear
    rw [hlength, hskip] at hnear
    have hsplits := splits_cut srcPort dstPort window (b.place?_eq_some hnear)
    rw [hmss, ← hskip, ← hstretch] at hsplits
    refine ⟨?_, hsplits⟩
    rw [hstretch, hn, length_stretch]

/-- Four bytes have left a ring of eight slots, and the six after them stand
    around its end. All but the first of these are cut, and the numbers of the
    segments wrap too, at another place. -/
theorem cut_around_the_end :
    let shape : BufferShape :=
      { capacity := 8, mss := 2, two_le_capacity := by decide, mss_pos := by decide }
    let b := (create shape 9 4_294_967_290).serveAll
      [.operation (.write [1, 2, 3, 4, 5]), .cut 5000 80 4_294_967_290 7, .operation (.read 4),
        .operation (.write [6, 7, 8, 9, 10])]
    (b.ring.front, b.ring.back) = (4, 2) ∧
      (b.cut 5000 80 4_294_967_295 5).map (fun s => (s.seq, s.payload)) =
        [(4_294_967_295, [6, 7]), (1, [8, 9]), (3, [10])] ∧
      Segment.Splits [6, 7, 8, 9, 10] 2 5000 80 9 4_294_967_295
        (b.cut 5000 80 4_294_967_295 5) := by
  intro shape b
  obtain ⟨-, -, -, hsplits⟩ := cut_is_segmentation shape (by decide) 9 4_294_967_290
    [.operation (.write [1, 2, 3, 4, 5]), .cut 5000 80 4_294_967_290 7, .operation (.read 4),
      .operation (.write [6, 7, 8, 9, 10])] 5000 80 4_294_967_295 5
  refine ⟨by decide +kernel, by decide +kernel, ?_⟩
  convert (hsplits (by decide +kernel)).2
  · decide +kernel
  · rfl

end StreamBuffer

end ReliableStream
