import ReliableStream.Proofs.Checked.Words
import ReliableStream.Proofs.Damage
/-! # Frames in flat memory

    A frame is written field by field into a row of zeros that was made for
    it, and read back field by field. The sum of its words is kept in a word of
    32 bits, and its carries are added back until none is left.

    No bytes whatever make this trap, and what comes out is what the codec
    says. -/

namespace ReliableStream.Checked

open Wire Segment

/-! ### The checksum -/

/-- Adds the words of a frame to a running sum. -/
def sumWords (sum : Nat) : List UInt8 → Except Trap Nat
  | a :: b :: rest => do sumWords (← add .bits32 sum (a.toNat * 256 + b.toNat)) rest
  | [a] => add .bits32 sum (a.toNat * 256)
  | [] => .ok sum

/-- Adds carries back until none is left, in at most so many passes. -/
def foldCarries : Nat → Nat → Except Trap Nat
  | 0, _ => .error .endless
  | passes + 1, sum =>
    if sum / 65_536 = 0 then .ok sum
    else do foldCarries passes (← add .bits32 (sum % 65_536) (sum / 65_536))

/-- The checksum of a frame. -/
def checksum (frame : List UInt8) : Except Trap UInt16 := do
  let sum ← foldCarries 3 (← sumWords 0 frame)
  return ~~~(UInt16.ofNat sum)

theorem sumWords_eq_ok {sum : Nat} {frame : List UInt8}
    (h : sum + wordSum frame < 4_294_967_296) : sumWords sum frame = .ok (sum + wordSum frame) := by
  fun_induction sumWords sum frame with
  | case1 sum a b rest ih =>
    simp only [wordSum] at h ⊢
    have hadd : add .bits32 sum (a.toNat * 256 + b.toNat) =
        .ok (sum + (a.toNat * 256 + b.toNat)) :=
      add_bits32 (Nat.lt_of_le_of_lt (Nat.add_le_add_left (Nat.le_add_right ..) sum) h)
    rw [← Nat.add_assoc] at h
    rw [hadd, ok_bind, ih _ h, Nat.add_assoc]
  | case2 sum a => exact add_bits32 h
  | case3 sum => rfl

/-- A sum of 16 bits ends the loop, -/
theorem foldCarries_of_lt {passes sum : Nat} (h : sum < 65_536) :
    foldCarries (passes + 1) sum = .ok sum :=
  if_pos (Nat.div_eq_of_lt h)

/-- and any other goes through one more pass. -/
theorem foldCarries_of_le {passes sum : Nat} (h : 65_536 ≤ sum) (hword : sum < 4_294_967_296) :
    foldCarries (passes + 1) sum = foldCarries passes (sum % 65_536 + sum / 65_536) := by
  have hcarry : sum / 65_536 ≠ 0 := by omega
  have hadd : add .bits32 (sum % 65_536) (sum / 65_536) = .ok (sum % 65_536 + sum / 65_536) :=
    add_bits32 (by omega)
  rw [foldCarries, if_neg hcarry, hadd, ok_bind]

/-- Three passes are enough: the second leaves nothing to carry. -/
theorem foldCarries_eq_ok (sum : UInt32) :
    foldCarries 3 sum.toNat = .ok (carryBack (carryBack sum)).toNat := by
  -- Where nothing is carried, carrying back changes nothing.
  have hstill : ∀ sum : UInt32, sum.toNat < 65_536 → carryBack sum = sum := by
    intro sum hnone
    apply UInt32.toNat_inj.mp
    rw [toNat_carryBack]
    omega
  rcases Nat.lt_or_ge sum.toNat 65_536 with hone | hone
  · rw [foldCarries_of_lt hone, hstill sum hone, hstill sum hone]
  · rw [foldCarries_of_le hone sum.toNat_lt, ← toNat_carryBack]
    rcases Nat.lt_or_ge (carryBack sum).toNat 65_536 with htwo | htwo
    · rw [foldCarries_of_lt htwo, hstill _ htwo]
    · rw [foldCarries_of_le htwo (carryBack sum).toNat_lt, ← toNat_carryBack,
        foldCarries_of_lt (carryBack_carryBack_lt sum)]

/-- The sum of a frame that is not too long does not overflow. -/
theorem checksum_eq_ok {frame : List UInt8} (h : frame.length ≤ 65_552) :
    checksum frame = .ok (Wire.checksum frame) := by
  have hle := wordSum_le frame
  have hsum : (accumulate 0 frame).toNat = 0 + wordSum frame := toNat_accumulate (by
    show 0 + wordSum frame < _
    omega)
  unfold checksum Wire.checksum
  rw [sumWords_eq_ok (by omega), ok_bind, ← hsum, foldCarries_eq_ok, ok_bind, pure_eq_ok]
  rfl

/-! ### Writing and reading -/

/-- Writes the header of a segment over the first bytes of a frame. The
    checksum field is left as it is. -/
def writeHeader (s : Segment) (frame : List UInt8) : Except Trap (List UInt8) := do
  let frame ← blit frame 0 2 (bytesOf16 s.srcPort)
  let frame ← blit frame 2 4 (bytesOf16 s.dstPort)
  let frame ← store frame 4 s.kind.code
  let frame ← blit frame 5 9 (bytesOf32 s.window)
  let frame ← blit frame 9 13 (bytesOf32 s.seq)
  blit frame 13 15 (bytesOf16 (UInt16.ofNat s.payload.length))

/-- The frame of a segment, or why it has none. -/
def pack (s : Segment) : Except Trap (Except SegmentError (List UInt8)) := do
  if maxPayload < s.payload.length then return .error (.payloadTooLarge s.payload.length)
  let size ← add .bits64 headerSize s.payload.length
  let frame ← writeHeader s (List.replicate size 0)
  let frame ← blit frame headerSize size s.payload
  -- The checksum field is still zero here.
  let sum ← checksum frame
  return .ok (← blit frame 15 17 (bytesOf16 sum))

/-- The word of 16 bits at an index. -/
def read16 (frame : List UInt8) (i : Nat) : Except Trap UInt16 := do
  return word16 (← byteAt frame i) (← byteAt frame (i + 1))

/-- The word of 32 bits at an index. -/
def read32 (frame : List UInt8) (i : Nat) : Except Trap UInt32 := do
  return word32 (← byteAt frame i) (← byteAt frame (i + 1)) (← byteAt frame (i + 2))
    (← byteAt frame (i + 3))

/-- The segment of a frame, or why it has none. -/
def unpack (frame : List UInt8) : Except Trap (Except SegmentError Segment) := do
  if frame.length < headerSize then return .error (.tooShort frame.length)
  let declared := (← read16 frame 13).toNat
  if frame.length ≠ (← add .bits64 headerSize declared) then
    return .error (.lengthMismatch declared (← sub frame.length headerSize))
  let sum ← read16 frame 15
  let blanked ← blit frame 15 17 [0, 0]
  if (← checksum blanked) ≠ sum then return .error .checksumFailed
  let srcPort ← read16 frame 0
  let dstPort ← read16 frame 2
  match Kind.ofCode (← byteAt frame 4) with
  | .error e => return .error e
  | .ok kind =>
    let window ← read32 frame 5
    let seq ← read32 frame 9
    let payload ← slice frame headerSize frame.length
    return .ok { srcPort, dstPort, kind, window, seq, payload }

theorem writeHeader_eq_ok (s : Segment) (rest : List UInt8) :
    writeHeader s (List.replicate headerSize 0 ++ rest) = .ok (s.header 0 ++ rest) := by
  have hrow : List.replicate headerSize (0 : UInt8) =
      [0, 0, 0, 0, 0, 0, 0, 0, 0, 0, 0, 0, 0, 0, 0, 0, 0] := rfl
  simp [writeHeader, hrow, blit, store, header, bytesOf16, bytesOf32]

/-- The checksum is written over the last bytes of a header. -/
theorem blit_checksum (s : Segment) (sum : UInt16) (rest : List UInt8) :
    blit (s.header 0 ++ rest) 15 17 (bytesOf16 sum) = .ok (s.header sum ++ rest) := by
  refine (blit_eq_ok ?_ (show 15 + (bytesOf16 sum).length = 17 from rfl)).trans ?_
  · rw [List.length_append, length_header]
    exact Nat.le_add_right 17 _
  · rfl

/-- The payload is written behind the header. -/
theorem blit_payload (s : Segment) :
    blit (s.header 0 ++ List.replicate s.payload.length 0) headerSize
      (headerSize + s.payload.length) s.payload = .ok (s.header 0 ++ s.payload) := by
  have hheader := s.length_header 0
  have hrow : (s.header 0 ++ List.replicate s.payload.length 0).length =
      headerSize + s.payload.length := by
    rw [List.length_append, hheader, List.length_replicate]
  rw [blit_eq_ok (Nat.le_of_eq hrow.symm) rfl, List.drop_eq_nil_of_le (Nat.le_of_eq hrow),
    List.append_nil, List.take_append_of_le_length (Nat.le_of_eq hheader.symm),
    List.take_of_length_le (Nat.le_of_eq hheader)]

/-- Writing a segment gives its frame. -/
theorem pack_eq_ok (s : Segment) : pack s = .ok s.encode := by
  unfold pack encode
  by_cases hfit : s.payload.length ≤ maxPayload
  · have hsmall : headerSize + s.payload.length ≤ 65_552 := Nat.add_le_add_left hfit headerSize
    have hsum : checksum (s.header 0 ++ s.payload) = .ok s.frameChecksum :=
      checksum_eq_ok (by rw [List.length_append, s.length_header]; exact hsmall)
    rw [if_neg (by omega), if_pos hfit, add_bits64 (by omega), ok_bind,
      ← List.replicate_append_replicate, writeHeader_eq_ok, ok_bind, blit_payload, ok_bind, hsum,
      ok_bind, blit_checksum]
    rfl
  · rw [if_pos (by omega), if_neg hfit]
    rfl

/-- A frame with a whole header is read field by field. -/
theorem unpack_header_eq_ok (s1 s0 d1 d0 kind w3 w2 w1 w0 q3 q2 q1 q0 n1 n0 c1 c0 : UInt8)
    (payload : List UInt8) {frame : List UInt8}
    (hframe : s1 :: s0 :: d1 :: d0 :: kind :: w3 :: w2 :: w1 :: w0 :: q3 :: q2 :: q1 :: q0 ::
      n1 :: n0 :: c1 :: c0 :: payload = frame) : unpack frame = .ok (decode frame) := by
  generalize hblanked : s1 :: s0 :: d1 :: d0 :: kind :: w3 :: w2 :: w1 :: w0 :: q3 :: q2 ::
    q1 :: q0 :: n1 :: n0 :: 0 :: 0 :: payload = blanked
  have hlength : frame.length = headerSize + payload.length := by
    rw [← hframe]
    exact Nat.add_comm payload.length 17
  have hblit : blit frame 15 17 [0, 0] = .ok blanked := by
    refine (blit_eq_ok ?_ (show 15 + ([0, 0] : List UInt8).length = 17 from rfl)).trans ?_
    · rw [hlength]
      exact Nat.le_add_right 17 _
    · rw [← hframe, ← hblanked]
      rfl
  have hpayload : slice frame headerSize frame.length = .ok payload := by
    rw [slice_eq_ok (by omega) (Nat.le_refl _), hlength, Nat.add_sub_cancel_left, ← hframe]
    exact congrArg Except.ok List.take_length
  have hsrc : read16 frame 0 = .ok (word16 s1 s0) := by rw [← hframe]; rfl
  have hdst : read16 frame 2 = .ok (word16 d1 d0) := by rw [← hframe]; rfl
  have hkind : byteAt frame 4 = .ok kind := by rw [← hframe]; rfl
  have hwindow : read32 frame 5 = .ok (word32 w3 w2 w1 w0) := by rw [← hframe]; rfl
  have hseq : read32 frame 9 = .ok (word32 q3 q2 q1 q0) := by rw [← hframe]; rfl
  have hdeclared : read16 frame 13 = .ok (word16 n1 n0) := by rw [← hframe]; rfl
  have hsum : read16 frame 15 = .ok (word16 c1 c0) := by rw [← hframe]; rfl
  have hlt := (word16 n1 n0).toNat_lt
  have hsize : add .bits64 headerSize (word16 n1 n0).toNat =
      .ok (headerSize + (word16 n1 n0).toNat) := add_bits64 (by unfold headerSize; omega)
  have hdecode : decode frame =
      if payload.length ≠ (word16 n1 n0).toNat then
        .error (.lengthMismatch (word16 n1 n0).toNat payload.length)
      else if Wire.checksum blanked ≠ word16 c1 c0 then .error .checksumFailed
      else (Kind.ofCode kind).map fun kind =>
        ⟨word16 s1 s0, word16 d1 d0, kind, word32 w3 w2 w1 w0, word32 q3 q2 q1 q0, payload⟩ := by
    rw [← hframe, ← hblanked]
    rfl
  rw [hdecode]
  unfold unpack
  rw [if_neg (by omega), hdeclared, ok_bind]
  dsimp only
  rw [hsize, ok_bind]
  by_cases hfits : payload.length = (word16 n1 n0).toNat
  · have hchecksum : checksum blanked = .ok (Wire.checksum blanked) := by
      apply checksum_eq_ok
      rw [← hblanked]
      show payload.length + 17 ≤ 65_552
      omega
    rw [if_neg (by omega), if_neg (by omega), hsum, ok_bind, hblit, ok_bind, hchecksum, ok_bind]
    by_cases hsound : Wire.checksum blanked = word16 c1 c0
    · rw [if_neg (by simp [hsound]), if_neg (by simp [hsound]), hsrc, ok_bind, hdst, ok_bind,
        hkind, ok_bind]
      cases Kind.ofCode kind with
      | error e => rfl
      | ok kind =>
        dsimp only
        rw [hwindow, ok_bind, hseq, ok_bind, hpayload, ok_bind]
        rfl
    · rw [if_pos hsound, if_pos hsound]
      rfl
  · rw [if_pos (by omega), if_pos hfits, sub_eq_ok (by omega), ok_bind, hlength,
      Nat.add_sub_cancel_left]
    rfl

/-- Reading any bytes gives what decoding them gives. -/
theorem unpack_eq_ok (frame : List UInt8) : unpack frame = .ok (decode frame) := by
  rcases Nat.lt_or_ge frame.length headerSize with hshort | hlong
  · rw [decode_of_short hshort]
    unfold unpack
    rw [if_pos hshort]
    rfl
  · obtain ⟨s1, s0, d1, d0, kind, w3, w2, w1, w0, q3, q2, q1, q0, n1, n0, c1, c0, payload,
      hframe⟩ := exists_header hlong
    exact unpack_header_eq_ok s1 s0 d1 d0 kind w3 w2 w1 w0 q3 q2 q1 q0 n1 n0 c1 c0 payload
      hframe.symm

end ReliableStream.Checked
