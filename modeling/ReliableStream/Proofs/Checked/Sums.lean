import Mathlib.Algebra.GroupWithZero.Nat
import ReliableStream.Proofs.Checked.Frames
/-! # The value of the checksum

    The words of a frame add up to a number, and carrying back leaves a number
    of 16 bits that is equal to it modulo 65535. There are **two zeros** among
    those. Carrying back never makes a positive sum zero, so that only a sum
    that is zero itself leaves the first of them, whose complement is 65535,
    while the other multiples of 65535 leave the second, whose complement is
    zero.

    To tell which frames the checksum is taken of, segments are written and
    read here with any procedure in its place. One that **notes** what it is
    handed shows that the codec asks once or not at all.

    Main result: the checksum of every frame that the length field can describe
    is a closed form in the exact sum of its words. On the way there no sum
    passes its word, and the carries come to an end. Neither writing nor
    reading, of whatever bytes, asks for the checksum of a longer frame. -/

namespace ReliableStream

namespace Wire

/-! ### The words of a frame -/

/-- The word of a frame at an index. A last byte without a partner stands
    before a zero. -/
def wordAt (frame : List UInt8) (i : Nat) : UInt16 :=
  word16 (frame.getD (2 * i) 0) (frame.getD (2 * i + 1) 0)

/-- The words of a frame. -/
def words (frame : List UInt8) : List UInt16 :=
  (List.range ((frame.length + 1) / 2)).map (wordAt frame)

theorem toNat_word16 (a b : UInt8) : (word16 a b).toNat = a.toNat * 256 + b.toNat := by
  have ha := a.toNat_lt
  have hb := b.toNat_lt
  unfold word16
  rw [UInt16.toNat_ofNat']
  omega

theorem words_cons_cons (a b : UInt8) (rest : List UInt8) :
    words (a :: b :: rest) = word16 a b :: words rest := by
  have hcount : ((a :: b :: rest).length + 1) / 2 = (rest.length + 1) / 2 + 1 := by
    simp only [List.length_cons]
    omega
  have hnext : wordAt (a :: b :: rest) ∘ Nat.succ = wordAt rest := rfl
  unfold words
  rw [hcount, List.range_succ_eq_map, List.map_cons, List.map_map, hnext]
  rfl

/-- Adding byte by byte adds up the words. -/
theorem wordSum_eq_sum_words (frame : List UInt8) :
    wordSum frame = ((words frame).map UInt16.toNat).sum := by
  fun_induction wordSum frame with
  | case1 a b rest ih =>
    rw [words_cons_cons, List.map_cons, List.sum_cons, toNat_word16, ih]
  | case2 a =>
    have hword : words [a] = [word16 a 0] := by simp [words, wordAt]
    rw [hword, List.map_singleton, List.sum_singleton, toNat_word16, UInt8.toNat_zero,
      Nat.add_zero]
  | case3 => rfl

/-! ### Carries -/

/-- What carrying back leaves of a sum: nothing of zero, and of any other sum
    the number from 1 to 65535 that is equal to it modulo 65535. -/
def residue (sum : Nat) : Nat := if sum = 0 then 0 else (sum - 1) % 65_535 + 1

theorem residue_lt (sum : Nat) : residue sum < 65_536 := by
  unfold residue
  split <;> omega

theorem residue_of_lt {sum : Nat} (h : sum < 65_536) : residue sum = sum := by
  unfold residue
  split <;> omega

/-- **A carry keeps the residue.** -/
theorem residue_carry (sum : Nat) : residue (sum % 65_536 + sum / 65_536) = residue sum := by
  unfold residue
  split <;> split <;> omega

end Wire

namespace Checked

open Wire Segment

/-- Every pass takes 65535 away at least, so that a loop which may pass often
    enough ends. What it ends with is the residue, which no pass changes. -/
theorem foldCarries_eq_residue {passes sum : Nat} (hword : sum < 4_294_967_296)
    (h : sum < 65_536 + 65_535 * passes) : foldCarries (passes + 1) sum = .ok (residue sum) := by
  induction passes generalizing sum with
  | zero => rw [foldCarries_of_lt h, residue_of_lt h]
  | succ passes ih =>
    rcases Nat.lt_or_ge sum 65_536 with hdone | hcarry
    · rw [foldCarries_of_lt hdone, residue_of_lt hdone]
    · rw [foldCarries_of_le hcarry hword, ih (by omega) (by omega), residue_carry]

/-- Less than twice 65536 is left after one pass over any sum of 32 bits, so
    that two passes and the test that ends them are enough. -/
theorem foldCarries_of_three_le {passes sum : Nat} (hword : sum < 4_294_967_296)
    (h : 3 ≤ passes) : foldCarries passes sum = .ok (residue sum) := by
  obtain ⟨more, rfl⟩ := Nat.exists_eq_add_of_le' h
  rcases Nat.lt_or_ge sum 65_536 with hdone | hcarry
  · rw [foldCarries_of_lt hdone, residue_of_lt hdone]
  · rw [foldCarries_of_le hcarry hword, foldCarries_eq_residue (by omega) (by omega),
      residue_carry]

/-! ### The checksum of a frame -/

/-- The checksum of a frame whose words add up to `total` is the complement of
    what carrying back leaves of this number. -/
structure OnesComplement (frame : List UInt8) (total : Nat) : Prop where
  /-- The sum is exact: it never passes 32 bits while it is added up. -/
  fits : sumWords 0 frame = .ok total
  /-- However many passes are allowed, the carries have come to an end after the
      second at the latest, and no pass overflows. -/
  settles : ∀ passes, 3 ≤ passes → foldCarries passes total = .ok (residue total)
  /-- So the checksum is computed without a trap. -/
  agrees : checksum frame = .ok (Wire.checksum frame)
  /-- Only a sum that is zero itself leaves the first of the two zeros. -/
  value : (Wire.checksum frame).toNat =
    if total = 0 then 65_535 else 65_535 - ((total - 1) % 65_535 + 1)

theorem onesComplement_of_length {frame : List UInt8}
    (h : frame.length ≤ headerSize + maxPayload) :
    OnesComplement frame ((words frame).map UInt16.toNat).sum := by
  rw [← wordSum_eq_sum_words]
  -- There are at most 32776 words.
  have hlength : frame.length ≤ 65_552 := h
  have hle := wordSum_le frame
  have hword : wordSum frame < 4_294_967_296 := by omega
  have hfits : sumWords 0 frame = .ok (wordSum frame) := by
    rw [sumWords_eq_ok (by omega), Nat.zero_add]
  have hagrees := checksum_eq_ok hlength
  have hcomplement : Wire.checksum frame = ~~~(UInt16.ofNat (residue (wordSum frame))) := by
    unfold checksum at hagrees
    rw [hfits, ok_bind, foldCarries_of_three_le hword (Nat.le_refl 3)] at hagrees
    exact (Except.ok.inj hagrees).symm
  refine ⟨hfits, fun _ => foldCarries_of_three_le hword, hagrees, ?_⟩
  rw [hcomplement, UInt16.toNat_not, UInt16.toNat_ofNat', Nat.mod_eq_of_lt (residue_lt _)]
  unfold residue
  split <;> rfl

/-! ### What the checksum is taken of -/

section

variable {m : Type → Type} [Monad m] [MonadLiftT (Except Trap) m]

/-- The frame of a segment, with its checksum from a procedure. -/
def packBy (sumOf : List UInt8 → m UInt16) (s : Segment) :
    m (Except SegmentError (List UInt8)) := do
  if maxPayload < s.payload.length then return .error (.payloadTooLarge s.payload.length)
  let size ← add .bits64 headerSize s.payload.length
  let frame ← writeHeader s (List.replicate size 0)
  let frame ← blit frame headerSize size s.payload
  let sum ← sumOf frame
  return .ok (← blit frame 15 17 (bytesOf16 sum))

/-- The segment of a frame, once its checksum is known. -/
def verdict (frame : List UInt8) (stored sum : UInt16) :
    Except Trap (Except SegmentError Segment) := do
  if sum ≠ stored then return .error .checksumFailed
  let srcPort ← read16 frame 0
  let dstPort ← read16 frame 2
  match Kind.ofCode (← byteAt frame 4) with
  | .error e => return .error e
  | .ok kind =>
    let window ← read32 frame 5
    let seq ← read32 frame 9
    let payload ← slice frame headerSize frame.length
    return .ok { srcPort, dstPort, kind, window, seq, payload }

/-- The segment of a frame, with its checksum from a procedure. -/
def unpackBy (sumOf : List UInt8 → m UInt16) (frame : List UInt8) :
    m (Except SegmentError Segment) := do
  if frame.length < headerSize then return .error (.tooShort frame.length)
  let declared := (← read16 frame 13).toNat
  if frame.length ≠ (← add .bits64 headerSize declared) then
    return .error (.lengthMismatch declared (← sub frame.length headerSize))
  let stored ← read16 frame 15
  let blanked ← blit frame 15 17 [0, 0]
  verdict frame stored (← sumOf blanked)

end

/-- With the checksum itself as the procedure this is how segments are written, -/
theorem packBy_checksum (s : Segment) : packBy checksum s = pack s := rfl

/-- and how they are read. -/
theorem unpackBy_checksum (frame : List UInt8) : unpackBy checksum frame = unpack frame := rfl

theorem read16_eq_ok {frame : List UInt8} {i : Nat} (h : i + 1 < frame.length) :
    read16 frame i = .ok (word16 (frame.getD i 0) (frame.getD (i + 1) 0)) := by
  have hbyte : ∀ j < frame.length, byteAt frame j = .ok (frame.getD j 0) := by
    intro j hj
    unfold byteAt
    rw [List.getD_eq_getElem?_getD, List.getElem?_eq_getElem hj]
    rfl
  unfold read16
  rw [hbyte i (Nat.lt_of_succ_lt h), ok_bind, hbyte (i + 1) h, ok_bind]
  rfl

/-- Zeros over its checksum field blank a frame. -/
theorem blit_blank {frame : List UInt8} (h : headerSize ≤ frame.length) :
    blit frame 15 17 [0, 0] = .ok (blank frame) := by
  obtain ⟨s1, s0, d1, d0, kind, w3, w2, w1, w0, q3, q2, q1, q0, n1, n0, c1, c0, payload, rfl⟩ :=
    exists_header h
  exact blit_eq_ok h rfl

section

variable {m : Type → Type} [Monad m] [MonadLiftT (Except Trap) m] [LawfulMonad m]
  [LawfulMonadLiftT (Except Trap) m]

/-- In any monad a step that has a result goes on with it. -/
theorem lift_bind_of_eq_ok {α β : Type} {x : Except Trap α} {a : α} (h : x = .ok a)
    (f : α → m β) : (liftM x >>= f) = f a := by
  have hpure : (liftM (Except.ok a : Except Trap α) : m α) = pure a := monadLift_pure a
  rw [h, hpure, pure_bind]

/-- **Writing asks once or not at all**: for the checksum of the frame with a zero
    checksum field, if the payload is not too long. -/
theorem packBy_eq (sumOf : List UInt8 → m UInt16) (s : Segment) :
    packBy sumOf s =
      if s.payload.length ≤ maxPayload then do
        let sum ← sumOf (s.header 0 ++ s.payload)
        return .ok (s.header sum ++ s.payload)
      else pure s.encode := by
  unfold packBy
  by_cases hfit : s.payload.length ≤ maxPayload
  · have hsmall : headerSize + s.payload.length ≤ 65_552 := Nat.add_le_add_left hfit headerSize
    have hsize : add .bits64 headerSize s.payload.length = .ok (headerSize + s.payload.length) :=
      add_bits64 (by omega)
    have hheader : writeHeader s (List.replicate (headerSize + s.payload.length) 0) =
        .ok (s.header 0 ++ List.replicate s.payload.length 0) := by
      rw [← List.replicate_append_replicate, writeHeader_eq_ok]
    rw [if_neg (Nat.not_lt.mpr hfit), if_pos hfit, lift_bind_of_eq_ok hsize,
      lift_bind_of_eq_ok hheader, lift_bind_of_eq_ok (blit_payload s)]
    congr 1
    funext sum
    rw [lift_bind_of_eq_ok (blit_checksum s sum s.payload)]
  · unfold encode
    rw [if_pos (Nat.not_le.mp hfit), if_neg hfit, if_neg hfit]

/-- **Reading asks once or not at all**: for the checksum of the frame with a zero
    checksum field, if the frame has the length that it declares. -/
theorem unpackBy_eq (sumOf : List UInt8 → m UInt16) (frame : List UInt8) :
    unpackBy sumOf frame =
      if frame.length = headerSize + declaredLength frame then do
        verdict frame (word16 (frame.getD 15 0) (frame.getD 16 0)) (← sumOf (blank frame))
      else pure (decode frame) := by
  unfold unpackBy
  rcases Nat.lt_or_ge frame.length headerSize with hshort | hlong
  · rw [if_pos hshort, if_neg (by omega), decode_of_short hshort]
  · have hheader : 17 ≤ frame.length := hlong
    have hdeclared : read16 frame 13 = .ok (word16 (frame.getD 13 0) (frame.getD 14 0)) :=
      read16_eq_ok (by omega)
    have hstored : read16 frame 15 = .ok (word16 (frame.getD 15 0) (frame.getD 16 0)) :=
      read16_eq_ok (by omega)
    have hfield : (word16 (frame.getD 13 0) (frame.getD 14 0)).toNat = declaredLength frame := rfl
    have hlt : declaredLength frame < 65_536 := UInt16.toNat_lt _
    have hsize : add .bits64 headerSize (declaredLength frame) =
        .ok (headerSize + declaredLength frame) := add_bits64 (by unfold headerSize; omega)
    rw [if_neg (Nat.not_lt.mpr hlong), lift_bind_of_eq_ok hdeclared]
    dsimp only
    rw [hfield, lift_bind_of_eq_ok hsize]
    by_cases hfits : frame.length = headerSize + declaredLength frame
    · rw [if_neg (not_not_intro hfits), if_pos hfits, lift_bind_of_eq_ok hstored,
        lift_bind_of_eq_ok (blit_blank hlong)]
    · rw [if_pos hfits, if_neg hfits, lift_bind_of_eq_ok (sub_eq_ok hlong),
        decode_of_length_ne hlong hfits]

end

/-! ### Noting it -/

/-- The checksum of a frame, which is noted behind those before it. -/
def noting (frame : List UInt8) : StateT (List (List UInt8)) (Except Trap) UInt16 := do
  modify (· ++ [frame])
  checksum frame

theorem run_noting_bind {α : Type} {frame : List UInt8}
    (h : frame.length ≤ headerSize + maxPayload)
    (f : UInt16 → StateT (List (List UInt8)) (Except Trap) α) (noted : List (List UInt8)) :
    (noting frame >>= f).run noted = (f (Wire.checksum frame)).run (noted ++ [frame]) := by
  unfold noting
  rw [checksum_eq_ok h]
  rfl

/-- The frames that the checksum is taken of when a segment is written. -/
def summedOf (s : Segment) : List (List UInt8) :=
  if s.payload.length ≤ maxPayload then [s.header 0 ++ s.payload] else []

/-- The frames that the checksum is taken of when bytes are read. -/
def summedIn (bytes : List UInt8) : List (List UInt8) :=
  if bytes.length = headerSize + declaredLength bytes then [blank bytes] else []

theorem length_of_mem_summedOf {s : Segment} {frame : List UInt8} (h : frame ∈ summedOf s) :
    frame.length ≤ headerSize + maxPayload := by
  unfold summedOf at h
  split at h
  · next hfit =>
    rw [List.mem_singleton.mp h, List.length_append, length_header]
    exact Nat.add_le_add_left hfit headerSize
  · cases h

theorem length_of_mem_summedIn {bytes frame : List UInt8} (h : frame ∈ summedIn bytes) :
    frame.length ≤ headerSize + maxPayload := by
  unfold summedIn at h
  split at h
  · next hlength =>
    have hblank : (blank bytes).length = bytes.length := by simp [blank]
    rw [List.mem_singleton.mp h, hblank, hlength]
    exact Nat.add_le_add_left (Nat.le_of_lt_succ (UInt16.toNat_lt _)) headerSize
  · cases h

theorem run_packBy_noting (s : Segment) (noted : List (List UInt8)) :
    (packBy noting s).run noted = .ok (s.encode, noted ++ summedOf s) := by
  rw [packBy_eq]
  by_cases hfit : s.payload.length ≤ maxPayload
  · have hsummed : summedOf s = [s.header 0 ++ s.payload] := if_pos hfit
    have hlength : (s.header 0 ++ s.payload).length ≤ headerSize + maxPayload :=
      length_of_mem_summedOf (hsummed ▸ List.mem_singleton_self _)
    rw [if_pos hfit, run_noting_bind hlength, hsummed, encode_eq_ok_iff.mpr ⟨hfit, rfl⟩]
    rfl
  · have hsummed : summedOf s = [] := if_neg hfit
    rw [if_neg hfit, hsummed, List.append_nil]
    rfl

theorem run_unpackBy_noting (bytes : List UInt8) (noted : List (List UInt8)) :
    (unpackBy noting bytes).run noted = .ok (decode bytes, noted ++ summedIn bytes) := by
  rw [unpackBy_eq]
  by_cases hlength : bytes.length = headerSize + declaredLength bytes
  · have hsummed : summedIn bytes = [blank bytes] := if_pos hlength
    have hblank : (blank bytes).length ≤ headerSize + maxPayload :=
      length_of_mem_summedIn (hsummed ▸ List.mem_singleton_self _)
    -- What comes after the checksum is what it is where nothing is noted.
    have hverdict : verdict bytes (word16 (bytes.getD 15 0) (bytes.getD 16 0))
        (Wire.checksum (blank bytes)) = .ok (decode bytes) := by
      rw [← unpack_eq_ok, ← unpackBy_checksum, unpackBy_eq, if_pos hlength,
        bind_of_eq_ok (checksum_eq_ok hblank)]
      rfl
    rw [if_pos hlength, run_noting_bind hblank, hverdict, hsummed]
    rfl
  · have hsummed : summedIn bytes = [] := if_neg hlength
    rw [if_neg hlength, hsummed, List.append_nil]
    rfl

/-! ### The result -/

/-- **The checksum is the complement of the one's complement sum** of every frame
    that is not longer than the length field can describe. No sum overflows and
    the carries come to an end; the value is 65535 if the words add up to zero,
    and otherwise 65535 less the number from 1 to 65535 that their sum is equal
    to modulo 65535. Of longer frames it is never taken, whichever segment is
    written and whichever bytes are read. -/
theorem checksum_is_ones_complement :
    (∀ frame : List UInt8, frame.length ≤ headerSize + maxPayload →
      OnesComplement frame ((words frame).map UInt16.toNat).sum) ∧
    (∀ s : Segment, packBy checksum s = pack s ∧
      (packBy noting s).run [] = .ok (s.encode, summedOf s) ∧
        ∀ frame ∈ summedOf s, frame.length ≤ headerSize + maxPayload) ∧
    ∀ bytes : List UInt8, unpackBy checksum bytes = unpack bytes ∧
      (unpackBy noting bytes).run [] = .ok (decode bytes, summedIn bytes) ∧
        ∀ frame ∈ summedIn bytes, frame.length ≤ headerSize + maxPayload := by
  refine ⟨fun frame h => onesComplement_of_length h, fun s => ?_, fun bytes => ?_⟩
  · exact ⟨packBy_checksum s, run_packBy_noting s [], fun _ => length_of_mem_summedOf⟩
  · exact ⟨unpackBy_checksum bytes, run_unpackBy_noting bytes [], fun _ => length_of_mem_summedIn⟩

/-- Words that take two passes, the last of them half a word; both zeros; what is
    summed of a small segment; and more zeros than a frame can have bytes. -/
theorem checksum_of_small_frames :
    OnesComplement [255, 255, 255, 0, 1] 131_071 ∧
    (Wire.checksum [255, 255, 255, 0, 1]).toNat = 65_534 ∧
    (Wire.checksum [255, 255]).toNat = 0 ∧ (Wire.checksum [0, 0, 0]).toNat = 65_535 ∧
    (packBy noting ⟨5000, 80, .data, 7, 1, [255]⟩).run [] =
      .ok (.ok [19, 136, 0, 80, 3, 0, 0, 0, 7, 0, 0, 0, 1, 0, 1, 223, 40, 255],
        [[19, 136, 0, 80, 3, 0, 0, 0, 7, 0, 0, 0, 1, 0, 1, 0, 0, 255]]) ∧
    (unpackBy noting (List.replicate 70_000 0)).run [] =
      .ok (.error (.lengthMismatch 0 69_983), []) := by
  obtain ⟨hvalue, hwrite, hread⟩ := checksum_is_ones_complement
  have hlength : (List.replicate 70_000 (0 : UInt8)).length = 70_000 := List.length_replicate
  have hdeclared : ∀ n, declaredLength (List.replicate n 0) = 0 := by
    intro n
    have hzero : ∀ i, (List.replicate n (0 : UInt8)).getD i 0 = 0 := by
      intro i
      rw [List.getD_eq_getElem?_getD, List.getElem?_replicate]
      split <;> rfl
    unfold declaredLength
    rw [hzero, hzero]
    rfl
  have hlong : (List.replicate 70_000 (0 : UInt8)).length ≠
      headerSize + declaredLength (List.replicate 70_000 0) := by
    rw [hlength, hdeclared]
    decide
  have hrefused : decode (List.replicate 70_000 0) = .error (.lengthMismatch 0 69_983) := by
    rw [decode_of_length_ne (by rw [hlength]; decide) hlong, hlength, hdeclared]
    rfl
  have hnone : summedIn (List.replicate 70_000 0) = [] := if_neg hlong
  refine ⟨hvalue _ (by decide), ?_, ?_, ?_, ?_, ?_⟩
  · exact (hvalue [255, 255, 255, 0, 1] (by decide)).value
  · exact (hvalue [255, 255] (by decide)).value
  · exact (hvalue [0, 0, 0] (by decide)).value
  · exact (hwrite ⟨5000, 80, .data, 7, 1, [255]⟩).2.1
  · rw [(hread _).2.1, hrefused, hnone]

end Checked

end ReliableStream
