import ReliableStream.Proofs.Traffic
/-! # Damaged frames

    The checksum of a frame is the sum of its words modulo 65535, and in that
    sum every byte counts once or 256 times. One byte that is another changes
    the sum by less than 65535 and so does not go unnoticed, wherever it
    stands: the checksum field is not part of the sum, but it is compared
    with it.

    A frame also says how long it is, so that bytes that are lost or added at
    its end show as well.

    Main result: a frame that decodes does not decode any more once bits of a
    single byte of it are changed, once it breaks off, or once it goes on. -/

namespace ReliableStream

namespace Wire

/-! ### The checksum as a sum -/

/-- The sum of the words of a frame. -/
def wordSum : List UInt8 → Nat
  | a :: b :: rest => a.toNat * 256 + b.toNat + wordSum rest
  | [a] => a.toNat * 256
  | [] => 0

/-- How often a byte of the word sum counts. -/
def place : Nat → Nat
  | 0 => 256
  | 1 => 1
  | i + 2 => place i

theorem place_eq (i : Nat) : place i = 256 ∨ place i = 1 := by
  fun_induction place i with
  | case1 => exact Or.inl rfl
  | case2 => exact Or.inr rfl
  | case3 _ ih => exact ih

theorem wordSum_le (frame : List UInt8) : wordSum frame ≤ 65_535 * ((frame.length + 1) / 2) := by
  fun_induction wordSum frame with
  | case1 a b rest ih =>
    have ha := a.toNat_lt
    have hb := b.toNat_lt
    simp only [List.length_cons]
    omega
  | case2 a =>
    have ha := a.toNat_lt
    simp only [List.length_cons, List.length_nil]
    omega
  | case3 => exact Nat.zero_le _

/-- A sum that fits 32 bits is kept exactly. -/
theorem toNat_accumulate {sum : UInt32} {frame : List UInt8}
    (h : sum.toNat + wordSum frame < 4_294_967_296) :
    (accumulate sum frame).toNat = sum.toNat + wordSum frame := by
  fun_induction accumulate sum frame with
  | case1 sum a b rest ih =>
    have hword : (sum + (a.toUInt32 * 256 + b.toUInt32)).toNat =
        sum.toNat + (a.toNat * 256 + b.toNat) := by
      have ha := a.toNat_lt
      have hb := b.toNat_lt
      simp only [wordSum] at h
      simp only [UInt32.toNat_add, UInt32.toNat_mul, UInt8.toNat_toUInt32, UInt32.reduceToNat]
      omega
    simp only [wordSum] at h ⊢
    rw [ih (by rw [hword]; omega), hword]
    omega
  | case2 sum a =>
    have ha := a.toNat_lt
    simp only [wordSum] at h ⊢
    simp only [UInt32.toNat_add, UInt32.toNat_mul, UInt8.toNat_toUInt32, UInt32.reduceToNat]
    omega
  | case3 => rfl

/-- Equal checksums are those of sums that are equal modulo 65535. -/
theorem wordSum_of_checksum_eq {frame frame' : List UInt8} (hsize : frame.length ≤ 65_552)
    (hsize' : frame'.length ≤ 65_552) (h : checksum frame = checksum frame') :
    wordSum frame % 65_535 = wordSum frame' % 65_535 := by
  have hcarried : ∀ {f : List UInt8}, f.length ≤ 65_552 →
      (~~~(checksum f)).toNat % 65_535 = wordSum f % 65_535 := by
    intro f hf
    have hle := wordSum_le f
    have hsum : (accumulate 0 f).toNat = wordSum f := by
      rw [toNat_accumulate]
      · exact Nat.zero_add _
      · show 0 + wordSum f < _
        omega
    have hlt := carryBack_carryBack_lt (accumulate 0 f)
    unfold checksum
    rw [UInt16.not_not, UInt32.toNat_toUInt16, Nat.mod_eq_of_lt hlt, toNat_carryBack,
      toNat_carryBack, hsum]
    omega
  rw [← hcarried hsize, h, hcarried hsize']

/-- Another byte changes the sum by what it counts. -/
theorem wordSum_set (frame : List UInt8) {i : Nat} (hi : i < frame.length) (b : UInt8) :
    wordSum (frame.set i b) + place i * frame[i].toNat = wordSum frame + place i * b.toNat := by
  fun_induction wordSum frame generalizing i with
  | case1 x y rest ih =>
    match i with
    | 0 => simp only [List.set_cons_zero, wordSum, place, List.getElem_cons_zero]; omega
    | 1 =>
      simp only [List.set_cons_succ, List.set_cons_zero, wordSum, place, List.getElem_cons_succ,
        List.getElem_cons_zero]
      omega
    | i + 2 =>
      have hrest := ih (i := i) (by simpa using hi)
      simp only [List.set_cons_succ, wordSum, place, List.getElem_cons_succ]
      omega
  | case2 x =>
    obtain rfl : i = 0 := by simpa using hi
    simp only [List.set_cons_zero, wordSum, place, List.getElem_cons_zero]
    omega
  | case3 => exact absurd hi (Nat.not_lt_zero i)

/-- Two words are equal only if their bytes are. -/
theorem word16_inj {a b a' b' : UInt8} (h : word16 a b = word16 a' b') : a = a' ∧ b = b' := by
  have hbytes := congrArg bytesOf16 h
  simp only [bytesOf16_word16, List.cons.injEq, and_true] at hbytes
  exact hbytes

end Wire

namespace Segment

open Wire

/-! ### The checks of a frame -/

/-- A frame with its checksum field set to zero. -/
def blank (frame : List UInt8) : List UInt8 := (frame.set 15 0).set 16 0

/-- The payload length that a frame declares. -/
def declaredLength (frame : List UInt8) : Nat :=
  (word16 (frame.getD 13 0) (frame.getD 14 0)).toNat

/-- A frame bears the checksum of the frame without it. -/
def Sealed (frame : List UInt8) : Prop :=
  checksum (blank frame) = word16 (frame.getD 15 0) (frame.getD 16 0)

/-- A frame that a whole header fits starts with the bytes of one. -/
theorem exists_header {frame : List UInt8} (h : headerSize ≤ frame.length) :
    ∃ s1 s0 d1 d0 kind w3 w2 w1 w0 q3 q2 q1 q0 n1 n0 c1 c0 payload,
      frame = s1 :: s0 :: d1 :: d0 :: kind :: w3 :: w2 :: w1 :: w0 :: q3 :: q2 :: q1 :: q0 ::
        n1 :: n0 :: c1 :: c0 :: payload := by
  rcases frame with _ | ⟨s1, _ | ⟨s0, _ | ⟨d1, _ | ⟨d0, _ | ⟨kind, _ | ⟨w3, _ | ⟨w2, _ | ⟨w1,
    _ | ⟨w0, _ | ⟨q3, _ | ⟨q2, _ | ⟨q1, _ | ⟨q0, _ | ⟨n1, _ | ⟨n0, _ | ⟨c1, _ | ⟨c0,
    payload⟩⟩⟩⟩⟩⟩⟩⟩⟩⟩⟩⟩⟩⟩⟩⟩⟩
  all_goals first
    | exact ⟨_, _, _, _, _, _, _, _, _, _, _, _, _, _, _, _, _, _, rfl⟩
    | simp [headerSize] at h

/-- Of a frame that is shorter nothing is read. -/
theorem decode_of_short {frame : List UInt8} (h : frame.length < headerSize) :
    decode frame = .error (.tooShort frame.length) := by
  unfold decode
  split
  · simp [headerSize] at h
    omega
  · rfl

/-- The length comes first of what is checked, -/
theorem decode_of_length_ne {frame : List UInt8} (h : headerSize ≤ frame.length)
    (hne : frame.length ≠ headerSize + declaredLength frame) :
    decode frame = .error (.lengthMismatch (declaredLength frame) (frame.length - headerSize)) := by
  obtain ⟨s1, s0, d1, d0, kind, w3, w2, w1, w0, q3, q2, q1, q0, n1, n0, c1, c0, payload, rfl⟩ :=
    exists_header h
  have hdeclared : declaredLength (s1 :: s0 :: d1 :: d0 :: kind :: w3 :: w2 :: w1 :: w0 :: q3 ::
      q2 :: q1 :: q0 :: n1 :: n0 :: c1 :: c0 :: payload) = (word16 n1 n0).toNat := rfl
  have hpayload : payload.length ≠ (word16 n1 n0).toNat := by
    intro heq
    apply hne
    rw [hdeclared, ← heq]
    exact Nat.add_comm payload.length 17
  rw [hdeclared]
  exact if_pos hpayload

/-- and the checksum second. -/
theorem decode_of_not_sealed {frame : List UInt8}
    (hlength : frame.length = headerSize + declaredLength frame) (h : ¬ Sealed frame) :
    decode frame = .error .checksumFailed := by
  obtain ⟨s1, s0, d1, d0, kind, w3, w2, w1, w0, q3, q2, q1, q0, n1, n0, c1, c0, payload, rfl⟩ :=
    exists_header (hlength ▸ Nat.le_add_right ..)
  have hpayload : payload.length = (word16 n1 n0).toNat :=
    Nat.add_left_cancel (n := 17) ((Nat.add_comm ..).trans hlength)
  have hchecksum : checksum (s1 :: s0 :: d1 :: d0 :: kind :: w3 :: w2 :: w1 :: w0 :: q3 :: q2 ::
      q1 :: q0 :: n1 :: n0 :: 0 :: 0 :: payload) ≠ word16 c1 c0 := h
  simp only [decode]
  rw [if_neg (not_not_intro hpayload), if_pos hchecksum]

/-- A frame that decodes has the length that it declares, and is sealed. -/
theorem sealed_of_decode {frame : List UInt8} {s : Segment} (h : decode frame = .ok s) :
    frame.length = headerSize + declaredLength frame ∧ declaredLength frame = s.payload.length ∧
      Sealed frame := by
  obtain ⟨hpayload, hframe⟩ := canonical_of_decode h
  have hdeclared : declaredLength frame = s.payload.length := by
    rw [hframe, ← toNat_lengthField hpayload]
    exact congrArg UInt16.toNat (word16_bytesOf16 _)
  have hblank : blank frame = s.header 0 ++ s.payload := by
    rw [hframe]
    simp [blank, header, bytesOf16, bytesOf32]
  refine ⟨?_, hdeclared, ?_⟩
  · rw [hdeclared, hframe, List.length_append, length_header]
  · unfold Sealed
    rw [hblank, hframe]
    exact (word16_bytesOf16 s.frameChecksum).symm

/-! ### A changed byte -/

/-- A sealed frame is not sealed any more once a byte of it is another. -/
theorem Sealed.not_set {frame : List UInt8} (h : Sealed frame) (hsize : frame.length ≤ 65_552)
    {i : Nat} (hi : i < frame.length) {b : UInt8} (hb : frame[i] ≠ b) :
    ¬ Sealed (frame.set i b) := by
  intro h'
  unfold Sealed at h h'
  by_cases hfield : i = 15 ∨ i = 16
  -- The sum is the same, but not what it is compared with.
  · have hblank : blank (frame.set i b) = blank frame := by
      unfold blank
      rcases hfield with rfl | rfl
      · rw [List.set_set]
      · rw [List.set_comm b 0 (by decide), List.set_set]
    rw [hblank, h] at h'
    obtain ⟨h15, h16⟩ := word16_inj h'
    rcases hfield with rfl | rfl
    · exact hb (by simpa [List.getD_eq_getElem?_getD, hi] using h15)
    · exact hb (by simpa [List.getD_eq_getElem?_getD, hi] using h16)
  -- What it is compared with is the same, but not the sum.
  · obtain ⟨h15, h16⟩ := not_or.mp hfield
    have hblank : blank (frame.set i b) = (blank frame).set i b := by
      unfold blank
      rw [List.set_comm b 0 h15, List.set_comm b 0 h16]
    have hfields : word16 ((frame.set i b).getD 15 0) ((frame.set i b).getD 16 0) =
        word16 (frame.getD 15 0) (frame.getD 16 0) := by
      simp [List.getD_eq_getElem?_getD, List.getElem?_set_ne h15, List.getElem?_set_ne h16]
    have hlength : (blank frame).length = frame.length := by simp [blank]
    rw [hfields, ← h, hblank] at h'
    have hmod := wordSum_of_checksum_eq (by rwa [List.length_set, hlength]) (hlength ▸ hsize) h'
    have hi' : i < (blank frame).length := hlength ▸ hi
    have hset := wordSum_set (blank frame) hi' b
    have hsame : (blank frame)[i] = frame[i] := by
      simp [blank, Ne.symm h15, Ne.symm h16]
    rw [hsame] at hset
    have hne : frame[i].toNat ≠ b.toNat := fun heq => hb (UInt8.toNat_inj.mp heq)
    have hlt := frame[i].toNat_lt
    have hlt' := b.toNat_lt
    rcases place_eq i with hplace | hplace
    · rw [hplace] at hset
      omega
    · rw [hplace] at hset
      omega

/-- **A changed byte does not go unnoticed.** In the length field it is the
    length that is wrong, elsewhere the checksum. -/
theorem decode_set {frame : List UInt8} {s : Segment} (h : decode frame = .ok s) {i : Nat}
    (hi : i < frame.length) {b : UInt8} (hb : frame[i] ≠ b) :
    decode (frame.set i b) =
      .error (if i = 13 ∨ i = 14 then
        .lengthMismatch (declaredLength (frame.set i b)) s.payload.length
      else .checksumFailed) := by
  obtain ⟨hlength, hdeclared, hsealed⟩ := sealed_of_decode h
  have hpayload := (canonical_of_decode h).1
  unfold maxPayload at hpayload
  by_cases hfield : i = 13 ∨ i = 14
  · -- Another word declares another length.
    have hother : declaredLength (frame.set i b) ≠ declaredLength frame := by
      intro hsame
      obtain ⟨h13, h14⟩ := word16_inj (UInt16.toNat_inj.mp hsame)
      rcases hfield with rfl | rfl
      · exact hb (by simpa [List.getD_eq_getElem?_getD, hi] using h13.symm)
      · exact hb (by simpa [List.getD_eq_getElem?_getD, hi] using h14.symm)
    rw [if_pos hfield, decode_of_length_ne, List.length_set, hlength, hdeclared,
      Nat.add_sub_cancel_left]
    · rw [List.length_set]
      omega
    · rw [List.length_set]
      omega
  · obtain ⟨h13, h14⟩ := not_or.mp hfield
    have hsame : declaredLength (frame.set i b) = declaredLength frame := by
      simp [declaredLength, List.getD_eq_getElem?_getD, List.getElem?_set_ne h13,
        List.getElem?_set_ne h14]
    rw [if_neg hfield]
    apply decode_of_not_sealed
    · rw [List.length_set, hsame, hlength]
    · apply hsealed.not_set _ hi hb
      unfold headerSize at hlength
      omega

/-- Changing some bits changes a byte. -/
theorem xor_ne (b : UInt8) {mask : UInt8} (h : mask ≠ 0) : b ≠ b ^^^ mask := by
  intro hsame
  apply h
  have hcancel := congrArg (b ^^^ ·) hsame
  simp only [← UInt8.xor_assoc, UInt8.xor_self, UInt8.zero_xor] at hcancel
  exact hcancel.symm

theorem decode_modify {frame : List UInt8} {s : Segment} (h : decode frame = .ok s) {i : Nat}
    (hi : i < frame.length) {mask : UInt8} (hmask : mask ≠ 0) :
    decode (frame.modify i (· ^^^ mask)) =
      .error (if i = 13 ∨ i = 14 then
        .lengthMismatch (declaredLength (frame.modify i (· ^^^ mask))) s.payload.length
      else .checksumFailed) := by
  rw [List.modify_eq_set, List.getElem?_eq_getElem hi, Option.getD_some]
  exact decode_set h hi (xor_ne _ hmask)

/-- A flipped bit does not go unnoticed. -/
theorem exists_error_of_flip {frame : List UInt8} {s : Segment} (h : decode frame = .ok s) {i : Nat}
    (hi : i < frame.length) (bit : Nat) :
    ∃ e, decode (frame.modify i (· ^^^ (1 <<< UInt8.ofNat bit))) = .error e := by
  have hmask : ∀ n < 256, (1 : UInt8) <<< UInt8.ofNat n ≠ 0 := by decide +kernel
  have hbit := hmask (UInt8.ofNat bit).toNat (UInt8.toNat_lt _)
  rw [UInt8.ofNat_toNat] at hbit
  exact ⟨_, decode_modify h hi hbit⟩

/-! ### Bytes lost or added at the end -/

/-- Bytes behind the header do not change what it declares. -/
theorem declaredLength_congr {frame frame' : List UInt8}
    (h : frame.take headerSize = frame'.take headerSize) :
    declaredLength frame = declaredLength frame' := by
  have hbyte : ∀ i < headerSize, frame.getD i 0 = frame'.getD i 0 := by
    intro i hi
    rw [List.getD_eq_getElem?_getD, List.getD_eq_getElem?_getD, ← List.getElem?_take_of_lt hi, h,
      List.getElem?_take_of_lt hi]
  unfold declaredLength
  rw [hbyte 13 (by decide), hbyte 14 (by decide)]

/-- A frame that breaks off has no whole header, or less payload than the header
    declares. -/
theorem decode_take {frame : List UInt8} {s : Segment} (h : decode frame = .ok s) {k : Nat}
    (hk : k < frame.length) :
    decode (frame.take k) =
      .error (if k < headerSize then .tooShort k
      else .lengthMismatch s.payload.length (k - headerSize)) := by
  obtain ⟨hlength, hdeclared, -⟩ := sealed_of_decode h
  have hcut : (frame.take k).length = k := List.length_take_of_le (Nat.le_of_lt hk)
  by_cases hshort : k < headerSize
  · rw [if_pos hshort, decode_of_short (by rwa [hcut]), hcut]
  · have hsame : declaredLength (frame.take k) = declaredLength frame := by
      apply declaredLength_congr
      rw [List.take_take, Nat.min_eq_left (by omega)]
    rw [if_neg hshort, decode_of_length_ne (by omega) (by omega), hcut, hsame, hdeclared]

/-- A frame that goes on has more payload than the header declares. -/
theorem decode_append {frame : List UInt8} {s : Segment} (h : decode frame = .ok s)
    {extra : List UInt8} (hextra : extra ≠ []) :
    decode (frame ++ extra) =
      .error (.lengthMismatch s.payload.length (s.payload.length + extra.length)) := by
  obtain ⟨hlength, hdeclared, -⟩ := sealed_of_decode h
  have hpos := List.length_pos_iff.mpr hextra
  have hsame : declaredLength (frame ++ extra) = declaredLength frame := by
    apply declaredLength_congr
    rw [List.take_append_of_le_length (by omega)]
  have hsize : (frame ++ extra).length = headerSize + (s.payload.length + extra.length) := by
    rw [List.length_append]
    omega
  rw [decode_of_length_ne (by omega) (by omega), hsize, hsame, hdeclared, Nat.add_sub_cancel_left]

/-! ### The result -/

/-- **Damage is noticed.** Every segment whose payload the length field can count
    has a frame. With any bits of any one byte changed this frame does not decode,
    nor does any part of it that breaks off before the end, nor any longer
    sequence of bytes that starts with it. -/
theorem damage_is_noticed {s : Segment} (h : s.payload.length ≤ maxPayload) :
    ∃ frame, s.encode = .ok frame ∧
      (∀ i < frame.length, ∀ mask : UInt8, mask ≠ 0 →
        decode (frame.modify i (· ^^^ mask)) =
          .error (if i = 13 ∨ i = 14 then
            .lengthMismatch (declaredLength (frame.modify i (· ^^^ mask))) s.payload.length
          else .checksumFailed)) ∧
      (∀ k < frame.length, decode (frame.take k) =
        .error (if k < headerSize then .tooShort k
        else .lengthMismatch s.payload.length (k - headerSize))) ∧
      ∀ extra, extra ≠ [] → decode (frame ++ extra) =
        .error (.lengthMismatch s.payload.length (s.payload.length + extra.length)) := by
  have hencode := encode_eq_ok_iff.mpr ⟨h, rfl⟩
  have hdecode := decode_of_encode hencode
  refine ⟨_, hencode, ?_, ?_, ?_⟩
  · intro i hi mask hmask
    exact decode_modify hdecode hi hmask
  · intro k hk
    exact decode_take hdecode hk
  · intro extra hextra
    exact decode_append hdecode hextra

/-- A frame with an odd payload, with its kind changed into another kind, with its
    length field changed, without its last byte, and with a zero behind it. -/
theorem damage_of_small_frame : ∃ frame,
    (⟨5000, 80, .data, 7, 4_294_967_295, [1, 2, 255]⟩ : Segment).encode = .ok frame ∧
    decode (frame.modify 4 (· ^^^ 2)) = .error .checksumFailed ∧
    decode (frame.modify 14 (· ^^^ 1)) = .error (.lengthMismatch 2 3) ∧
    decode (frame.take 19) = .error (.lengthMismatch 3 2) ∧
    decode (frame ++ [0]) = .error (.lengthMismatch 3 4) := by
  obtain ⟨frame, hencode, hmodify, htake, happend⟩ :=
    damage_is_noticed (s := ⟨5000, 80, .data, 7, 4_294_967_295, [1, 2, 255]⟩) (by decide)
  obtain ⟨-, hframe⟩ := encode_eq_ok_iff.mp hencode
  have hlength : frame.length = 20 := by
    rw [hframe]
    rfl
  refine ⟨frame, hencode, hmodify 4 (by omega) 2 (by decide), ?_, htake 19 (by omega),
    happend [0] (by decide)⟩
  rw [hmodify 14 (by omega) 1 (by decide), hframe]
  rfl

end Segment

theorem Packet.segment?_eq_some_iff {p : Packet} {s : Segment} :
    p.segment? = some s ↔ p.protocol = .transport ∧ Segment.decode p.payload = .ok s := by
  unfold Packet.segment?
  split
  · next hprotocol =>
    rw [hprotocol]
    cases Segment.decode p.payload with
    | error e => exact ⟨nofun, fun h => nomatch h.2⟩
    | ok s' =>
      constructor
      · intro h
        cases h
        exact ⟨rfl, rfl⟩
      · rintro ⟨-, h⟩
        cases h
        rfl
  · next hprotocol => exact ⟨nofun, fun h => absurd h.1 hprotocol⟩

/-- A packet with a segment arrives as it was sent, or nothing is read from it. -/
theorem Packet.Conveyed.eq_or_exists_error {sent arriving : Packet} {s : Segment}
    (h : sent.Conveyed arriving) (hs : Segment.decode sent.payload = .ok s) :
    arriving = sent ∨ ∃ e, Segment.decode arriving.payload = .error e := by
  rcases h with rfl | ⟨i, bit, hi, -, rfl⟩
  · exact .inl rfl
  · exact .inr (Segment.exists_error_of_flip hs hi bit)

theorem Packet.Conveyed.segment? {sent arriving : Packet} {s : Segment}
    (h : sent.Conveyed arriving) (hs : sent.segment? = some s) :
    arriving = sent ∨ arriving.segment? = none := by
  refine (h.eq_or_exists_error (Packet.segment?_eq_some_iff.mp hs).2).imp_right ?_
  rintro ⟨e, herror⟩
  rw [Option.eq_none_iff_forall_ne_some]
  intro s' hs'
  rw [(Packet.segment?_eq_some_iff.mp hs').2] at herror
  cases herror

end ReliableStream
