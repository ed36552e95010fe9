import ReliableStream.Wire.Packet
/-! # The segment codec

    Encoding and decoding are two readings of one relation between segments
    and frames. A segment has at most one frame, its **canonical** one: the
    header with the checksum of the frame, followed by the payload. It has
    none only if the length field cannot count its payload.

    Main result: a frame decodes to a segment exactly if the segment encodes
    to that frame. -/

namespace ReliableStream

open Wire

/-- Different numbers have different bytes. -/
theorem Wire.bytesOf32_inj {v w : UInt32} (h : bytesOf32 v = bytesOf32 w) : v = w := by
  simp only [bytesOf32, List.cons.injEq, and_true] at h
  obtain ⟨h3, h2, h1, h0⟩ := h
  rw [← word32_bytesOf32 v, ← word32_bytesOf32 w, h3, h2, h1, h0]

namespace Segment

/-- A length that fits the length field is read back from it. -/
theorem toNat_lengthField {n : Nat} (h : n ≤ maxPayload) : (UInt16.ofNat n).toNat = n := by
  rw [UInt16.toNat_ofNat']
  unfold maxPayload at h
  omega

/-- The canonical frame of a segment decodes to it. -/
theorem decode_canonical (s : Segment) (h : s.payload.length ≤ maxPayload) :
    decode (s.header s.frameChecksum ++ s.payload) = .ok s := by
  have hlen := toNat_lengthField h
  have hkind : Kind.ofCode s.kind.code = .ok s.kind := Kind.ofCode_eq_ok_iff.mpr rfl
  -- The frame that the checksum was computed from, byte by byte.
  have hsum : checksum (bytesOf16 s.srcPort ++ bytesOf16 s.dstPort ++ [s.kind.code] ++
      bytesOf32 s.window ++ bytesOf32 s.seq ++ bytesOf16 (UInt16.ofNat s.payload.length) ++
      [0, 0] ++ s.payload) = s.frameChecksum := rfl
  generalize s.frameChecksum = sum at hsum ⊢
  -- The header is a list of 17 bytes, and decoding matches on exactly those.
  simp only [header, bytesOf16, bytesOf32, List.cons_append, List.nil_append] at hsum ⊢
  simp only [decode, word16_bytesOf16, word32_bytesOf32, hkind, hsum]
  rw [if_neg (by rw [hlen]; simp), if_neg (by simp)]
  rfl

/-- Decoding the frame of a segment gives the segment back. -/
theorem decode_of_encode {s : Segment} {frame : List UInt8} (h : s.encode = .ok frame) :
    decode frame = .ok s := by
  unfold encode at h
  split at h
  · next hlen =>
    cases h
    exact decode_canonical s hlen
  · cases h

/-- A frame that decodes is the canonical frame of what it decodes to. -/
theorem canonical_of_decode {s : Segment} {frame : List UInt8} (h : decode frame = .ok s) :
    s.payload.length ≤ maxPayload ∧ frame = s.header s.frameChecksum ++ s.payload := by
  unfold decode at h
  split at h
  · next s1 s0 d1 d0 kind w3 w2 w1 w0 q3 q2 q1 q0 n1 n0 c1 c0 payload =>
    simp only at h
    split at h
    · cases h
    · next hlen =>
      split at h
      · cases h
      · next hsum =>
        cases hk : Kind.ofCode kind with
        | error e =>
          rw [hk] at h
          cases h
        | ok k =>
          rw [hk] at h
          have hcode : kind = k.code := Kind.ofCode_eq_ok_iff.mp hk
          have hlen' : payload.length = (word16 n1 n0).toNat := Decidable.not_not.mp hlen
          have hfield : UInt16.ofNat payload.length = word16 n1 n0 := by
            rw [hlen']
            exact UInt16.ofNat_toNat
          -- The fields of the segment were read from the bytes they are written to.
          have hheader (sum : UInt16) : s.header sum =
              [s1, s0, d1, d0, kind, w3, w2, w1, w0, q3, q2, q1, q0, n1, n0] ++ bytesOf16 sum := by
            cases h
            simp only [header, bytesOf16_word16, bytesOf32_word32, hfield, hcode, List.cons_append,
              List.nil_append]
          have hpayload : s.payload = payload := by
            cases h
            rfl
          have hchecksum : s.frameChecksum = word16 c1 c0 := by
            have hblank : bytesOf16 0 = [0, 0] := rfl
            rw [frameChecksum, hheader, hpayload, hblank]
            exact Decidable.not_not.mp hsum
          constructor
          · rw [hpayload, hlen']
            have := (word16 n1 n0).toNat_lt
            unfold maxPayload
            omega
          · rw [hheader, hchecksum, bytesOf16_word16, hpayload]
            rfl
  · cases h

/-- Encoding gives the canonical frame, of any payload the length field can
    count. -/
theorem encode_eq_ok_iff {s : Segment} {frame : List UInt8} :
    s.encode = .ok frame ↔
      s.payload.length ≤ maxPayload ∧ frame = s.header s.frameChecksum ++ s.payload := by
  unfold encode
  constructor
  · intro h
    split at h
    · next hlen =>
      cases h
      exact ⟨hlen, rfl⟩
    · cases h
  · rintro ⟨hlen, rfl⟩
    rw [if_pos hlen]

/-- **The codec is exact**: a frame decodes to a segment exactly if the
    segment encodes to it, which is to say if it is the canonical frame of the
    segment. A segment makes the round trip exactly if the length field can
    count its payload, and only the others are refused. -/
theorem decode_eq_ok_iff_encode_eq_ok (frame : List UInt8) (s : Segment) :
    (decode frame = .ok s ↔ s.encode = .ok frame) ∧
      (decode frame = .ok s ↔
        s.payload.length ≤ maxPayload ∧ frame = s.header s.frameChecksum ++ s.payload) ∧
      (s.payload.length ≤ maxPayload ↔ ∃ f, s.encode = .ok f ∧ decode f = .ok s) ∧
      (maxPayload < s.payload.length ↔ ∃ e, s.encode = .error e) := by
  have hcanonical : decode frame = .ok s ↔
      s.payload.length ≤ maxPayload ∧ frame = s.header s.frameChecksum ++ s.payload := by
    constructor
    · exact canonical_of_decode
    · intro h
      exact decode_of_encode (encode_eq_ok_iff.mpr h)
  refine ⟨?_, hcanonical, ?_, ?_⟩
  · rw [hcanonical, encode_eq_ok_iff]
  · constructor
    · intro h
      have hok : s.encode = .ok (s.header s.frameChecksum ++ s.payload) :=
        encode_eq_ok_iff.mpr ⟨h, rfl⟩
      exact ⟨_, hok, decode_of_encode hok⟩
    · rintro ⟨f, hok, -⟩
      exact (encode_eq_ok_iff.mp hok).1
  · constructor
    · intro h
      exact ⟨_, if_neg (Nat.not_le.mpr h)⟩
    · rintro ⟨e, he⟩
      apply Nat.lt_of_not_le
      intro h
      rw [encode_eq_ok_iff.mpr ⟨h, rfl⟩] at he
      cases he

end Segment

/-- The packet that carries a segment carries exactly that segment. -/
theorem Packet.segment?_of_encode {s : Segment} {frame : List UInt8} {p : Packet}
    (h : s.encode = .ok frame) (hp : p.payload = frame) (ht : p.protocol = .transport) :
    p.segment? = some s := by
  unfold Packet.segment?
  rw [ht, hp, Segment.decode_of_encode h]
  rfl

end ReliableStream
