/-! # Words in network byte order

    Numbers of 16 and 32 bits travel with their most significant byte first. -/

namespace ReliableStream.Wire

/-- The two bytes of a 16 bit word, the most significant first. -/
def bytesOf16 (w : UInt16) : List UInt8 :=
  [UInt8.ofNat (w.toNat / 256), UInt8.ofNat w.toNat]

/-- The 16 bit word of two bytes. -/
def word16 (a b : UInt8) : UInt16 := UInt16.ofNat (a.toNat * 256 + b.toNat)

/-- The four bytes of a 32 bit word, the most significant first. -/
def bytesOf32 (w : UInt32) : List UInt8 :=
  [UInt8.ofNat (w.toNat / 16_777_216), UInt8.ofNat (w.toNat / 65_536),
    UInt8.ofNat (w.toNat / 256), UInt8.ofNat w.toNat]

/-- The 32 bit word of four bytes. -/
def word32 (a b c d : UInt8) : UInt32 :=
  UInt32.ofNat (((a.toNat * 256 + b.toNat) * 256 + c.toNat) * 256 + d.toNat)

@[simp] theorem length_bytesOf16 (w : UInt16) : (bytesOf16 w).length = 2 := rfl

@[simp] theorem length_bytesOf32 (w : UInt32) : (bytesOf32 w).length = 4 := rfl

/-- Reading the bytes of a 16 bit word gives the word. -/
theorem word16_bytesOf16 (w : UInt16) :
    word16 (UInt8.ofNat (w.toNat / 256)) (UInt8.ofNat w.toNat) = w := by
  apply UInt16.toNat_inj.mp
  have := w.toNat_lt
  simp only [word16, UInt16.toNat_ofNat', UInt8.toNat_ofNat']
  omega

/-- Writing the word of two bytes gives the bytes. -/
theorem bytesOf16_word16 (a b : UInt8) : bytesOf16 (word16 a b) = [a, b] := by
  have ha := a.toNat_lt
  have hb := b.toNat_lt
  simp only [bytesOf16, word16, UInt16.toNat_ofNat', List.cons.injEq, and_true]
  constructor <;> apply UInt8.toNat_inj.mp <;> simp only [UInt8.toNat_ofNat'] <;> omega

/-- Reading the bytes of a 32 bit word gives the word. -/
theorem word32_bytesOf32 (w : UInt32) :
    word32 (UInt8.ofNat (w.toNat / 16_777_216)) (UInt8.ofNat (w.toNat / 65_536))
      (UInt8.ofNat (w.toNat / 256)) (UInt8.ofNat w.toNat) = w := by
  apply UInt32.toNat_inj.mp
  have := w.toNat_lt
  simp only [word32, UInt32.toNat_ofNat', UInt8.toNat_ofNat']
  omega

/-- Writing the word of four bytes gives the bytes. -/
theorem bytesOf32_word32 (a b c d : UInt8) : bytesOf32 (word32 a b c d) = [a, b, c, d] := by
  have ha := a.toNat_lt
  have hb := b.toNat_lt
  have hc := c.toNat_lt
  have hd := d.toNat_lt
  simp only [bytesOf32, word32, UInt32.toNat_ofNat', List.cons.injEq, and_true]
  refine ⟨?_, ?_, ?_, ?_⟩ <;> apply UInt8.toNat_inj.mp <;> simp only [UInt8.toNat_ofNat'] <;> omega

end ReliableStream.Wire
