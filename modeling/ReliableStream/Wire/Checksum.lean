/-! # The Internet checksum

    The checksum of a frame is the complement of the one's complement sum of
    its 16 bit words in network byte order. A last byte without a partner
    counts as the high byte of a word. The sum is kept in 32 bits and its
    carries are added back in at the end. -/

namespace ReliableStream.Wire

/-- Adds the words of a frame to a running sum. -/
def accumulate (sum : UInt32) : List UInt8 → UInt32
  | a :: b :: rest => accumulate (sum + (a.toUInt32 * 256 + b.toUInt32)) rest
  | [a] => sum + a.toUInt32 * 256
  | [] => sum

/-- Adds what stands above the low 16 bits back to them. -/
def carryBack (sum : UInt32) : UInt32 := sum % 65_536 + sum / 65_536

/-- The checksum of a frame. **Two** rounds of carrying leave at most 16 bits
    of any 32 bit sum. -/
def checksum (frame : List UInt8) : UInt16 :=
  ~~~(carryBack (carryBack (accumulate 0 frame))).toUInt16

/-- Carrying back never wraps around. -/
theorem toNat_carryBack (sum : UInt32) :
    (carryBack sum).toNat = sum.toNat % 65_536 + sum.toNat / 65_536 := by
  have := sum.toNat_lt
  simp only [carryBack, UInt32.toNat_add, UInt32.toNat_mod, UInt32.toNat_div, UInt32.reduceToNat]
  generalize sum.toNat = n at *
  omega

/-- After two rounds of carrying nothing stands above the low 16 bits. -/
theorem carryBack_carryBack_lt (sum : UInt32) :
    (carryBack (carryBack sum)).toNat < 65_536 := by
  have := sum.toNat_lt
  -- The first round leaves less than `2 ^ 17`, the second less than `2 ^ 16`.
  rw [toNat_carryBack, toNat_carryBack]
  generalize sum.toNat = n at *
  omega

end ReliableStream.Wire
