/-! # Sequence numbers

    Every byte of a stream has a sequence number, and sequence numbers count
    modulo `2 ^ 32`. Which of two numbers comes first is decided by the shorter
    way round: `a` is not after `b` if going **forward** from `a` reaches `b`
    in less than `2 ^ 31` steps. -/

namespace ReliableStream.Sequence

/-- The steps forward from `a` to `b`. -/
def steps (a b : UInt32) : Nat := (b - a).toNat

/-- The number `n` steps after `a`. -/
def advance (a : UInt32) (n : Nat) : UInt32 := a + UInt32.ofNat n

/-- Whether `a` comes before `b` or is `b`. -/
def atOrBefore (a b : UInt32) : Bool := steps a b < 2_147_483_648

/-- Whether `a` comes before `b`. -/
def before (a b : UInt32) : Bool := a != b && atOrBefore a b

@[simp] theorem steps_self (a : UInt32) : steps a a = 0 := by simp [steps]

theorem steps_lt (a b : UInt32) : steps a b < 4_294_967_296 := (b - a).toNat_lt

/-- Going forward `steps a b` steps from `a` leads to `b`. -/
theorem advance_steps (a b : UInt32) : advance a (steps a b) = b := by
  apply UInt32.toNat_inj.mp
  have := a.toNat_lt
  have := b.toNat_lt
  simp only [advance, steps, UInt32.toNat_add, UInt32.toNat_ofNat', UInt32.toNat_sub]
  omega

/-- Going forward `n` steps is `n` steps forward, up to a full turn. -/
theorem steps_advance (a : UInt32) (n : Nat) : steps a (advance a n) = n % 4_294_967_296 := by
  have := a.toNat_lt
  simp only [advance, steps, UInt32.toNat_add, UInt32.toNat_ofNat', UInt32.toNat_sub]
  omega

theorem advance_add (a : UInt32) (m n : Nat) : advance a (m + n) = advance (advance a m) n := by
  apply UInt32.toNat_inj.mp
  simp only [advance, UInt32.toNat_add, UInt32.toNat_ofNat']
  omega

@[simp] theorem advance_zero (a : UInt32) : advance a 0 = a := by simp [advance]

end ReliableStream.Sequence
