import ReliableStream.Sequence
/-! # Distances between sequence numbers

    Comparisons of sequence numbers are statements about the steps between
    them. Steps **add up** along three numbers, modulo a full turn; with that,
    every question about the order of numbers near each other is one of linear
    arithmetic. -/

namespace ReliableStream.Sequence

theorem steps_eq (a b : UInt32) :
    steps a b = (b.toNat + 4_294_967_296 - a.toNat) % 4_294_967_296 := by
  have := a.toNat_lt
  have := b.toNat_lt
  simp only [steps, UInt32.toNat_sub]
  omega

/-- Steps add up, modulo a full turn. -/
theorem steps_chain (a b c : UInt32) :
    steps a c = (steps a b + steps b c) % 4_294_967_296 := by
  have := a.toNat_lt
  have := b.toNat_lt
  have := c.toNat_lt
  rw [steps_eq a b, steps_eq b c, steps_eq a c]
  omega

theorem steps_eq_zero_iff {a b : UInt32} : steps a b = 0 ↔ a = b := by
  constructor
  · intro h
    have hb := advance_steps a b
    rw [h, advance_zero] at hb
    exact hb
  · rintro rfl
    exact steps_self a

/-- Going forward less than a full turn is as many steps. -/
theorem steps_advance_of_lt (a : UInt32) {n : Nat} (h : n < 4_294_967_296) :
    steps a (advance a n) = n := by
  rw [steps_advance, Nat.mod_eq_of_lt h]

theorem atOrBefore_iff {a b : UInt32} : atOrBefore a b = true ↔ steps a b < 2_147_483_648 := by
  unfold atOrBefore
  exact decide_eq_true_iff

theorem before_iff {a b : UInt32} :
    before a b = true ↔ 0 < steps a b ∧ steps a b < 2_147_483_648 := by
  unfold before
  rw [Bool.and_eq_true, atOrBefore_iff, bne_iff_ne, Nat.pos_iff_ne_zero, ne_eq, ne_eq,
    steps_eq_zero_iff]

/-- Numbers of stream positions less than a full turn apart are the same only
    if the positions are. -/
theorem advance_inj {a : UInt32} {m n : Nat} (h : advance a m = advance a n)
    (hm : m < n + 4_294_967_296) (hn : n < m + 4_294_967_296) : m = n := by
  have h1 := steps_advance a m
  have h2 := steps_advance a n
  rw [h, h2] at h1
  omega

/-- The steps between two positions of a stream, in the forward direction. -/
theorem steps_advance_advance (a : UInt32) {m n : Nat} (h : m ≤ n) :
    steps (advance a m) (advance a n) = (n - m) % 4_294_967_296 := by
  have hn : advance a n = advance (advance a m) (n - m) := by
    rw [← advance_add]
    congr 1
    omega
  rw [hn, steps_advance]

end ReliableStream.Sequence
