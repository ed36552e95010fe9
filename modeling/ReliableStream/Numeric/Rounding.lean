/-! # Rounding a quotient to nearest

    Exact quotients of natural numbers are rounded to the nearest natural
    number, and a quotient half way between two of them goes to the even one. -/

namespace ReliableStream.Numeric

/-- The natural number nearest to `num / den`; a **half goes to the even**
    neighbour. The quotient by zero is zero. -/
def roundHalfEven (num den : Nat) : Nat :=
  let q := num / den
  -- Twice the remainder is compared with the divisor, to stay with integers.
  let twice := 2 * (num % den)
  if den = 0 then 0
  else if twice < den then q
  else if den < twice then q + 1
  else if q % 2 = 0 then q
  else q + 1

/-- A quotient without remainder is kept. -/
theorem roundHalfEven_of_mod_eq_zero {num den : Nat} (hden : den ≠ 0) (h : num % den = 0) :
    roundHalfEven num den = num / den := by
  have : 0 < den := by omega
  simp [roundHalfEven, h, hden, this]

/-- Rounding never passes the next integer. -/
theorem roundHalfEven_le (num den : Nat) : roundHalfEven num den ≤ num / den + 1 := by
  unfold roundHalfEven
  generalize num / den = q
  dsimp only
  (repeat' split) <;> omega

end ReliableStream.Numeric
