import ReliableStream.Fault
/-! # Machine words and flat memory

    On a machine a count is a word of 32 or 64 bits and memory is a flat row
    of bytes, and not every operation on them has a result. Here each one that
    can go wrong is **checked**: it either has the result of plain arithmetic,
    or ends the run with a **trap** that says what went wrong. -/

namespace ReliableStream.Checked

/-- What ends a run of a checked machine. -/
inductive Trap where
  /-- Something that was asserted does not hold. -/
  | assertion
  /-- An index or a stretch is not inside the memory it is taken from. -/
  | range
  /-- A difference is below zero. -/
  | underflow
  /-- A sum or a product does not fit its word. -/
  | overflow
  /-- The divisor is zero. -/
  | division
  /-- A loop does not come to its end. -/
  | endless
  /-- A segment cannot be encoded. -/
  | encoding
  /-- The arithmetic of durations faults. -/
  | clock (fault : Fault)
  deriving DecidableEq, Repr

/-- The two kinds of words. -/
inductive Width where
  | bits32
  | bits64
  deriving DecidableEq, Repr

/-- The first number that a word cannot hold. -/
def Width.size : Width → Nat
  | .bits32 => 4_294_967_296
  | .bits64 => 18_446_744_073_709_551_616

variable {a b : Nat}

/-! ### Arithmetic -/

/-- The sum, if it fits the word. -/
def add (w : Width) (a b : Nat) : Except Trap Nat :=
  if a + b < w.size then .ok (a + b) else .error .overflow

/-- The product, if it fits the word. -/
def mul (w : Width) (a b : Nat) : Except Trap Nat :=
  if a * b < w.size then .ok (a * b) else .error .overflow

/-- The difference, if it is not below zero. -/
def sub (a b : Nat) : Except Trap Nat :=
  if b ≤ a then .ok (a - b) else .error .underflow

/-- The quotient, rounded down. -/
def quot (a b : Nat) : Except Trap Nat :=
  if b = 0 then .error .division else .ok (a / b)

/-- The quotient, rounded up. -/
def quotUp (a b : Nat) : Except Trap Nat :=
  if b = 0 then .error .division else .ok (if a % b = 0 then a / b else a / b + 1)

/-- The remainder. -/
def rem (a b : Nat) : Except Trap Nat :=
  if b = 0 then .error .division else .ok (a % b)

theorem add_bits32 (h : a + b < 4_294_967_296) : add .bits32 a b = .ok (a + b) := if_pos h

theorem add_bits64 (h : a + b < 18_446_744_073_709_551_616) : add .bits64 a b = .ok (a + b) :=
  if_pos h

theorem mul_bits32 (h : a * b < 4_294_967_296) : mul .bits32 a b = .ok (a * b) := if_pos h

theorem sub_eq_ok (h : b ≤ a) : sub a b = .ok (a - b) := if_pos h

theorem quot_eq_ok (h : b ≠ 0) : quot a b = .ok (a / b) := if_neg h

theorem quotUp_eq_ok (h : b ≠ 0) :
    quotUp a b = .ok (if a % b = 0 then a / b else a / b + 1) := if_neg h

theorem rem_eq_ok (h : b ≠ 0) : rem a b = .ok (a % b) := if_neg h

/-! ### Memory -/

variable {data source : List UInt8} {start stop i : Nat}

/-- The bytes from `start` up to but not including `stop`. -/
def slice (data : List UInt8) (start stop : Nat) : Except Trap (List UInt8) :=
  if start ≤ stop ∧ stop ≤ data.length then .ok ((data.drop start).take (stop - start))
  else .error .range

/-- Overwrites the bytes from `start` up to but not including `stop`. What is
    written has to be exactly as long. -/
def blit (data : List UInt8) (start stop : Nat) (source : List UInt8) :
    Except Trap (List UInt8) :=
  if start ≤ stop ∧ stop ≤ data.length ∧ source.length = stop - start then
    .ok (data.take start ++ source ++ data.drop stop)
  else .error .range

/-- The byte at an index. -/
def byteAt (data : List UInt8) (i : Nat) : Except Trap UInt8 :=
  match data[i]? with
  | some b => .ok b
  | none => .error .range

/-- Overwrites the byte at an index. -/
def store (data : List UInt8) (i : Nat) (b : UInt8) : Except Trap (List UInt8) :=
  if i < data.length then .ok (data.set i b) else .error .range

theorem slice_eq_ok (hstart : start ≤ stop) (hstop : stop ≤ data.length) :
    slice data start stop = .ok ((data.drop start).take (stop - start)) :=
  if_pos ⟨hstart, hstop⟩

theorem blit_eq_ok (hstop : stop ≤ data.length) (hsize : start + source.length = stop) :
    blit data start stop source = .ok (data.take start ++ source ++ data.drop stop) :=
  if_pos ⟨by omega, hstop, by omega⟩

/-! ### Computations that can fault -/

/-- A computation whose only traps are the faults of the clock. -/
def lift {α β : Type} (f : α → β) : Except Fault α → Except Trap β
  | .ok a => .ok (f a)
  | .error fault => .error (.clock fault)

@[simp] theorem ok_bind {ε α β : Type} (a : α) (f : α → Except ε β) :
    (Except.ok a >>= f) = f a := rfl

/-- A step that has a result goes on with it. -/
theorem bind_of_eq_ok {ε α β : Type} {x : Except ε α} {a : α} (h : x = .ok a)
    (f : α → Except ε β) : (x >>= f) = f a := by
  rw [h]
  rfl

@[simp] theorem pure_eq_ok {ε α : Type} (a : α) : (pure a : Except ε α) = .ok a := rfl

end ReliableStream.Checked
