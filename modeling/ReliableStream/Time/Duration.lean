import ReliableStream.Fault
/-! # Durations

    A duration is a whole number of nanoseconds up to a longest one. Points of
    virtual time are durations since the start of the clock. Arithmetic comes
    in two kinds: **checked** operations refuse a result beyond the longest
    duration with a fault, **saturating** ones stop at it. -/

namespace ReliableStream

/-- A number of nanoseconds below `2 ^ 64` seconds. -/
@[ext]
structure Duration where
  nanos : Nat
  nanos_lt : nanos < 18_446_744_073_709_551_616_000_000_000
  deriving DecidableEq, Repr

namespace Duration

/-- Nanoseconds in a second. -/
def nanosPerSecond : Nat := 1_000_000_000

/-- The longest duration, one nanosecond short of `2 ^ 64` seconds. -/
def longest : Duration := ⟨18_446_744_073_709_551_615_999_999_999, by decide⟩

/-- A duration of `n` nanoseconds, cut off at the longest one. -/
def ofNanos (n : Nat) : Duration :=
  ⟨min n longest.nanos, Nat.lt_of_le_of_lt (Nat.min_le_right ..) longest.nanos_lt⟩

/-- A duration of `n` milliseconds, cut off at the longest one. -/
def ofMillis (n : Nat) : Duration := ofNanos (n * 1_000_000)

/-- A duration of `n` seconds, cut off at the longest one. -/
def ofSeconds (n : Nat) : Duration := ofNanos (n * nanosPerSecond)

/-- The empty duration. -/
def zero : Duration := ⟨0, by decide⟩

instance : Inhabited Duration := ⟨zero⟩

instance : LE Duration := ⟨fun a b => a.nanos ≤ b.nanos⟩

instance : LT Duration := ⟨fun a b => a.nanos < b.nanos⟩

instance (a b : Duration) : Decidable (a ≤ b) := inferInstanceAs (Decidable (a.nanos ≤ b.nanos))

instance (a b : Duration) : Decidable (a < b) := inferInstanceAs (Decidable (a.nanos < b.nanos))

instance : Max Duration := ⟨fun a b => if a ≤ b then b else a⟩

theorem le_def {a b : Duration} : a ≤ b ↔ a.nanos ≤ b.nanos := Iff.rfl

theorem lt_def {a b : Duration} : a < b ↔ a.nanos < b.nanos := Iff.rfl

/-! ### Checked arithmetic -/

/-- A duration of exactly `n` nanoseconds, or the given fault. -/
def exactly (fault : Fault) (n : Nat) : Except Fault Duration :=
  if h : n < 18_446_744_073_709_551_616_000_000_000 then .ok ⟨n, h⟩ else .error fault

/-- The sum, or a fault beyond the longest duration. -/
def add (a b : Duration) : Except Fault Duration :=
  exactly .durationSum (a.nanos + b.nanos)

/-- A multiple, or a fault beyond the longest duration. -/
def times (a : Duration) (n : Nat) : Except Fault Duration :=
  exactly .durationMultiple (a.nanos * n)

/-! ### Saturating arithmetic -/

/-- The sum, at most the longest duration. -/
def addSat (a b : Duration) : Duration := ofNanos (a.nanos + b.nanos)

/-- A multiple, at most the longest duration. -/
def timesSat (a : Duration) (n : Nat) : Duration := ofNanos (a.nanos * n)

/-- The difference, zero if `b` is the longer one. -/
def subSat (a b : Duration) : Duration :=
  ⟨a.nanos - b.nanos, Nat.lt_of_le_of_lt (Nat.sub_le ..) a.nanos_lt⟩

/-- The distance between two durations. -/
def distance (a b : Duration) : Duration :=
  ⟨(a.nanos - b.nanos) + (b.nanos - a.nanos), by
    have := a.nanos_lt
    have := b.nanos_lt
    omega⟩

/-! ### What the operations do to the count of nanoseconds -/

@[simp] theorem nanos_ofNanos (n : Nat) : (ofNanos n).nanos = min n longest.nanos := rfl

@[simp] theorem nanos_zero : zero.nanos = 0 := rfl

@[simp] theorem nanos_addSat (a b : Duration) :
    (a.addSat b).nanos = min (a.nanos + b.nanos) longest.nanos := rfl

@[simp] theorem nanos_timesSat (a : Duration) (n : Nat) :
    (a.timesSat n).nanos = min (a.nanos * n) longest.nanos := rfl

@[simp] theorem nanos_subSat (a b : Duration) : (a.subSat b).nanos = a.nanos - b.nanos := rfl

/-- A checked sum that succeeds is the exact sum. -/
theorem nanos_of_add_eq_ok {a b c : Duration} (h : a.add b = .ok c) :
    c.nanos = a.nanos + b.nanos := by
  unfold add exactly at h
  split at h
  · cases h; rfl
  · cases h

/-- A checked sum is no shorter than what was added to. -/
theorem le_of_add_eq_ok {a b c : Duration} (h : a.add b = .ok c) : a ≤ c := by
  rw [le_def, nanos_of_add_eq_ok h]
  exact Nat.le_add_right ..

/-- Nor is a saturating one. -/
theorem le_addSat (a b : Duration) : a ≤ a.addSat b := by
  have := a.nanos_lt
  rw [le_def, nanos_addSat]
  simp only [longest]
  omega

/-- The longer of two durations counts the larger number of nanoseconds. -/
theorem nanos_max (a b : Duration) : (max a b).nanos = max a.nanos b.nanos := by
  change (if a ≤ b then b else a).nanos = _
  by_cases h : a ≤ b
  · rw [if_pos h]; exact (Nat.max_eq_right h).symm
  · rw [if_neg h]; exact (Nat.max_eq_left (Nat.le_of_not_le h)).symm

end Duration

end ReliableStream
