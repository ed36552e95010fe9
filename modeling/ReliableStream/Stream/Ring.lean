/-! # Byte rings

    A **ring** is a first in, first out queue of bytes in a circular array of
    slots. The bytes stand in the slots from `front` up to but not including
    `back`, and the slot after the last one is the first one again. One slot
    always stays free, so that `front = back` means empty and a ring of
    `capacity` slots holds at most `capacity - 1` bytes.

    The view of a ring is the list of its bytes, `contents`; the lemmas at the
    end say what each operation does to it. Slots are allocated when they are
    first reached, so a large ring costs only what was put into it. -/

namespace ReliableStream

/-! ### Slots -/

namespace Slots

theorem size_set (s : ByteArray) (i : Nat) (b : UInt8) (h : i < s.size) :
    (s.set i b h).size = s.size := by
  cases s
  exact Array.size_set ..

theorem size_push (s : ByteArray) (b : UInt8) : (s.push b).size = s.size + 1 := by
  cases s
  exact Array.size_push ..

theorem getElem_set (s : ByteArray) (i : Nat) (b : UInt8) (h : i < s.size) (j : Nat)
    (hj : j < (s.set i b h).size) (hs : j < s.size) :
    (s.set i b h)[j] = if i = j then b else s[j] := by
  cases s
  exact Array.getElem_set ..

theorem getElem_push (s : ByteArray) (b : UInt8) (j : Nat) (hj : j < (s.push b).size) :
    (s.push b)[j] = if h : j < s.size then s[j] else b := by
  cases s
  exact Array.getElem_push ..

end Slots

/-- A circular array of bytes. -/
structure Ring where
  capacity : Nat
  /-- The slots reached so far. -/
  slots : ByteArray
  /-- The slot of the oldest byte. -/
  front : Nat
  /-- The slot after that of the newest byte. -/
  back : Nat
  two_le : 2 ≤ capacity
  front_lt : front < capacity
  back_lt : back < capacity
  back_le : back ≤ slots.size

namespace Ring

/-- The empty ring of `capacity` slots. -/
def empty (capacity : Nat) (h : 2 ≤ capacity) : Ring where
  capacity := capacity
  slots := ByteArray.empty
  front := 0
  back := 0
  two_le := h
  front_lt := by omega
  back_lt := by omega
  back_le := Nat.zero_le _

/-- How many bytes the ring holds. -/
def used (r : Ring) : Nat :=
  if r.front ≤ r.back then r.back - r.front else r.back + r.capacity - r.front

/-- How many bytes still fit. -/
def available (r : Ring) : Nat := r.capacity - 1 - r.used

/-- The slot `offset` places after the front, for offsets within one turn. -/
def index (r : Ring) (offset : Nat) : Nat :=
  if r.front + offset < r.capacity then r.front + offset else r.front + offset - r.capacity

/-- The byte in a slot; slots never reached hold zero. -/
def slot (r : Ring) (i : Nat) : UInt8 :=
  if h : i < r.slots.size then r.slots[i] else 0

/-- The `count` bytes that start `offset` places after the front. -/
def slice (r : Ring) (offset count : Nat) : List UInt8 :=
  (List.range count).map fun i => r.slot (r.index (offset + i))

/-- The bytes in the ring, the oldest first. -/
def contents (r : Ring) : List UInt8 := r.slice 0 r.used

/-- Writes a byte behind the newest one. The ring must not be full. -/
def push (r : Ring) (b : UInt8) : Ring where
  capacity := r.capacity
  slots := if h : r.back < r.slots.size then r.slots.set r.back b h else r.slots.push b
  front := r.front
  back := if r.back + 1 < r.capacity then r.back + 1 else 0
  two_le := r.two_le
  front_lt := r.front_lt
  back_lt := by
    have := r.two_le
    split <;> omega
  back_le := by
    have := r.back_le
    split
    -- The back moves on by one: either its slot existed, or it was just added.
    · split
      · simp only [Slots.size_set]; omega
      · simp only [Slots.size_push]; omega
    -- The back returns to the first slot.
    · exact Nat.zero_le _

/-- Gives up the `n` oldest bytes, or all if there are fewer. -/
def drop (r : Ring) (n : Nat) : Ring :=
  { r with
    front := r.index (min n r.used)
    front_lt := by
      have := r.front_lt
      have := r.back_lt
      unfold index used
      (repeat' split) <;> omega }

/-- Gives up all bytes. -/
def clear (r : Ring) : Ring := { r with front := r.back, front_lt := r.back_lt }

/-- Writes as many of the bytes as fit, and says how many those are. -/
def write (r : Ring) (bytes : List UInt8) : Nat × Ring :=
  let fitting := bytes.take r.available
  (fitting.length, fitting.foldl push r)

/-- Takes out the `n` oldest bytes, or all if there are fewer. -/
def read (r : Ring) (n : Nat) : List UInt8 × Ring :=
  (r.slice 0 (min n r.used), r.drop n)

/-! ### The operations through the view -/

theorem used_lt (r : Ring) : r.used < r.capacity := by
  have := r.front_lt
  have := r.back_lt
  unfold used
  split <;> omega

theorem used_add_available (r : Ring) : r.used + r.available = r.capacity - 1 := by
  have := r.used_lt
  unfold available
  omega

@[simp] theorem length_slice (r : Ring) (offset count : Nat) :
    (r.slice offset count).length = count := by simp [slice]

@[simp] theorem length_contents (r : Ring) : r.contents.length = r.used := by simp [contents]

@[simp] theorem contents_empty (capacity : Nat) (h : 2 ≤ capacity) :
    (empty capacity h).contents = [] := rfl

@[simp] theorem capacity_push (r : Ring) (b : UInt8) : (r.push b).capacity = r.capacity := rfl

theorem slot_push (r : Ring) (b : UInt8) (i : Nat) :
    (r.push b).slot i = if i = r.back then b else r.slot i := by
  have hle := r.back_le
  simp only [slot, push]
  by_cases h : r.back < r.slots.size
  -- The slot was reached before: it is overwritten in place.
  · simp only [h, dif_pos, Slots.size_set]
    by_cases hi : i < r.slots.size
    · simp only [hi, dif_pos, Slots.getElem_set _ _ _ _ _ _ hi]
      by_cases e : r.back = i
      · simp [e]
      · simp [e, Ne.symm e]
    · have : i ≠ r.back := by omega
      simp [hi, this]
  -- The slot is new: it is added behind the others.
  · have hb : r.back = r.slots.size := by omega
    simp only [h, dif_neg, not_false_eq_true, Slots.size_push]
    by_cases hi : i < r.slots.size
    · have : i ≠ r.back := by omega
      simp [hi, this, Slots.getElem_push, Nat.lt_succ_of_lt hi]
    · by_cases e : i = r.slots.size
      · simp [e, hb, Slots.getElem_push]
      · have h1 : ¬ i < r.slots.size + 1 := by omega
        have h2 : i ≠ r.back := by omega
        simp [h1, h2, hi]

theorem used_push (r : Ring) (b : UInt8) (h : r.used + 1 < r.capacity) :
    (r.push b).used = r.used + 1 := by
  have := r.front_lt
  have := r.back_lt
  simp only [used, push] at h ⊢
  (repeat' split) <;> (repeat' split at h) <;> omega

theorem index_used (r : Ring) : r.index r.used = r.back := by
  have := r.front_lt
  have := r.back_lt
  unfold index used
  (repeat' split) <;> omega

theorem index_ne_back (r : Ring) {i : Nat} (h : i < r.used) : r.index i ≠ r.back := by
  have := r.front_lt
  have := r.back_lt
  unfold used at h
  unfold index
  (repeat' split) <;> (repeat' split at h) <;> omega

/-- Writing a byte appends it. -/
theorem contents_push (r : Ring) (b : UInt8) (h : r.used + 1 < r.capacity) :
    (r.push b).contents = r.contents ++ [b] := by
  have hi (i : Nat) : (r.push b).index i = r.index i := rfl
  simp only [contents, slice, used_push r b h, List.range_succ, List.map_append, List.map_cons,
    List.map_nil, Nat.zero_add, hi, slot_push, index_used, if_true]
  congr 1
  -- The other bytes stand in other slots than the one just written.
  apply List.map_congr_left
  intro i hmem
  rw [if_neg (r.index_ne_back (List.mem_range.mp hmem))]

theorem capacity_foldl_push (bytes : List UInt8) (r : Ring) :
    (bytes.foldl push r).capacity = r.capacity := by
  induction bytes generalizing r with
  | nil => rfl
  | cons b rest ih => rw [List.foldl_cons, ih, capacity_push]

theorem contents_foldl_push (bytes : List UInt8) (r : Ring)
    (h : r.used + bytes.length < r.capacity) :
    (bytes.foldl push r).contents = r.contents ++ bytes := by
  induction bytes generalizing r with
  | nil => simp
  | cons b rest ih =>
    simp only [List.length_cons] at h
    have hb : r.used + 1 < r.capacity := by omega
    rw [List.foldl_cons, ih (r.push b) (by rw [used_push r b hb, capacity_push]; omega),
      contents_push r b hb, List.append_assoc]
    rfl

/-- Writing appends the longest beginning that fits. -/
theorem contents_write (r : Ring) (bytes : List UInt8) :
    (r.write bytes).2.contents = r.contents ++ bytes.take r.available := by
  apply contents_foldl_push
  have := r.used_lt
  have := r.used_add_available
  have := List.length_take_le r.available bytes
  omega

@[simp] theorem capacity_write (r : Ring) (bytes : List UInt8) :
    (r.write bytes).2.capacity = r.capacity := capacity_foldl_push ..

@[simp] theorem fst_write (r : Ring) (bytes : List UInt8) :
    (r.write bytes).1 = min r.available bytes.length := by simp [write]

theorem used_drop (r : Ring) (n : Nat) : (r.drop n).used = r.used - n := by
  have := r.front_lt
  have := r.back_lt
  simp only [drop, index, used]
  (repeat' split) <;> omega

/-- Dropping moves the front, so places shift by as many. -/
theorem index_drop (r : Ring) {n i : Nat} (h : i < r.used - n) :
    (r.drop n).index i = r.index (n + i) := by
  have := r.front_lt
  have := r.back_lt
  have hmin : min n r.used = n := by omega
  simp only [drop, hmin]
  unfold used at h
  unfold index
  dsimp only
  (repeat' split) <;> (repeat' split at h) <;> omega

/-- Giving up bytes drops them from the front of the contents. -/
theorem contents_drop (r : Ring) (n : Nat) : (r.drop n).contents = r.contents.drop n := by
  apply List.ext_getElem
  · simp [used_drop]
  · intro i h1 h2
    simp only [length_contents, used_drop] at h1
    simp only [contents, slice, List.getElem_map, List.getElem_range, List.getElem_drop, Nat.zero_add]
    rw [r.index_drop h1]
    rfl

@[simp] theorem capacity_drop (r : Ring) (n : Nat) : (r.drop n).capacity = r.capacity := rfl

@[simp] theorem contents_clear (r : Ring) : r.clear.contents = [] := by
  simp [contents, slice, used, clear]

/-- A slice of the ring is a slice of its contents. -/
theorem slice_eq (r : Ring) (offset count : Nat) (h : offset + count ≤ r.used) :
    r.slice offset count = (r.contents.drop offset).take count := by
  apply List.ext_getElem
  · simp; omega
  · intro i h1 h2
    simp [contents, slice]

/-- Reading gives the oldest bytes. -/
theorem fst_read (r : Ring) (n : Nat) : (r.read n).1 = r.contents.take n := by
  have h : min n r.used ≤ r.used := Nat.min_le_right ..
  rw [read, slice_eq r 0 _ (by omega), List.drop_zero]
  -- Asking for more bytes than there are gives all of them.
  rcases Nat.le_total n r.used with hn | hn
  · rw [Nat.min_eq_left hn]
  · rw [Nat.min_eq_right hn, List.take_of_length_le (by simp),
      List.take_of_length_le (by simpa using hn)]

end Ring

end ReliableStream
