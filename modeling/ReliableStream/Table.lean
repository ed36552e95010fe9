/-! # Finite tables

    A table maps finitely many keys to values. Its entries stand in the order
    in which their keys were **first put**; putting a key again keeps its
    place. The view of a table is `get?`, and one lemma for each operation says
    what it does to that view. -/

namespace ReliableStream

universe u v

/-- Entries with pairwise different keys. -/
@[ext]
structure Table (κ : Type u) (α : Type v) where
  entries : List (κ × α)
  keys_nodup : (entries.map Prod.fst).Nodup

namespace Table

variable {κ : Type u} {α : Type v}

/-- The table without entries. -/
def empty : Table κ α := ⟨[], List.nodup_nil⟩

instance : Inhabited (Table κ α) := ⟨empty⟩

/-- The keys, oldest first. -/
def keys (t : Table κ α) : List κ := t.entries.map Prod.fst

/-- The values, in the order of their keys. -/
def values (t : Table κ α) : List α := t.entries.map Prod.snd

/-- How many entries there are. -/
def size (t : Table κ α) : Nat := t.entries.length

variable [DecidableEq κ]

/-- The value that a list of entries holds for a key. -/
def lookup (k : κ) : List (κ × α) → Option α
  | [] => none
  | (k', a) :: rest => if k' = k then some a else lookup k rest

/-- The value of a key, if it has one. -/
def get? (t : Table κ α) (k : κ) : Option α := lookup k t.entries

/-- Whether a key has a value. -/
def contains (t : Table κ α) (k : κ) : Bool := (t.get? k).isSome

/-- Replaces the value of a key in its place, or adds it at the end. -/
def putEntry (k : κ) (a : α) : List (κ × α) → List (κ × α)
  | [] => [(k, a)]
  | (k', b) :: rest => if k' = k then (k, a) :: rest else (k', b) :: putEntry k a rest

theorem map_fst_putEntry (k : κ) (a : α) (es : List (κ × α)) :
    (putEntry k a es).map Prod.fst =
      if k ∈ es.map Prod.fst then es.map Prod.fst else es.map Prod.fst ++ [k] := by
  induction es with
  | nil => simp [putEntry]
  | cons e rest ih =>
    obtain ⟨k', b⟩ := e
    by_cases h : k' = k
    · subst h; simp [putEntry]
    · simp only [putEntry, if_neg h, List.map_cons, ih, List.mem_cons, Ne.symm h, false_or]
      split <;> simp

/-- Gives a key a value. -/
def put (t : Table κ α) (k : κ) (a : α) : Table κ α where
  entries := putEntry k a t.entries
  keys_nodup := by
    rw [map_fst_putEntry]
    split
    -- The key has a place already: the keys are the same.
    · exact t.keys_nodup
    -- The key is new: it is none of those before it.
    · next h =>
      exact List.nodup_append.mpr ⟨t.keys_nodup, by simp, by
        intro x hx y hy
        simp only [List.mem_singleton] at hy
        subst hy
        exact fun e => h (e ▸ hx)⟩

/-- Removes a key and its value. -/
def erase (t : Table κ α) (k : κ) : Table κ α where
  entries := t.entries.filter (fun e => e.1 ≠ k)
  keys_nodup := (List.Sublist.map Prod.fst List.filter_sublist).nodup t.keys_nodup

/-! ### The operations through the view -/

@[simp, grind =] theorem get?_empty (k : κ) : (empty : Table κ α).get? k = none := rfl

@[grind =] theorem get?_put (t : Table κ α) (k k' : κ) (a : α) :
    (t.put k a).get? k' = if k = k' then some a else t.get? k' := by
  unfold get? put
  dsimp only
  induction t.entries with
  | nil => simp [putEntry, lookup]
  | cons e rest ih =>
    obtain ⟨j, b⟩ := e
    by_cases h : j = k
    -- The entry is replaced here.
    · subst h
      by_cases hk : j = k' <;> simp [putEntry, lookup, hk]
    -- The entry stays, and the key is put further down.
    · by_cases hj : j = k'
      · have hk : ¬ k = k' := fun e => h (hj.trans e.symm)
        simp [putEntry, lookup, hj, hk, Ne.symm hk]
      · simp [putEntry, lookup, h, hj, ih]

@[simp] theorem get?_put_self (t : Table κ α) (k : κ) (a : α) : (t.put k a).get? k = some a := by
  simp [get?_put]

@[grind =] theorem get?_erase (t : Table κ α) (k k' : κ) :
    (t.erase k).get? k' = if k = k' then none else t.get? k' := by
  unfold get? erase
  dsimp only
  induction t.entries with
  | nil => simp [lookup]
  | cons e rest ih =>
    obtain ⟨j, b⟩ := e
    by_cases h : j = k
    -- The entry is dropped.
    · subst h
      by_cases hk : j = k'
      · subst hk; simpa [lookup] using ih
      · simpa [lookup, hk] using ih
    · by_cases hj : j = k'
      · have hk : ¬ k = k' := fun e => h (hj.trans e.symm)
        simp [lookup, hj, hk, Ne.symm hk]
      · simpa [lookup, h, hj] using ih

@[simp] theorem get?_erase_self (t : Table κ α) (k : κ) : (t.erase k).get? k = none := by
  simp [get?_erase]

theorem mem_keys_iff (t : Table κ α) (k : κ) : k ∈ t.keys ↔ (t.get? k).isSome := by
  unfold keys get?
  induction t.entries with
  | nil => simp [lookup]
  | cons e rest ih =>
    obtain ⟨j, b⟩ := e
    by_cases h : j = k
    · simp [lookup, h]
    · simp [lookup, h, Ne.symm h, ← ih]

end Table

end ReliableStream
