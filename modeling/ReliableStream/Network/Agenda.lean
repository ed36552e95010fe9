import ReliableStream.Connection.Effect
/-! # The agenda of pending events

    Everything that is still to happen stands on the **agenda**: packets on
    their way and timers that are armed. Events come up in the order of their
    due times, and events due at the same time in the order in which they were
    put on the agenda, which their serial numbers record.

    The agenda is a leftist heap. Its view is the list of its events in no
    particular order; the lemmas say that putting adds one event to it, and
    that taking removes one that precedes all others. -/

namespace ReliableStream

/-- What can happen. -/
inductive Event where
  /-- A packet reaches the node it is addressed to. -/
  | deliver (packet : Packet)
  /-- A timer comes back to the node that armed it. -/
  | timer (node : NodeAddr) (timer : Timer)
  deriving DecidableEq, Repr

/-- An event on the agenda. -/
structure Pending where
  due : Duration
  /-- Counts the events ever put on the agenda. -/
  serial : Nat
  event : Event
  deriving DecidableEq, Repr

/-- Whether an event comes up before another, or is it. -/
def Pending.Precedes (a b : Pending) : Prop :=
  a.due.nanos < b.due.nanos ∨ a.due.nanos = b.due.nanos ∧ a.serial ≤ b.serial

instance (a b : Pending) : Decidable (a.Precedes b) :=
  inferInstanceAs (Decidable (_ ∨ _ ∧ _))

theorem Pending.Precedes.trans {a b c : Pending} (h₁ : a.Precedes b) (h₂ : b.Precedes c) :
    a.Precedes c := by
  unfold Precedes at *
  omega

theorem Pending.Precedes.of_not {a b : Pending} (h : ¬ a.Precedes b) : b.Precedes a := by
  unfold Precedes at *
  omega

/-! ### Leftist heaps -/

/-- A heap; the rank of a node is the length of its right spine. -/
inductive EventHeap where
  | leaf
  | node (rank : Nat) (left : EventHeap) (root : Pending) (right : EventHeap)

namespace EventHeap

/-- The length of the right spine. -/
def rank : EventHeap → Nat
  | leaf => 0
  | node rank .. => rank

/-- The events of a heap, in no particular order. -/
def toList : EventHeap → List Pending
  | leaf => []
  | node _ left root right => root :: (left.toList ++ right.toList)

/-- How many events there are. -/
def size : EventHeap → Nat
  | leaf => 0
  | node _ left _ right => left.size + right.size + 1

/-- Every node precedes the nodes below it. -/
def Ordered : EventHeap → Prop
  | leaf => True
  | node _ left root right =>
    (∀ e ∈ left.toList, root.Precedes e) ∧ (∀ e ∈ right.toList, root.Precedes e) ∧
      left.Ordered ∧ right.Ordered

/-- A node over two heaps, the one of lower rank to the right. -/
def join (a : EventHeap) (root : Pending) (b : EventHeap) : EventHeap :=
  if b.rank ≤ a.rank then node (b.rank + 1) a root b else node (a.rank + 1) b root a

/-- Merges a heap into the node over `left`, `root` and a right heap, of which
    only the way to merge with it is given. -/
def mergeInto (left : EventHeap) (root : Pending) (mergeRight : EventHeap → EventHeap) :
    EventHeap → EventHeap
  | leaf => join left root (mergeRight leaf)
  | node rank left' root' right' =>
    if root.Precedes root' then join left root (mergeRight (node rank left' root' right'))
    else join left' root' (mergeInto left root mergeRight right')

/-- All events of two heaps in one. -/
def merge : EventHeap → EventHeap → EventHeap
  | leaf => fun h => h
  | node _ left root right => mergeInto left root (merge right)

theorem toList_join (a : EventHeap) (root : Pending) (b : EventHeap) :
    (join a root b).toList.Perm (root :: (a.toList ++ b.toList)) := by
  unfold join
  split
  · exact List.Perm.refl _
  · exact List.Perm.cons _ List.perm_append_comm

theorem toList_mergeInto {left : EventHeap} {root : Pending} {mergeRight : EventHeap → EventHeap}
    {right : List Pending} (hr : ∀ h, (mergeRight h).toList.Perm (right ++ h.toList))
    (h : EventHeap) :
    (mergeInto left root mergeRight h).toList.Perm
      (root :: (left.toList ++ right) ++ h.toList) := by
  induction h with
  | leaf =>
    refine (toList_join ..).trans ?_
    simpa [toList] using (hr leaf).append_left left.toList
  | node k left' root' right' _ ih =>
    unfold mergeInto
    split
    -- The root of the merged side comes up first; the rest goes to its right.
    · refine (toList_join ..).trans ?_
      simpa using (hr _).append_left left.toList
    -- The other root comes up first, and everything else goes below it.
    · refine (toList_join ..).trans ?_
      refine (List.Perm.cons _ (ih.append_left left'.toList)).trans ?_
      simp only [toList]
      refine List.Perm.trans ?_ List.perm_middle.symm
      refine List.Perm.cons _ ?_
      refine (List.perm_append_comm_assoc ..).trans ?_
      simp

theorem toList_merge (a b : EventHeap) : (merge a b).toList.Perm (a.toList ++ b.toList) := by
  induction a generalizing b with
  | leaf => exact List.Perm.refl _
  | node k left root right _ ih => exact toList_mergeInto ih b

theorem ordered_join {a b : EventHeap} {root : Pending} (ha : ∀ e ∈ a.toList, root.Precedes e)
    (hb : ∀ e ∈ b.toList, root.Precedes e) (oa : a.Ordered) (ob : b.Ordered) :
    (join a root b).Ordered := by
  unfold join
  split
  · exact ⟨ha, hb, oa, ob⟩
  · exact ⟨hb, ha, ob, oa⟩

theorem ordered_mergeInto {left : EventHeap} {root : Pending}
    {mergeRight : EventHeap → EventHeap} {right : List Pending}
    (hr : ∀ h, (mergeRight h).toList.Perm (right ++ h.toList))
    (ho : ∀ h, h.Ordered → (mergeRight h).Ordered)
    (hl : ∀ e ∈ left.toList, root.Precedes e) (hright : ∀ e ∈ right, root.Precedes e)
    (ol : left.Ordered) (h : EventHeap) (oh : h.Ordered) :
    (mergeInto left root mergeRight h).Ordered := by
  induction h with
  | leaf =>
    refine ordered_join hl ?_ ol (ho leaf trivial)
    intro e he
    exact hright e (by simpa [toList] using (hr leaf).mem_iff.mp he)
  | node k left' root' right' _ ih =>
    obtain ⟨hl', hr', ol', or'⟩ := oh
    unfold mergeInto
    split
    · next hp =>
      refine ordered_join hl ?_ ol (ho _ ⟨hl', hr', ol', or'⟩)
      -- What stands below the other root comes after it, and so after `root`.
      intro e he
      rcases List.mem_append.mp ((hr _).mem_iff.mp he) with h | h
      · exact hright e h
      · simp only [toList, List.mem_cons, List.mem_append] at h
        rcases h with rfl | h | h
        · exact hp
        · exact hp.trans (hl' e h)
        · exact hp.trans (hr' e h)
    · next hp =>
      have hp := Pending.Precedes.of_not hp
      -- Everything merged in comes after `root`, and so after the other root.
      refine ordered_join hl' ?_ ol' (ih or')
      intro e he
      have := (toList_mergeInto hr right').mem_iff.mp he
      simp only [List.cons_append, List.mem_cons, List.mem_append] at this
      rcases this with rfl | (h | h) | h
      · exact hp
      · exact hp.trans (hl e h)
      · exact hp.trans (hright e h)
      · exact hr' e h

theorem ordered_merge {a b : EventHeap} (oa : a.Ordered) (ob : b.Ordered) :
    (merge a b).Ordered := by
  induction a generalizing b with
  | leaf => exact ob
  | node k left root right _ ih =>
    obtain ⟨hl, hr, ol, or⟩ := oa
    exact ordered_mergeInto (toList_merge right) (fun _ h => ih or h) hl hr ol b ob

theorem size_eq_length (h : EventHeap) : h.size = h.toList.length := by
  induction h with
  | leaf => rfl
  | node _ left _ right ihl ihr => simp [size, toList, ihl, ihr]

end EventHeap

/-! ### The agenda -/

/-- The pending events. -/
structure Agenda where
  heap : EventHeap
  ordered : heap.Ordered

namespace Agenda

/-- Nothing is pending. -/
def empty : Agenda := ⟨.leaf, trivial⟩

/-- The pending events, in no particular order. -/
def toList (a : Agenda) : List Pending := a.heap.toList

/-- How many events are pending. -/
def size (a : Agenda) : Nat := a.heap.size

/-- Puts an event on the agenda. -/
def put (a : Agenda) (e : Pending) : Agenda :=
  ⟨a.heap.merge (.node 1 .leaf e .leaf),
    EventHeap.ordered_merge a.ordered ⟨nofun, nofun, trivial, trivial⟩⟩

/-- The event that comes up next. -/
def next? (a : Agenda) : Option Pending :=
  match a.heap with
  | .leaf => none
  | .node _ _ root _ => some root

/-- Takes the next event off the agenda. -/
def take? (a : Agenda) : Option (Pending × Agenda) :=
  match h : a.heap with
  | .leaf => none
  | .node _ left root right =>
    some (root, ⟨left.merge right, by
      have ordered := a.ordered
      rw [h] at ordered
      exact EventHeap.ordered_merge ordered.2.2.1 ordered.2.2.2⟩)

/-- Putting an event adds it. -/
theorem toList_put (a : Agenda) (e : Pending) : (a.put e).toList.Perm (e :: a.toList) :=
  (EventHeap.toList_merge ..).trans List.perm_append_comm

/-- Taking an event removes it. -/
theorem toList_of_take? {a a' : Agenda} {e : Pending} (h : a.take? = some (e, a')) :
    a.toList.Perm (e :: a'.toList) := by
  unfold take? at h
  split at h
  · cases h
  · next heap =>
    cases h
    have events : a.toList = _ := congrArg EventHeap.toList heap
    rw [events]
    exact List.Perm.cons _ (EventHeap.toList_merge ..).symm

/-- The event taken precedes all others. -/
theorem precedes_of_take? {a a' : Agenda} {e : Pending} (h : a.take? = some (e, a')) :
    ∀ e' ∈ a'.toList, e.Precedes e' := by
  unfold take? at h
  split at h
  · cases h
  · next heap =>
    cases h
    have ordered := a.ordered
    rw [heap] at ordered
    intro e' he'
    rcases List.mem_append.mp ((EventHeap.toList_merge ..).mem_iff.mp he') with h | h
    · exact ordered.1 e' h
    · exact ordered.2.1 e' h

/-- The next event is the one that would be taken. -/
theorem next?_eq (a : Agenda) : a.next? = a.take?.map Prod.fst := by
  unfold next? take?
  split <;> split <;> simp_all

/-- Only an empty agenda has no next event. -/
theorem take?_eq_none_iff (a : Agenda) : a.take? = none ↔ a.toList = [] := by
  unfold take? toList
  split
  · next h => simp [h, EventHeap.toList]
  · next h => simp [h, EventHeap.toList]

/-- The size counts the pending events. -/
theorem size_eq_length (a : Agenda) : a.size = a.toList.length :=
  a.heap.size_eq_length

end Agenda

end ReliableStream
