import ReliableStream.Proofs.Changes
/-! # No wake-up is lost

    A **machine** is a node together with the timers that it armed and that
    have not come back. They may come back at any time and in any order, each
    of them once; calls and packets come in between. Whatever a connection
    needs to go on, its timer is always pending, and no timer of a connection
    is ever doubled: in every state each unanswered request, each unconfirmed
    answer and each unfinished window has exactly one, and each announced end
    has one at least. -/

namespace ReliableStream

/-- A node and its pending timers. -/
structure Machine where
  node : Node
  pending : List Timer

namespace Machine

/-- Only a pending timer can come back. -/
def Ready (m : Machine) : Input → Prop
  | .timer timer => timer ∈ m.pending
  | _ => True

/-- The timers that are still pending after an input. -/
def rest (m : Machine) : Input → List Timer
  | .timer timer => m.pending.erase timer
  | _ => m.pending

/-- The states a machine can be in, if no acknowledgment comes from exactly the
    opposite side of the turn. -/
inductive Reachable (addr : NodeAddr) (settings : Settings) : Machine → Prop where
  | start {n : Node} (hcreate : Node.create addr settings = .ok n) : Reachable addr settings ⟨n, []⟩
  | step {m : Machine} {answer : Node × List Effect} (h : Reachable addr settings m)
      (now : Duration) (input : Input) (hready : m.Ready input) (hfacing : ¬ m.node.Opposite input)
      (hreact : m.node.react now input = .ok answer) :
      Reachable addr settings ⟨answer.1, m.rest input ++ timersOf answer.2⟩

/-- Every connection has the timers that it needs to go on. -/
structure Wakeful (m : Machine) : Prop where
  request : ∀ id c, m.node.socket? id = some (.connection c) → c.phase = .synSent →
    m.pending.count ⟨id, .retransmitSyn c.sender.isn⟩ = 1
  answer : ∀ id c r, m.node.socket? id = some (.connection c) → c.phase.openReceiver? = some r →
    c.confirmed = false → m.pending.count ⟨id, .retransmitSynAck r.rcvNxt⟩ = 1
  shutdown : ∀ id c r finSeq, m.node.socket? id = some (.connection c) →
    c.phase = .shutdown r finSeq → 1 ≤ m.pending.count ⟨id, .shutdownCheck finSeq⟩
  window : ∀ id c, m.node.socket? id = some (.connection c) →
    c.phase.state = .established ∨ c.phase.state = .shutdown → c.sender.isDrained = false →
    m.pending.count ⟨id, .windowTimeout c.sender.generation⟩ = 1

/-! ### The invariant -/

/-- What is awaited is pending, and nothing but a check for the end is pending
    twice. -/
structure Watchful (m : Machine) : Prop where
  capacity_le : m.node.profile.shape.capacity ≤ 2_147_483_648
  numbered : m.node.Numbered
  steady : ∀ id c, m.node.socket? id = some (.connection c) → c.Steady
  awaited : ∀ id c event, m.node.socket? id = some (.connection c) → c.Awaits event →
    ⟨id, event⟩ ∈ m.pending
  single : ∀ id event, (∀ finSeq, event ≠ .shutdownCheck finSeq) → m.pending.count ⟨id, event⟩ ≤ 1
  /-- No window timer is of a generation that is still to come. -/
  past : ∀ id c generation, m.node.socket? id = some (.connection c) →
    ⟨id, .windowTimeout generation⟩ ∈ m.pending → generation ≤ c.sender.generation
  /-- Who never had a connection has no timer. -/
  fresh : ∀ id port event, m.node.socket? id = some (.fresh port) → ⟨id, event⟩ ∉ m.pending
  known : ∀ t ∈ m.pending, t.socket < m.node.nextId

variable {m : Machine} {now : Duration} {input : Input} {n : Node} {effects : List Effect}

theorem mem_rest {t : Timer} (h : t ∈ m.pending) (hother : input ≠ .timer t) :
    t ∈ m.rest input := by
  cases input with
  | timer timer =>
    refine (List.mem_erase_of_ne ?_).mpr h
    rintro rfl
    exact hother rfl
  | _ => exact h

theorem mem_of_mem_rest {t : Timer} (h : t ∈ m.rest input) : t ∈ m.pending := by
  cases input with
  | timer timer => exact List.mem_of_mem_erase h
  | _ => exact h

theorem count_rest_le (t : Timer) : (m.rest input).count t ≤ m.pending.count t := by
  cases input with
  | timer timer => exact List.Sublist.count_le t List.erase_sublist
  | _ => exact Nat.le_refl _

/-! ### One step

    Each clause of the invariant is preserved for a reason of its own. What a
    socket was before the step decides the clauses about sockets; what timers
    the step arms decides the clauses about timers. -/

/-- A timer that stays pending was pending already, or it is new. -/
theorem mem_after {t : Timer} (h : t ∈ m.rest input ++ timersOf effects) :
    t ∈ m.pending ∨ t ∈ timersOf effects := by
  rcases List.mem_append.mp h with hold | hnew
  · exact Or.inl (mem_of_mem_rest hold)
  · exact Or.inr hnew

namespace Watchful

theorem sound (h : m.Watchful) :
    ∀ id c, m.node.socket? id = some (.connection c) → c.sender.Sound :=
  fun id c hsocket => (h.steady id c hsocket).sound

theorem moved_of_respond (h : m.Watchful) (hfacing : ¬ m.node.Opposite input) {id : SocketId}
    {stimulus : Stimulus} {c c' : Connection} (hreaches : m.node.Reaches input id stimulus)
    (hsocket : m.node.socket? id = some (.connection c))
    (hrespond : c.respond (m.node.context id now) stimulus = .ok (c', effects)) :
    c.Moved (m.node.context id now) stimulus c' effects :=
  Connection.moved_of_respond (h.sound id c hsocket)
    (fun hopposite => hfacing ⟨id, stimulus, c, hreaches, hsocket, hopposite⟩) hrespond

theorem steady_step (h : m.Watchful) (hfacing : ¬ m.node.Opposite input) {id : SocketId}
    {c : Connection} (hbecame : m.node.Became now input n effects id (.connection c)) :
    c.Steady := by
  cases hbecame with
  | kept hsocket => exact h.steady id c hsocket
  | opened _ hopened => exact Connection.steady_of_request h.capacity_le hopened
  | spawned _ _ hopened => exact Connection.steady_of_answer h.capacity_le hopened
  | moved hreaches hsocket hrespond =>
    exact (h.moved_of_respond hfacing hreaches hsocket hrespond).steady (h.steady id _ hsocket)

theorem awaited_step (h : m.Watchful) (hfacing : ¬ m.node.Opposite input) {id : SocketId}
    {c : Connection} {event : TimerEvent}
    (hbecame : m.node.Became now input n effects id (.connection c)) (hawaits : c.Awaits event) :
    ⟨id, event⟩ ∈ m.rest input ++ timersOf effects := by
  cases hbecame with
  | kept hsocket _ hasleep =>
    refine List.mem_append_left _ (mem_rest (h.awaited id c event hsocket hawaits) ?_)
    exact fun hinput => hasleep c _ rfl hinput rfl
  | opened _ hopened =>
    rw [Connection.timersOf_request hopened hawaits]
    exact List.mem_append_right _ (List.mem_singleton_self _)
  | spawned _ _ hopened =>
    rw [Connection.timersOf_answer hopened hawaits]
    exact List.mem_append_right _ (List.mem_singleton_self _)
  | @moved stimulus before _ hreaches hsocket hrespond =>
    have hmoved := h.moved_of_respond hfacing hreaches hsocket hrespond
    rcases hmoved.awaits (h.steady id before hsocket) hawaits with ⟨hbefore, hother⟩ | harmed
    · refine List.mem_append_left _ (mem_rest (h.awaited id before event hsocket hbefore) ?_)
      rintro rfl
      cases hreaches
      exact hother rfl
    · exact List.mem_append_right _ harmed

/-- A timer that is new to the pending ones is pending once. -/
theorem count_append_singleton_le {t t' : Timer} (hle : m.pending.count t ≤ 1)
    (hnew : t' ∉ m.rest input) : (m.rest input ++ [t']).count t ≤ 1 := by
  rw [List.count_append]
  by_cases heq : t' = t
  · subst heq
    have hnone : (m.rest input).count t' = 0 := List.count_eq_zero.mpr hnew
    have hone : [t'].count t' = 1 := List.count_singleton_self
    omega
  · rw [List.count_singleton, if_neg (by simpa using heq), Nat.add_zero]
    exact Nat.le_trans (count_rest_le t) hle

theorem single_step (h : m.Watchful) (hready : m.Ready input)
    (harmed : m.node.Armed now input n (timersOf effects)) {id : SocketId} {event : TimerEvent}
    (hother : ∀ finSeq, event ≠ .shutdownCheck finSeq) :
    (m.rest input ++ timersOf effects).count ⟨id, event⟩ ≤ 1 := by
  have hsingle := h.single id event hother
  generalize timersOf effects = timers at harmed ⊢
  cases harmed with
  | none =>
    rw [List.append_nil]
    exact Nat.le_trans (count_rest_le _) hsingle
  | opened hsocket =>
    exact count_append_singleton_le hsingle fun hmem => h.fresh _ _ _ hsocket (mem_of_mem_rest hmem)
  | spawned =>
    refine count_append_singleton_le hsingle fun hmem => ?_
    exact Nat.lt_irrefl _ (h.known _ (mem_of_mem_rest hmem))
  | @moved acting stimulus c c' _ hreaches hsocket harms =>
    cases harms with
    | none =>
      rw [List.append_nil]
      exact Nat.le_trans (count_rest_le _) hsingle
    | @again back _ hgeneration =>
      -- The timer that came back was pending, and takes its own place.
      cases hreaches with
      | @timer timer =>
        have hmem : timer ∈ m.pending := hready
        show (m.pending.erase timer ++ [timer]).count _ ≤ 1
        rw [List.count_append, List.count_erase, List.count_singleton]
        have hpos := List.count_pos_iff.mpr hmem
        split
        · next heq =>
          rw [beq_iff_eq.mp heq] at hpos
          omega
        · omega
    | shutdown finSeq =>
      rw [List.count_append, List.count_singleton, if_neg, Nat.add_zero]
      · exact Nat.le_trans (count_rest_le _) hsingle
      · intro heq
        cases beq_iff_eq.mp heq
        exact hother finSeq rfl
    | window hgeneration =>
      refine count_append_singleton_le hsingle fun hmem => ?_
      have hpast := h.past acting c _ hsocket (mem_of_mem_rest hmem)
      omega

theorem past_step (h : m.Watchful) (hready : m.Ready input) (hfacing : ¬ m.node.Opposite input)
    {id : SocketId} {c : Connection} {generation : Nat}
    (hbecame : m.node.Became now input n effects id (.connection c))
    (hmem : ⟨id, .windowTimeout generation⟩ ∈ m.rest input ++ timersOf effects) :
    generation ≤ c.sender.generation := by
  cases hbecame with
  | kept hsocket hsilent =>
    rcases mem_after hmem with hold | hnew
    · exact h.past id c generation hsocket hold
    · exact absurd rfl (hsilent _ hnew)
  | opened hsocket hopened =>
    rcases mem_after hmem with hold | hnew
    · exact absurd hold (h.fresh id _ _ hsocket)
    · rw [(Connection.eq_of_request hopened).2.1] at hnew
      cases List.mem_singleton.mp hnew
  | spawned hid _ hopened =>
    rcases mem_after hmem with hold | hnew
    · exact absurd (h.known _ hold) (Nat.not_lt.mpr (Nat.le_of_eq hid.symm))
    · rw [(Connection.eq_of_answer hopened).2.1] at hnew
      cases List.mem_singleton.mp hnew
  | @moved stimulus before _ hreaches hsocket hrespond =>
    have harms := (h.moved_of_respond hfacing hreaches hsocket hrespond).arms
    have hbefore := h.past id before generation hsocket
    have hcases := mem_after hmem
    generalize timersOf effects = timers at harms hcases
    cases harms with
    | none hgeneration =>
      rw [hgeneration]
      exact hbefore (hcases.resolve_right List.not_mem_nil)
    | again hgeneration =>
      rw [hgeneration]
      rcases hcases with hold | hnew
      · exact hbefore hold
      · -- The timer that came back was pending.
        cases hreaches with
        | @timer timer =>
          have htimer : ⟨timer.socket, .windowTimeout generation⟩ = timer :=
            List.mem_singleton.mp hnew
          have hpending : timer ∈ m.pending := hready
          rw [← htimer] at hpending
          exact hbefore hpending
    | shutdown finSeq hgeneration =>
      rw [hgeneration]
      rcases hcases with hold | hnew
      · exact hbefore hold
      · cases List.mem_singleton.mp hnew
    | window hgeneration =>
      rcases hcases with hold | hnew
      · have := hbefore hold
        omega
      · cases List.mem_singleton.mp hnew
        exact Nat.le_refl _

theorem fresh_step (h : m.Watchful) {id : SocketId} {port : Option UInt16} {event : TimerEvent}
    (hbecame : m.node.Became now input n effects id (.fresh port)) :
    ⟨id, event⟩ ∉ m.rest input ++ timersOf effects := by
  intro hmem
  cases hbecame with
  | kept hsocket hsilent =>
    rcases mem_after hmem with hold | hnew
    · exact h.fresh id port event hsocket hold
    · exact hsilent _ hnew rfl
  | created hid _ hquiet =>
    subst hquiet
    have hlt : id < m.node.nextId := h.known _ ((mem_after hmem).resolve_right List.not_mem_nil)
    exact absurd hlt (Nat.not_lt.mpr (Nat.le_of_eq hid.symm))
  | bound hsocket hquiet =>
    subst hquiet
    exact h.fresh id _ event hsocket ((mem_after hmem).resolve_right List.not_mem_nil)

theorem known_step (h : m.Watchful) (hnext : m.node.nextId ≤ n.nextId)
    (harmed : m.node.Armed now input n (timersOf effects)) :
    ∀ t ∈ m.rest input ++ timersOf effects, t.socket < n.nextId := by
  intro t ht
  rcases mem_after ht with hold | hnew
  · exact Nat.lt_of_lt_of_le (h.known t hold) hnext
  · generalize timersOf effects = timers at harmed hnew
    cases harmed with
    | none => cases hnew
    | opened hsocket =>
      rw [List.mem_singleton.mp hnew]
      exact Nat.lt_of_lt_of_le (h.numbered _ _ hsocket) hnext
    | spawned hlt =>
      rw [List.mem_singleton.mp hnew]
      exact hlt
    | moved _ hsocket harms =>
      rw [harms.socket t hnew]
      exact Nat.lt_of_lt_of_le (h.numbered _ _ hsocket) hnext

theorem step (h : m.Watchful) (hready : m.Ready input) (hfacing : ¬ m.node.Opposite input)
    (hreact : m.node.react now input = .ok (n, effects)) :
    Watchful ⟨n, m.rest input ++ timersOf effects⟩ := by
  have hchange := Node.change_of_react hreact
  have hbecame : ∀ id s, n.socket? id = some s → m.node.Became now input n effects id s :=
    fun id s hs => hchange.became hs
  have harmed := hchange.armed hfacing h.sound
  exact
    { capacity_le := by
        show n.profile.shape.capacity ≤ _
        rw [hchange.profile]
        exact h.capacity_le
      numbered := fun id s hs => (hbecame id s hs).lt_nextId h.numbered hchange.nextId_le
      steady := fun id c hc => h.steady_step hfacing (hbecame id _ hc)
      awaited := fun id c event hc hawaits => h.awaited_step hfacing (hbecame id _ hc) hawaits
      single := fun id event hother => h.single_step hready harmed hother
      past := fun id c generation hc hmem => h.past_step hready hfacing (hbecame id _ hc) hmem
      fresh := fun id port event hs => h.fresh_step (hbecame id _ hs)
      known := h.known_step hchange.nextId_le harmed }

/-- What is awaited and not a check for the end is pending exactly once. -/
theorem count_eq_one (h : m.Watchful) {id : SocketId} {c : Connection} {event : TimerEvent}
    (hsocket : m.node.socket? id = some (.connection c)) (hawaits : c.Awaits event)
    (hother : ∀ finSeq, event ≠ .shutdownCheck finSeq) : m.pending.count ⟨id, event⟩ = 1 := by
  have hpos := List.count_pos_iff.mpr (h.awaited id c event hsocket hawaits)
  have hle := h.single id event hother
  omega

theorem wakeful (h : m.Watchful) : m.Wakeful where
  request _ _ hsocket hphase := h.count_eq_one hsocket (.request hphase) nofun
  answer _ _ _ hsocket hopen hconfirmed :=
    h.count_eq_one hsocket (.answer hopen hconfirmed) nofun
  shutdown _ _ _ _ hsocket hphase :=
    List.count_pos_iff.mpr (h.awaited _ _ _ hsocket (.shutdown hphase))
  window _ _ hsocket _ hleft := h.count_eq_one hsocket (.window hleft) nofun

end Watchful

variable {addr : NodeAddr} {settings : Settings}

theorem watchful_start (hsize : settings.bufferSize ≤ 2_147_483_648)
    (hcreate : Node.create addr settings = .ok n) : Watchful ⟨n, []⟩ := by
  have hnone : ∀ id s, n.socket? id ≠ some s := by
    intro id s hs
    rw [Node.socket?_of_create hcreate] at hs
    cases hs
  exact
    { capacity_le := by
        obtain ⟨profile, hcheck, rfl⟩ := exists_of_map_eq_ok hcreate
        show profile.shape.capacity ≤ _
        rw [(Settings.profile_of_check hcheck).1]
        exact hsize
      numbered := fun id s hs => absurd hs (hnone id s)
      steady := fun id c hc => absurd hc (hnone id _)
      awaited := fun id c event hc => absurd hc (hnone id _)
      single := fun id event _ => Nat.zero_le 1
      past := fun id c generation hc => absurd hc (hnone id _)
      fresh := fun id port event hs => absurd hs (hnone id _)
      known := fun t ht => absurd ht List.not_mem_nil }

theorem watchful_of_reachable (hsize : settings.bufferSize ≤ 2_147_483_648)
    (h : Reachable addr settings m) : m.Watchful := by
  induction h with
  | start hcreate => exact watchful_start hsize hcreate
  | step _ now input hready hfacing hreact ih => exact ih.step hready hfacing hreact

/-- **No wake-up is lost.** In every state of a machine whose buffers hold at
    most half a turn, every connection has the timers that it needs to go on. -/
theorem wakeful_of_reachable (hsize : settings.bufferSize ≤ 2_147_483_648)
    (h : Reachable addr settings m) : m.Wakeful :=
  (watchful_of_reachable hsize h).wakeful

/-- A socket asks for a connection, and its timer comes back: another one is
    pending in its place. -/
theorem wakeful_of_asking : ∃ m, Reachable 1 { mss := 4, bufferSize := 8 } m ∧
    m.node.state 1 = .synSent ∧ m.pending = [⟨1, .retransmitSyn 0⟩] ∧ m.Wakeful := by
  have hfacing : ∀ {n : Node} {call : Call}, ¬ n.Opposite (.call call) := by
    rintro n call ⟨_, _, _, hreaches, _, hopposite⟩
    cases hreaches <;> exact hopposite
  have started : Reachable 1 { mss := 4, bufferSize := 8 } _ := .start rfl
  have created := started.step .zero (.call .socket) trivial hfacing rfl
  have bound := created.step .zero (.call (.bind 1 80)) trivial hfacing rfl
  have asked := bound.step .zero (.call (.connect 1 9 5000)) trivial hfacing rfl
  have back := asked.step .zero (.timer ⟨1, .retransmitSyn 0⟩)
    (by decide +kernel : _ ∈ _) (by rintro ⟨_, _, _, ⟨⟩, _, hopposite⟩; exact hopposite) rfl
  exact ⟨_, back, by decide +kernel, by decide +kernel, wakeful_of_reachable (by decide) back⟩

end Machine

end ReliableStream
