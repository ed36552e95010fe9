import ReliableStream.Proofs.LifeCycle
/-! # What a release takes away

    A release takes a socket away, and with a listener the connections that
    wait in its queue and that nobody has been handed. It can be told as a loop
    over a stack of handles: the one on top is forgotten, and its queue is put
    in its place. The relation `Drains` is this loop. A queue holds spawned
    connections only, which have no queue of their own and can be forgotten in
    any order; so the stack empties, and what is left is the release.

    What is left is described by `Sheds`: a list of handles has lost its
    sockets, with all that the port table said of them, and nothing else has
    changed. -/

namespace ReliableStream

/-! ### Connections leave the port table in any order -/

namespace Table

variable {κ α : Type} [DecidableEq κ]

/-- The view of a table shows its entries. -/
theorem get?_eq_some_iff {t : Table κ α} {k : κ} {a : α} :
    t.get? k = some a ↔ (k, a) ∈ t.entries := by
  obtain ⟨entries, hnodup⟩ := t
  show lookup k entries = some a ↔ (k, a) ∈ entries
  induction entries with
  | nil => simp [lookup]
  | cons e rest ih =>
    obtain ⟨j, b⟩ := e
    rw [List.map_cons, List.nodup_cons] at hnodup
    by_cases hj : j = k
    · subst hj
      -- The key occurs nowhere else.
      have hrest : (j, a) ∉ rest := fun hmem => hnodup.1 (List.mem_map.mpr ⟨_, hmem, rfl⟩)
      simp [lookup, hrest, eq_comm]
    · simp [lookup, hj, Ne.symm hj, ih hnodup.2]

theorem erase_comm (t : Table κ α) (k k' : κ) : (t.erase k).erase k' = (t.erase k').erase k :=
  Table.ext (by simp only [erase, List.filter_filter, Bool.and_comm])

end Table

namespace PortTable

/-- A holder leaves as one entry of the table, if it is there. -/
theorem connections_disconnect (t : PortTable) (identity : Identity) (id : SocketId) :
    (t.disconnect identity id).connections.entries =
      t.connections.entries.filter (fun e => e ≠ (identity, id)) := by
  unfold disconnect
  split
  · next hheld =>
    apply List.filter_congr
    rintro ⟨identity', id'⟩ hmem
    by_cases hidentity : identity' = identity
    · subst hidentity
      have hid : id' = id :=
        Option.some.inj ((Table.get?_eq_some_iff.mpr hmem).symm.trans hheld)
      simp [hid]
    · simp [hidentity]
  · next hother =>
    symm
    apply List.filter_eq_self.mpr
    intro e hmem
    rw [decide_eq_true_eq]
    rintro rfl
    exact hother (Table.get?_eq_some_iff.mpr hmem)

theorem disconnect_eq (t : PortTable) (identity : Identity) (id : SocketId) :
    t.disconnect identity id =
      { t with connections := (t.disconnect identity id).connections } := by
  unfold disconnect
  split <;> rfl

theorem disconnect_comm (t : PortTable) (identity identity' : Identity) (id id' : SocketId) :
    (t.disconnect identity id).disconnect identity' id' =
      (t.disconnect identity' id').disconnect identity id := by
  have hentries : ((t.disconnect identity id).disconnect identity' id').connections =
      ((t.disconnect identity' id').disconnect identity id).connections := by
    apply Table.ext
    simp only [connections_disconnect, List.filter_filter, Bool.and_comm]
  rw [disconnect_eq, hentries, disconnect_eq (t.disconnect identity' id')]
  rw [disconnect_eq t identity id, disconnect_eq t identity' id']

end PortTable

namespace Node

variable {n n' n'' : Node} {now : Duration} {id id' : SocketId} {port : UInt16}
  {identity : Identity} {s : Socket} {ids ids' : List SocketId}

/-! ### The loop -/

/-- The loop of a release over a stack of handles. A handle without a socket is
    passed over. A socket is forgotten, and the last of its queue is the next
    on top. -/
inductive Drains : Node → List SocketId → Node → Prop where
  | empty {n : Node} : Drains n [] n
  | passes {n n' : Node} {id : SocketId} {rest : List SocketId} (hnone : n.socket? id = none)
      (hrest : Drains n rest n') : Drains n (id :: rest) n'
  | forgets {n n' : Node} {id : SocketId} {rest : List SocketId} {s : Socket}
      (hsocket : n.socket? id = some s)
      (hrest : Drains (n.forget id) (s.backlog.reverse ++ rest) n') : Drains n (id :: rest) n'

/-- The loop goes one way only. -/
theorem Drains.unique (h : n.Drains ids n') (h' : n.Drains ids n'') : n' = n'' := by
  induction h with
  | empty =>
    cases h'
    rfl
  | passes hnone _ ih =>
    cases h' with
    | passes _ hrest => exact ih hrest
    | forgets hsocket => cases hnone.symm.trans hsocket
  | forgets hsocket _ ih =>
    cases h' with
    | passes hnone => cases hnone.symm.trans hsocket
    | forgets hsocket' hrest =>
      cases hsocket.symm.trans hsocket'
      exact ih hrest

theorem forget_of_none (hnone : n.socket? id = none) : n.forget id = n := by
  unfold forget
  rw [hnone]

/-- A spawned connection owns no port: it leaves its identity, and no more. -/
theorem forget_of_connection {c : Connection} (hsocket : n.socket? id = some (.connection c))
    (horigin : c.origin = .spawned) : n.forget id =
      { n with
        sockets := n.sockets.erase id
        ports := if c.phase.isClosed then n.ports else n.ports.disconnect c.identity id } := by
  unfold forget
  simp only [hsocket, portsWithout, horigin, PortTable.vacate]

theorem Spawned.forget (h : n.Spawned id) (id' : SocketId) : (n.forget id').Spawned id := by
  intro s hs
  rw [socket?_forget] at hs
  split at hs
  · cases hs
  · exact h s hs

theorem forget_comm (h : n.Spawned id) (h' : n.Spawned id') :
    (n.forget id).forget id' = (n.forget id').forget id := by
  by_cases hid : id = id'
  · rw [hid]
  have hsame : (n.forget id).socket? id' = n.socket? id' :=
    (socket?_forget n id id').trans (if_neg hid)
  have hsame' : (n.forget id').socket? id = n.socket? id :=
    (socket?_forget n id' id).trans (if_neg (Ne.symm hid))
  cases hs : n.socket? id with
  | none => rw [forget_of_none hs, forget_of_none (hsame'.trans hs)]
  | some s =>
    cases hs' : n.socket? id' with
    | none => rw [forget_of_none hs', forget_of_none (hsame.trans hs')]
    | some s' =>
      obtain ⟨c, rfl, horigin⟩ := h s hs
      obtain ⟨c', rfl, horigin'⟩ := h' s' hs'
      rw [forget_of_connection (hsame.trans hs') horigin',
        forget_of_connection (hsame'.trans hs) horigin, forget_of_connection hs horigin,
        forget_of_connection hs' horigin']
      simp only [Table.erase_comm n.sockets id id', Node.mk.injEq, true_and, and_true]
      split
      · rfl
      · split
        · rfl
        · exact PortTable.disconnect_comm _ _ _ _ _

/-- The order in which spawned connections are forgotten does not matter. -/
theorem foldl_forget_concat (hspawned : n.Spawned id) (h : ∀ id' ∈ ids, n.Spawned id') :
    (ids.foldl forget n).forget id = ids.foldl forget (n.forget id) := by
  induction ids generalizing n with
  | nil => rfl
  | cons first rest ih =>
    have hfirst : n.Spawned first := h first List.mem_cons_self
    have hrest : ∀ id' ∈ rest, (n.forget first).Spawned id' :=
      fun id' hmem => (h id' (List.mem_cons_of_mem _ hmem)).forget first
    rw [List.foldl_cons, ih (hspawned.forget first) hrest, forget_comm hfirst hspawned]
    rfl

theorem foldl_forget_reverse (h : ∀ id ∈ ids, n.Spawned id) :
    ids.reverse.foldl forget n = ids.foldl forget n := by
  induction ids generalizing n with
  | nil => rfl
  | cons first rest ih =>
    have hrest : ∀ id ∈ rest, n.Spawned id := fun id hmem => h id (List.mem_cons_of_mem _ hmem)
    rw [List.reverse_cons, List.foldl_append, ih hrest]
    exact foldl_forget_concat (h first List.mem_cons_self) hrest

/-- Spawned connections have no queues, so the stack only shrinks. -/
theorem drains_of_spawned (h : ∀ id ∈ ids, n.Spawned id) : n.Drains ids (ids.foldl forget n) := by
  induction ids generalizing n with
  | nil => exact .empty
  | cons first rest ih =>
    have hrest : ∀ id ∈ rest, (n.forget first).Spawned id :=
      fun id hmem => (h id (List.mem_cons_of_mem _ hmem)).forget first
    cases hsocket : n.socket? first with
    | none =>
      apply Drains.passes hsocket
      have hdrains := ih hrest
      rw [List.foldl_cons]
      rw [forget_of_none hsocket] at hdrains ⊢
      exact hdrains
    | some s =>
      obtain ⟨c, rfl, -⟩ := h first List.mem_cons_self s hsocket
      exact .forgets hsocket (ih hrest)

/-- The loop ends, and what it leaves is the release. -/
theorem Orderly.drains_iff (h : n.Orderly) : n.Drains [id] n' ↔ n' = n.release id := by
  have hdrains : n.Drains [id] (n.release id) := by
    unfold Node.release
    cases hsocket : n.socket? id with
    | none => exact .passes hsocket .empty
    | some s =>
      have hqueue : ∀ child ∈ s.backlog, (n.forget id).Spawned child := by
        cases s with
        | listener port limit backlog =>
          exact fun child hmem => (h.queued id port limit backlog hsocket child hmem).2.forget id
        | fresh => exact fun child hmem => absurd hmem List.not_mem_nil
        | connection => exact fun child hmem => absurd hmem List.not_mem_nil
      apply Drains.forgets hsocket
      rw [List.append_nil]
      simp only
      rw [← foldl_forget_reverse hqueue]
      exact drains_of_spawned fun child hmem => hqueue child (List.mem_reverse.mp hmem)
  exact ⟨fun hother => hother.unique hdrains, fun heq => heq ▸ hdrains⟩

/-! ### What is left -/

/-- The sockets that go with the socket of a handle: itself, and what waits in
    its queue. -/
def attached (n : Node) (id : SocketId) : List SocketId :=
  match n.socket? id with
  | some s => id :: s.backlog
  | none => []

/-- Some handles have lost their sockets, with the ports and the connections
    that these had. Nothing else has changed. -/
structure Sheds (n : Node) (ids : List SocketId) (n' : Node) : Prop where
  sockets : ∀ id, n'.socket? id = if id ∈ ids then none else n.socket? id
  claimed : ∀ port, n'.ports.isClaimed port = true ↔
    n.ports.isClaimed port = true ∧ ∀ id ∈ ids, n.owned? id ≠ some port
  listeners : ∀ port id, n'.ports.listener? port = some id ↔
    n.ports.listener? port = some id ∧ ∀ gone ∈ ids, n.owned? gone ≠ some port
  connections : ∀ identity id, n'.ports.connection? identity = some id ↔
    n.ports.connection? identity = some id ∧ id ∉ ids
  others : n'.addr = n.addr ∧ n'.profile = n.profile ∧ n'.nextId = n.nextId

theorem Sheds.refl (n : Node) : n.Sheds [] n where
  sockets _ := rfl
  claimed _ := by simp
  listeners _ _ := by simp
  connections _ _ := by simp
  others := ⟨rfl, rfl, rfl⟩

/-- A handle that has lost its socket owns nothing, and the others own what
    they owned. -/
theorem Sheds.owned? (h : n.Sheds ids n') (id : SocketId) :
    n'.owned? id = if id ∈ ids then none else n.owned? id := by
  unfold Node.owned?
  rw [h.sockets]
  split <;> rfl

theorem Sheds.forall_owned?_ne (h : n.Sheds ids n') :
    ((∀ id ∈ ids, n.owned? id ≠ some port) ∧ ∀ id ∈ ids', n'.owned? id ≠ some port) ↔
      ∀ id ∈ ids ++ ids', n.owned? id ≠ some port := by
  constructor
  · rintro ⟨hfirst, hsecond⟩ id hmem
    by_cases hid : id ∈ ids
    · exact hfirst id hid
    · have hlater := hsecond id ((List.mem_append.mp hmem).resolve_left hid)
      rw [h.owned?, if_neg hid] at hlater
      exact hlater
  · intro hall
    refine ⟨fun id hmem => hall id (List.mem_append_left _ hmem), fun id hmem => ?_⟩
    rw [h.owned?]
    split
    · exact (Option.some_ne_none port).symm
    · exact hall id (List.mem_append_right _ hmem)

theorem Sheds.trans (h : n.Sheds ids n') (h' : n'.Sheds ids' n'') : n.Sheds (ids ++ ids') n'' where
  sockets id := by
    rw [h'.sockets, h.sockets]
    by_cases hid : id ∈ ids <;> by_cases hid' : id ∈ ids' <;> simp [hid, hid']
  claimed port := by
    rw [h'.claimed, h.claimed, and_assoc, h.forall_owned?_ne]
  listeners port id := by
    rw [h'.listeners, h.listeners, and_assoc, h.forall_owned?_ne]
  connections identity id := by
    rw [h'.connections, h.connections, and_assoc, List.mem_append, not_or]
  others := by
    obtain ⟨haddr, hprofile, hnext⟩ := h.others
    obtain ⟨haddr', hprofile', hnext'⟩ := h'.others
    exact ⟨haddr'.trans haddr, hprofile'.trans hprofile, hnext'.trans hnext⟩

/-- A handle without a socket has nothing to lose. -/
theorem Orderly.sheds_of_none (h : n.Orderly) (hnone : n.socket? id = none) :
    n.Sheds [id] n where
  sockets id' := by
    by_cases hid : id' = id
    · rw [if_pos (List.mem_singleton.mpr hid), hid, hnone]
    · rw [if_neg (mt List.mem_singleton.mp hid)]
  claimed port := by simp [Node.owned?, hnone]
  listeners port id' := by simp [Node.owned?, hnone]
  connections identity id' := by
    refine ⟨fun hentry => ⟨hentry, fun hmem => ?_⟩, And.left⟩
    have hheld := h.connected identity id' hentry
    obtain ⟨c, hc, -⟩ := held?_eq_some_iff.mp hheld
    rw [List.mem_singleton.mp hmem, hnone] at hc
    cases hc
  others := ⟨rfl, rfl, rfl⟩

theorem Orderly.sheds_forget (h : n.Orderly) (id : SocketId) : n.Sheds [id] (n.forget id) := by
  cases hsocket : n.socket? id with
  | none =>
    rw [forget_of_none hsocket]
    exact h.sheds_of_none hsocket
  | some s =>
    have hports : (n.forget id).ports = n.portsWithout id s := by
      unfold Node.forget
      rw [hsocket]
    have hown : n.owned? id = s.ownPort? := owned?_of_socket hsocket
    refine ⟨fun id' => ?_, fun port => ?_, fun port id' => ?_, fun identity id' => ?_, ?_⟩
    · rw [socket?_forget]
      simp [eq_comm]
    · rw [hports, isClaimed_portsWithout, ← hown]
      simp
    · rw [hports, listener?_portsWithout, ← hown]
      simp
    · rw [hports, List.mem_singleton]
      exact ⟨h.connection?_of_portsWithout hsocket,
        fun hbefore => connection?_portsWithout hbefore.1 hbefore.2⟩
    · obtain ⟨hnext, hprofile⟩ := nextId_profile_forget n id
      refine ⟨?_, hprofile, hnext⟩
      unfold Node.forget
      split <;> rfl

theorem Orderly.sheds_forgetAll (h : n.Orderly) (ids : List SocketId) :
    n.Sheds ids (ids.foldl Node.forget n) := by
  induction ids generalizing n with
  | nil => exact .refl n
  | cons first rest ih => exact (h.sheds_forget first).trans (ih (h.forget first))

theorem Orderly.sheds_release (h : n.Orderly) (id : SocketId) :
    n.Sheds (n.attached id) (n.release id) := by
  unfold Node.release attached
  cases n.socket? id with
  | none => exact .refl n
  | some s => exact (h.sheds_forget id).trans ((h.forget id).sheds_forgetAll s.backlog)

/-- Of all that goes with a socket, only itself can own a port: the others are
    spawned connections. -/
theorem Orderly.owned?_of_attached (h : n.Orderly) (hmem : id' ∈ n.attached id)
    (hown : n.owned? id' = some port) : id' = id := by
  unfold attached at hmem
  split at hmem
  · next s hsocket =>
    rcases List.mem_cons.mp hmem with hid | hqueued
    · exact hid
    · cases s with
      | listener own limit backlog =>
        obtain ⟨-, hspawned⟩ := h.queued id own limit backlog hsocket id' hqueued
        unfold Node.owned? at hown
        cases hs : n.socket? id' with
        | none =>
          rw [hs] at hown
          cases hown
        | some s' =>
          obtain ⟨c, rfl, horigin⟩ := hspawned s' hs
          rw [hs] at hown
          simp [Socket.ownPort?, horigin] at hown
      | fresh => cases hqueued
      | connection => cases hqueued
  · cases hmem

/-! ### The result -/

/-- What a release does to a node: it removes the socket and what waits in its
    queue, and touches nothing else. -/
structure Released (n : Node) (id : SocketId) (n' : Node) : Prop where
  /-- Exactly the socket goes, and with a listener its queue. -/
  sockets : ∀ id', n'.socket? id' = if id' ∈ n.attached id then none else n.socket? id'
  /-- What waits in the queue are spawned connections, if they are still there. -/
  queue : ∀ child ∈ n.attached id, child ≠ id →
    (∃ port limit backlog, n.socket? id = some (.listener port limit backlog) ∧ child ∈ backlog) ∧
      n.Spawned child
  /-- Exactly the connections go that one of these sockets has. -/
  connections : ∀ identity, n'.ports.connection? identity =
    (n.ports.connection? identity).filter (· ∉ n.attached id)
  /-- Exactly the port is given back that the socket owned, -/
  claimed : ∀ port, n'.ports.isClaimed port =
    (n.ports.isClaimed port && !decide (n.owned? id = some port))
  /-- and nobody listens on it any more. -/
  listeners : ∀ port, n'.ports.listener? port =
    if n.owned? id = some port then none else n.ports.listener? port
  others : n'.addr = n.addr ∧ n'.profile = n.profile ∧ n'.nextId = n.nextId

theorem Orderly.released (h : n.Orderly) (id : SocketId) : n.Released id (n.release id) := by
  have hsheds := h.sheds_release id
  -- A port that anything attached owns is owned by the socket itself.
  have hown : ∀ port, (∀ gone ∈ n.attached id, n.owned? gone ≠ some port) ↔
      n.owned? id ≠ some port := by
    intro port
    constructor
    · intro hall hself
      apply hall id _ hself
      unfold attached
      cases hsocket : n.socket? id with
      | none =>
        unfold Node.owned? at hself
        rw [hsocket] at hself
        cases hself
      | some s => exact List.mem_cons_self
    · intro hself gone hmem hgone
      rw [h.owned?_of_attached hmem hgone] at hgone
      exact hself hgone
  refine ⟨hsheds.sockets, fun child hmem hne => ?_, fun identity => ?_, fun port => ?_,
    fun port => ?_, hsheds.others⟩
  · unfold attached at hmem
    split at hmem
    · next s hsocket =>
      have hqueued := (List.mem_cons.mp hmem).resolve_left hne
      cases s with
      | listener port limit backlog =>
        exact ⟨⟨port, limit, backlog, hsocket, hqueued⟩,
          (h.queued id port limit backlog hsocket child hqueued).2⟩
      | fresh => cases hqueued
      | connection => cases hqueued
    · cases hmem
  · ext id'
    rw [hsheds.connections, Option.filter_eq_some_iff, decide_eq_true_eq]
  · rw [Bool.eq_iff_iff, hsheds.claimed, hown]
    simp
  · ext id'
    rw [hsheds.listeners, hown]
    by_cases hself : n.owned? id = some port <;> simp [hself]

/-- Closing a socket that listens or still asks is releasing it. -/
theorem serve_close_eq_release (now : Duration)
    (hstate : n.state id = .listen ∨ n.state id = .synSent) :
    n.serve now (.close id) = (.done, n.release id, []) := by
  unfold state at hstate
  cases hsocket : n.socket? id with
  | none =>
    rw [hsocket] at hstate
    rcases hstate with hstate | hstate <;> cases hstate
  | some s =>
    rw [hsocket] at hstate
    rw [serve_close hsocket]
    exact if_pos hstate

/-- A timer finds nothing to do where there is no socket. -/
theorem onTimer_of_none {timer : Timer} (hnone : n.socket? timer.socket = none) (now : Duration) :
    n.onTimer timer now = (n, []) := by
  unfold onTimer
  rw [hnone]

/-- Everything attached to a socket has a handle that was handed out. -/
theorem Orderly.lt_of_attached (h : n.Orderly) (hmem : id' ∈ n.attached id) : id' < n.nextId := by
  unfold attached at hmem
  split at hmem
  · next s hsocket =>
    rcases List.mem_cons.mp hmem with hid | hqueued
    · rw [hid]
      exact h.numbered id s hsocket
    · cases s with
      | listener port limit backlog => exact (h.queued id port limit backlog hsocket id' hqueued).1
      | fresh => cases hqueued
      | connection => cases hqueued
  · cases hmem

/-- **A release is complete and confined.** In every state of a run from a new
    node, the loop of a release ends, with the node that the call returns. The
    socket is gone, with a listener all that waited in its queue; so are their
    entries in the port table, and nothing else is. No packet is sent and no
    timer is armed. The same is true of closing a socket that listens or asks.
    A timer of a socket that is gone does nothing, whenever it comes. -/
theorem release_complete_confined {addr : NodeAddr} {settings : Settings}
    (hcreate : Node.create addr settings = .ok n) (inputs : List (Duration × Input)) (m : Node)
    (hm : n.after inputs = some m) (id : SocketId) :
    m.Released id (m.release id) ∧ (∀ m', m.Drains [id] m' ↔ m' = m.release id) ∧
      (∀ now, m.serve now (.release id) = (.done, m.release id, [])) ∧
      (m.state id = .listen ∨ m.state id = .synSent →
        ∀ now, m.serve now (.close id) = (.done, m.release id, [])) ∧
      ∀ gone ∈ m.attached id, ∀ later m', (m.release id).after later = some m' →
        ∀ event now, m'.onTimer ⟨gone, event⟩ now = (m', []) := by
  have horderly := (orderly_create hcreate).of_after hm
  have hreleased := horderly.released id
  refine ⟨hreleased, fun m' => horderly.drains_iff, fun now => rfl,
    fun hstate now => serve_close_eq_release now hstate, ?_⟩
  intro gone hgone later m' hlater event now
  -- The handle was handed out, so no socket will have it again.
  have hspent : m'.socket? gone = none ∧ gone < m'.nextId := by
    apply Node.of_after (fun m => m.socket? gone = none ∧ gone < m.nextId) _ _ hlater
    · refine ⟨(hreleased.sockets gone).trans (if_pos hgone), ?_⟩
      rw [hreleased.others.2.2]
      exact horderly.lt_of_attached hgone
    · rintro before after now input effects ⟨hnone, hlt⟩ hreact
      have hchange := change_of_react hreact
      exact ⟨hchange.socket?_of_none hnone hlt, Nat.lt_of_lt_of_le hlt hchange.nextId_le⟩
  exact onTimer_of_none hspent.1 now

/-- A listener hands out its first connection, and a second one waits. -/
def waiting : List (Duration × Input) :=
  let request : Segment := ⟨5001, 80, .syn, 4, 200, []⟩
  let packet : Packet :=
    { src := 9, dest := 1, ttl := 15, protocol := .transport, seq := 200
      payload := request.header request.frameChecksum }
  serving ++ [(.zero, .call (.accept 1)), (.zero, .packet packet)]

/-- With this listener goes the connection that waits, and its timer finds
    nothing. The connection that was handed out stays. -/
theorem release_of_waiting : ∃ n, Node.create 1 { mss := 4, bufferSize := 8 } = .ok n ∧
    ∃ m ∈ n.after waiting, m.attached 1 = [1, 3] ∧ m.state 1 = .listen ∧
      m.ports.connection? ⟨80, 9, 5000⟩ = some 2 ∧ m.ports.connection? ⟨80, 9, 5001⟩ = some 3 ∧
      m.Released 1 (m.release 1) ∧ m.serve .zero (.close 1) = (.done, m.release 1, []) ∧
      (m.release 1).onTimer ⟨3, .retransmitSynAck 201⟩ .zero = (m.release 1, []) := by
  have hcreate : Node.create 1 { mss := 4, bufferSize := 8 } = .ok _ := rfl
  refine ⟨_, hcreate, _, Option.get_mem (by decide +kernel), by decide +kernel, by decide +kernel,
    by decide +kernel, by decide +kernel, ?_⟩
  obtain ⟨hreleased, -, -, hclose, htimer⟩ :=
    release_complete_confined hcreate waiting _ (Option.get_mem _) 1
  exact ⟨hreleased, hclose (Or.inl (by decide +kernel)) .zero,
    htimer 3 (by decide +kernel) [] _ rfl _ .zero⟩

end Node

end ReliableStream
