import ReliableStream.Proofs.Identities
/-! # What the port table says is true

    A socket **owns** the port that it bound and has not given back. The port
    table of a node repeats what its sockets know: which ports are owned, who
    listens, and who holds a connection. In every state of every run the two
    accounts agree, whatever is opened, spawned, refused, released or discarded
    in between, so that nothing in the table names a socket that is gone.

    Handles are handed out in order. One that lost its socket stays without
    one. -/

namespace ReliableStream

/-- The port that a socket claimed and still holds. A spawned connection shares
    the port of its listener and owns none, and a connection that ended has
    given its port back. -/
def Socket.ownPort? : Socket → Option UInt16
  | .fresh port => port
  | .listener port .. => some port
  | .connection c =>
    if c.origin = .opened ∧ c.phase.isClosed = false then some c.identity.localPort else none

/-- A closed connection owns nothing. -/
theorem Socket.ownPort?_of_closed {c : Connection} (h : c.phase.isClosed = true) :
    (Socket.connection c).ownPort? = none := by
  simp [ownPort?, h]

/-! ### The port table through its views -/

namespace PortTable

variable {t t' : PortTable} {port port' : UInt16} {id id' : SocketId}
  {identity identity' : Identity}

theorem isClaimed_free :
    (t.free port).isClaimed port' = true ↔ t.isClaimed port' = true ∧ port ≠ port' := by
  simp [isClaimed, free, ne_comm]

/-- Exactly a port that is not claimed can be claimed. -/
theorem isClaimed_claim? (h : t.claim? port = some t') :
    t.isClaimed port = false ∧
      ∀ port', t'.isClaimed port' = true ↔ port' = port ∨ t.isClaimed port' = true := by
  unfold claim? at h
  split at h
  · cases h
  · next hfree =>
    simp only [Option.some.injEq] at h
    subst h
    refine ⟨Bool.not_eq_true _ ▸ hfree, fun port' => ?_⟩
    simp [isClaimed]

theorem isClaimed_disconnect : (t.disconnect identity id).isClaimed port = t.isClaimed port := by
  unfold disconnect
  split <;> rfl

/-- What is left after a socket has left an identity was there before, and is
    not what the socket held. -/
theorem connection?_of_disconnect (h : (t.disconnect identity id).connection? identity' = some id') :
    t.connection? identity' = some id' ∧ ¬ (identity' = identity ∧ id' = id) := by
  unfold disconnect at h
  split at h
  · have hrest : (t.connections.erase identity).get? identity' = some id' := h
    rw [Table.get?_erase] at hrest
    split at hrest
    · cases hrest
    · next hne => exact ⟨hrest, fun hsame => hne hsame.1.symm⟩
  · next hother =>
    refine ⟨h, fun hsame => hother ?_⟩
    rw [← hsame.1, ← hsame.2]
    exact h

end PortTable

namespace Node

variable {n n' : Node} {now : Duration} {id id' : SocketId} {port : UInt16} {identity : Identity}

/-- The port that the socket of a handle owns. -/
def owned? (n : Node) (id : SocketId) : Option UInt16 := (n.socket? id).bind Socket.ownPort?

/-- If there is a socket, it is a spawned connection. -/
def Spawned (n : Node) (id : SocketId) : Prop :=
  ∀ s, n.socket? id = some s → ∃ c, s = .connection c ∧ c.origin = .spawned

/-- The port table and the sockets agree, and the queues hold nothing but
    spawned connections. -/
structure Orderly (n : Node) : Prop where
  numbered : n.Numbered
  claimed : ∀ port, n.ports.isClaimed port = true ↔ ∃ id, n.owned? id = some port
  exclusive : ∀ port id id', n.owned? id = some port → n.owned? id' = some port → id = id'
  listening : ∀ port id, n.ports.listener? port = some id ↔
    ∃ limit backlog, n.socket? id = some (.listener port limit backlog)
  connected : ∀ identity id, n.ports.connection? identity = some id → n.held? id = some identity
  queued : ∀ id port limit backlog, n.socket? id = some (.listener port limit backlog) →
    ∀ child ∈ backlog, child < n.nextId ∧ n.Spawned child

theorem owned?_of_socket {s : Socket} (h : n.socket? id = some s) : n.owned? id = s.ownPort? := by
  simp [owned?, h]

/-- There is no socket of the next handle. -/
theorem Orderly.socket?_nextId (h : n.Orderly) : n.socket? n.nextId = none := by
  cases hsocket : n.socket? n.nextId with
  | none => rfl
  | some s => exact absurd (h.numbered _ s hsocket) (Nat.lt_irrefl _)

/-- A listener owns its port. -/
theorem Orderly.owned?_of_listener? (h : n.Orderly) (hentry : n.ports.listener? port = some id) :
    n.owned? id = some port := by
  obtain ⟨limit, backlog, hsocket⟩ := (h.listening port id).mp hentry
  rw [owned?_of_socket hsocket]
  rfl

/-- The port table names no socket that has neither a port nor a connection. -/
theorem Orderly.ne_of_connection? (h : n.Orderly) (hnone : ∀ identity, n.held? id ≠ some identity)
    (hentry : n.ports.connection? identity = some id') : id' ≠ id := by
  intro hid
  rw [hid] at hentry
  exact hnone identity (h.connected identity id hentry)

/-! ### A change at one socket -/

/-- What has to be shown of a change at one socket: the table says of this
    socket what is true of it, and of the others what it said before. -/
theorem Orderly.update {new : Option Socket} (h : n.Orderly)
    (hsockets : ∀ id', n'.socket? id' = if id = id' then new else n.socket? id')
    (hlt : ∀ s, new = some s → id < n'.nextId) (hnext : n.nextId ≤ n'.nextId)
    (hclaimed : ∀ port, n'.ports.isClaimed port = true ↔
      new.bind Socket.ownPort? = some port ∨ ∃ id', id' ≠ id ∧ n.owned? id' = some port)
    (hexclusive : ∀ port id', new.bind Socket.ownPort? = some port → id' ≠ id →
      n.owned? id' ≠ some port)
    (hlistening : ∀ port id', n'.ports.listener? port = some id' ↔
      id' = id ∧ (∃ limit backlog, new = some (.listener port limit backlog)) ∨
        id' ≠ id ∧ n.ports.listener? port = some id')
    (hconnected : ∀ identity id', n'.ports.connection? identity = some id' →
      id' = id ∧ n'.held? id = some identity ∨
        id' ≠ id ∧ n.ports.connection? identity = some id')
    (hspawned : id < n.nextId → n.Spawned id → n'.Spawned id)
    (hqueue : ∀ port limit backlog, new = some (.listener port limit backlog) →
      ∀ child ∈ backlog, child < n'.nextId ∧ n'.Spawned child) : n'.Orderly := by
  have hself : n'.socket? id = new := (hsockets id).trans (if_pos rfl)
  have hother : ∀ id', id' ≠ id → n'.socket? id' = n.socket? id' :=
    fun id' hne => (hsockets id').trans (if_neg (Ne.symm hne))
  have hownSelf : n'.owned? id = new.bind Socket.ownPort? := by
    unfold owned?
    rw [hself]
  have hownOther : ∀ id', id' ≠ id → n'.owned? id' = n.owned? id' := by
    intro id' hne
    unfold owned?
    rw [hother id' hne]
  refine ⟨?_, ?_, ?_, ?_, ?_, ?_⟩
  · intro id' s hs
    by_cases hid : id' = id
    · rw [hid, hself] at hs
      rw [hid]
      exact hlt s hs
    · rw [hother id' hid] at hs
      exact Nat.lt_of_lt_of_le (h.numbered id' s hs) hnext
  · intro port
    rw [hclaimed port]
    constructor
    · rintro (hown | ⟨id', hne, hown⟩)
      · exact ⟨id, hownSelf.trans hown⟩
      · exact ⟨id', (hownOther id' hne).trans hown⟩
    · rintro ⟨id', hown⟩
      by_cases hid : id' = id
      · rw [hid, hownSelf] at hown
        exact Or.inl hown
      · rw [hownOther id' hid] at hown
        exact Or.inr ⟨id', hid, hown⟩
  · intro port id₁ id₂ h₁ h₂
    by_cases hid₁ : id₁ = id
    · by_cases hid₂ : id₂ = id
      · rw [hid₁, hid₂]
      · rw [hid₁, hownSelf] at h₁
        rw [hownOther id₂ hid₂] at h₂
        exact absurd h₂ (hexclusive port id₂ h₁ hid₂)
    · rw [hownOther id₁ hid₁] at h₁
      by_cases hid₂ : id₂ = id
      · rw [hid₂, hownSelf] at h₂
        exact absurd h₁ (hexclusive port id₁ h₂ hid₁)
      · rw [hownOther id₂ hid₂] at h₂
        exact h.exclusive port id₁ id₂ h₁ h₂
  · intro port id'
    rw [hlistening port id']
    by_cases hid : id' = id
    · rw [hid, hself]
      simp
    · rw [hother id' hid, ← h.listening port id']
      simp [hid]
  · intro identity id' hentry
    rcases hconnected identity id' hentry with ⟨hid, hheld⟩ | ⟨hne, hbefore⟩
    · rw [hid]
      exact hheld
    · rw [held?_congr (hother id' hne)]
      exact h.connected identity id' hbefore
  · intro id' port limit backlog hs child hchild
    by_cases hid : id' = id
    · rw [hid, hself] at hs
      exact hqueue port limit backlog hs child hchild
    · rw [hother id' hid] at hs
      obtain ⟨hltChild, hbefore⟩ := h.queued id' port limit backlog hs child hchild
      refine ⟨Nat.lt_of_lt_of_le hltChild hnext, ?_⟩
      by_cases hchildId : child = id
      · rw [hchildId] at hltChild hbefore ⊢
        exact hspawned hltChild hbefore
      · intro s hs'
        rw [hother child hchildId] at hs'
        exact hbefore s hs'

/-! ### Sockets that go -/

/-- What a socket owns goes with it. -/
theorem isClaimed_portsWithout {s : Socket} : (n.portsWithout id s).isClaimed port = true ↔
    n.ports.isClaimed port = true ∧ s.ownPort? ≠ some port := by
  cases s with
  | fresh own =>
    cases own with
    | none => simp [portsWithout, Socket.ownPort?]
    | some own => simp [portsWithout, Socket.ownPort?, PortTable.isClaimed_free]
  | listener own limit backlog =>
    simp [portsWithout, Socket.ownPort?, PortTable.isClaimed_free]
  | connection c =>
    cases hclosed : c.phase.isClosed with
    | true => simp [portsWithout, Socket.ownPort?, hclosed]
    | false =>
      cases horigin : c.origin with
      | opened =>
        simp [portsWithout, Socket.ownPort?, hclosed, horigin, PortTable.vacate,
          PortTable.isClaimed_free, PortTable.isClaimed_disconnect]
      | spawned =>
        simp [portsWithout, Socket.ownPort?, hclosed, horigin, PortTable.vacate,
          PortTable.isClaimed_disconnect]

/-- Whoever listens on a port that a socket owns goes with the socket. -/
theorem listener?_portsWithout {s : Socket} :
    (n.portsWithout id s).listener? port = some id' ↔
      n.ports.listener? port = some id' ∧ s.ownPort? ≠ some port := by
  have hfree : ∀ t own, (PortTable.free t own).listener? port = some id' ↔
      t.listener? port = some id' ∧ own ≠ port := by
    intro t own
    rw [PortTable.listener?_free]
    by_cases hown : own = port <;> simp [hown]
  cases s with
  | fresh own =>
    cases own with
    | none => simp [portsWithout, Socket.ownPort?]
    | some own => simp [portsWithout, Socket.ownPort?, hfree]
  | listener own limit backlog => simp [portsWithout, Socket.ownPort?, hfree]
  | connection c =>
    cases hclosed : c.phase.isClosed with
    | true => simp [portsWithout, Socket.ownPort?, hclosed]
    | false =>
      cases horigin : c.origin with
      | opened =>
        simp [portsWithout, Socket.ownPort?, hclosed, horigin, PortTable.vacate, hfree,
          PortTable.listener?_disconnect]
      | spawned =>
        simp [portsWithout, Socket.ownPort?, hclosed, horigin, PortTable.vacate,
          PortTable.listener?_disconnect]

/-- No connection is left that a socket held. -/
theorem Orderly.connection?_of_portsWithout {s : Socket} (h : n.Orderly)
    (hsocket : n.socket? id = some s)
    (hentry : (n.portsWithout id s).connection? identity = some id') :
    n.ports.connection? identity = some id' ∧ id' ≠ id := by
  -- Only a connection that is open has an entry.
  have hheld : ∀ {identity}, n.held? id = some identity →
      ∃ c, s = .connection c ∧ c.phase.isClosed = false ∧ c.identity = identity := by
    intro identity hheld
    obtain ⟨c, hc, hopen, hidentity⟩ := held?_eq_some_iff.mp hheld
    rw [hsocket, Option.some.injEq] at hc
    exact ⟨c, hc, hopen, hidentity⟩
  have hunheld : (∀ c, s = .connection c → c.phase.isClosed = true) →
      n.ports.connection? identity = some id' → id' ≠ id := by
    intro hclosed hbefore
    refine h.ne_of_connection? (fun identity hnow => ?_) hbefore
    obtain ⟨c, hc, hopen, -⟩ := hheld hnow
    rw [hclosed c hc] at hopen
    cases hopen
  cases s with
  | fresh own =>
    cases own with
    | none => exact ⟨hentry, hunheld (fun c hc => by cases hc) hentry⟩
    | some own => exact ⟨hentry, hunheld (fun c hc => by cases hc) hentry⟩
  | listener own limit backlog => exact ⟨hentry, hunheld (fun c hc => by cases hc) hentry⟩
  | connection c =>
    cases hclosed : c.phase.isClosed with
    | true =>
      simp only [portsWithout, hclosed, if_true] at hentry
      refine ⟨hentry, hunheld (fun c' hc' => ?_) hentry⟩
      rw [← Socket.connection.inj hc']
      exact hclosed
    | false =>
      have hleft : (n.ports.disconnect c.identity id).connection? identity = some id' := by
        simp only [portsWithout, hclosed, Bool.false_eq_true, if_false] at hentry
        cases horigin : c.origin with
        | opened =>
          rw [horigin] at hentry
          exact hentry
        | spawned =>
          rw [horigin] at hentry
          exact hentry
      obtain ⟨hbefore, hother⟩ := PortTable.connection?_of_disconnect hleft
      refine ⟨hbefore, fun hid => hother ⟨?_, hid⟩⟩
      rw [hid] at hbefore
      obtain ⟨c', hc', -, hidentity⟩ := hheld (h.connected identity id hbefore)
      rw [← hidentity, ← Socket.connection.inj hc']

/-- A socket goes, or only its closed connection stays, and the table forgets
    what it held. -/
theorem Orderly.retire {s : Socket} {new : Option Socket} (h : n.Orderly)
    (hsocket : n.socket? id = some s)
    (hsockets : ∀ id', n'.socket? id' = if id = id' then new else n.socket? id')
    (hnext : n'.nextId = n.nextId) (hports : n'.ports = n.portsWithout id s)
    (hnew : ∀ s', new = some s' → ∃ c c', s = .connection c ∧ s' = .connection c' ∧
      c'.origin = c.origin ∧ c'.phase.isClosed = true) : n'.Orderly := by
  have hid := h.numbered id s hsocket
  have hunowned : new.bind Socket.ownPort? = none := by
    cases new with
    | none => rfl
    | some s' =>
      obtain ⟨c, c', -, rfl, -, hclosed⟩ := hnew s' rfl
      exact Socket.ownPort?_of_closed hclosed
  have hown := owned?_of_socket hsocket
  refine h.update hsockets ?_ (Nat.le_of_eq hnext.symm) ?_ ?_ ?_ ?_ ?_ ?_
  · intro s' _
    rw [hnext]
    exact hid
  · intro port
    rw [hports, isClaimed_portsWithout, h.claimed port, hunowned, ← hown]
    constructor
    · rintro ⟨⟨id', hid'⟩, hne⟩
      refine Or.inr ⟨id', fun heq => hne ?_, hid'⟩
      rw [← heq]
      exact hid'
    · rintro (hnone | ⟨id', hne, hid'⟩)
      · cases hnone
      · exact ⟨⟨id', hid'⟩, fun hsame => hne (h.exclusive port id' id hid' hsame)⟩
  · intro port id' hnone
    rw [hunowned] at hnone
    cases hnone
  · intro port id'
    rw [hports, listener?_portsWithout, ← hown]
    have hnone : ¬ ∃ limit backlog, new = some (.listener port limit backlog) := by
      rintro ⟨limit, backlog, heq⟩
      obtain ⟨c, c', -, hc', -⟩ := hnew _ heq
      cases hc'
    constructor
    · rintro ⟨hentry, hne⟩
      refine Or.inr ⟨fun heq => hne ?_, hentry⟩
      rw [← heq]
      exact h.owned?_of_listener? hentry
    · rintro (⟨-, hlistener⟩ | ⟨hne, hentry⟩)
      · exact absurd hlistener hnone
      · refine ⟨hentry, fun hsame => hne ?_⟩
        exact h.exclusive port id' id (h.owned?_of_listener? hentry) hsame
  · intro identity id' hentry
    rw [hports] at hentry
    obtain ⟨hbefore, hne⟩ := h.connection?_of_portsWithout hsocket hentry
    exact Or.inr ⟨hne, hbefore⟩
  · intro _ hspawned s' hs'
    rw [hsockets, if_pos rfl] at hs'
    obtain ⟨c, c', rfl, rfl, horigin, -⟩ := hnew s' hs'
    obtain ⟨c₀, hc₀, hspawn⟩ := hspawned _ hsocket
    refine ⟨c', rfl, ?_⟩
    rw [horigin, Socket.connection.inj hc₀]
    exact hspawn
  · intro port limit backlog heq
    obtain ⟨c, c', -, hc', -⟩ := hnew _ heq
    cases hc'

theorem Orderly.forget (h : n.Orderly) (id : SocketId) : (n.forget id).Orderly := by
  cases hsocket : n.socket? id with
  | none =>
    unfold Node.forget
    rw [hsocket]
    exact h
  | some s =>
    refine h.retire hsocket (socket?_forget n id) (nextId_profile_forget n id).1 ?_ ?_
    · unfold Node.forget
      rw [hsocket]
    · intro s' hs'
      cases hs'

theorem Orderly.forgetAll (h : n.Orderly) (ids : List SocketId) :
    (ids.foldl Node.forget n).Orderly := by
  induction ids generalizing n with
  | nil => exact h
  | cons first rest ih => exact ih (h.forget first)

theorem Orderly.release (h : n.Orderly) (id : SocketId) : (n.release id).Orderly := by
  unfold Node.release
  split
  · exact (h.forget id).forgetAll _
  · exact h

/-- Connections that ended have left the port table already. -/
theorem Orderly.discard {ids : List SocketId} (h : n.Orderly)
    (hended : ∀ id ∈ ids, ∀ s, n.socket? id = some s →
      ∃ c, s = .connection c ∧ c.phase.isClosed = true) : (n.discard ids).Orderly := by
  have hkept : ∀ {id s}, (n.discard ids).socket? id = some s → n.socket? id = some s := by
    intro id s hs
    rw [socket?_discard] at hs
    split at hs
    · cases hs
    · exact hs
  have hlistener : ∀ id port limit backlog,
      (n.discard ids).socket? id = some (.listener port limit backlog) ↔
        n.socket? id = some (.listener port limit backlog) := by
    intro id port limit backlog
    refine ⟨hkept, fun hs => ?_⟩
    rw [socket?_discard, if_neg]
    · exact hs
    · intro hmem
      obtain ⟨c, hc, -⟩ := hended id hmem _ hs
      cases hc
  -- What is discarded owned no port and held no connection.
  have hown : ∀ id, (n.discard ids).owned? id = n.owned? id := by
    intro id
    unfold owned?
    rw [socket?_discard]
    split
    · next hmem =>
      cases hs : n.socket? id with
      | none => rfl
      | some s =>
        obtain ⟨c, rfl, hclosed⟩ := hended id hmem s hs
        exact (Socket.ownPort?_of_closed hclosed).symm
    · rfl
  have hheld : ∀ id identity, n.held? id = some identity →
      (n.discard ids).held? id = some identity := by
    intro id identity hheld
    obtain ⟨c, hc, hopen, hidentity⟩ := held?_eq_some_iff.mp hheld
    refine held?_eq_some_iff.mpr ⟨c, ?_, hopen, hidentity⟩
    rw [socket?_discard, if_neg]
    · exact hc
    · intro hmem
      obtain ⟨c', hc', hclosed⟩ := hended id hmem _ hc
      rw [Socket.connection.inj hc', hclosed] at hopen
      cases hopen
  refine ⟨fun id s hs => h.numbered id s (hkept hs), ?_, ?_, ?_, ?_, ?_⟩
  · intro port
    simp only [hown]
    exact h.claimed port
  · intro port id id'
    simp only [hown]
    exact h.exclusive port id id'
  · intro port id
    simp only [hlistener]
    exact h.listening port id
  · exact fun identity id hentry => hheld id identity (h.connected identity id hentry)
  · intro id port limit backlog hs child hchild
    obtain ⟨hlt, hspawned⟩ := h.queued id port limit backlog (hkept hs) child hchild
    exact ⟨hlt, fun s hs' => hspawned s (hkept hs')⟩

/-! ### Sockets that change -/

/-- A socket changes, and owns what it owned. -/
theorem Orderly.change_socket {s s' : Socket} (h : n.Orderly) (hsocket : n.socket? id = some s)
    (hsockets : ∀ id', n'.socket? id' = if id = id' then some s' else n.socket? id')
    (hnext : n'.nextId = n.nextId) (hown : s'.ownPort? = s.ownPort?)
    (hclaimed : ∀ port, n'.ports.isClaimed port = n.ports.isClaimed port)
    (hlistening : ∀ port id', n'.ports.listener? port = some id' ↔
      id' = id ∧ (∃ limit backlog, s' = .listener port limit backlog) ∨
        id' ≠ id ∧ n.ports.listener? port = some id')
    (hconnected : ∀ identity id', n'.ports.connection? identity = some id' →
      id' = id ∧ n'.held? id = some identity ∨
        id' ≠ id ∧ n.ports.connection? identity = some id')
    (hspawned : n.Spawned id → ∃ c, s' = .connection c ∧ c.origin = .spawned)
    (hqueue : ∀ port limit backlog, s' = .listener port limit backlog →
      ∀ child ∈ backlog, child < n'.nextId ∧ n'.Spawned child) : n'.Orderly := by
  have howned : n.owned? id = s'.ownPort? := (owned?_of_socket hsocket).trans hown.symm
  refine h.update hsockets ?_ (Nat.le_of_eq hnext.symm) ?_ ?_ ?_ hconnected ?_ ?_
  · intro _ _
    rw [hnext]
    exact h.numbered id s hsocket
  · intro port
    rw [hclaimed, h.claimed port]
    show _ ↔ s'.ownPort? = some port ∨ _
    rw [← howned]
    constructor
    · rintro ⟨id', hid'⟩
      by_cases hid : id' = id
      · rw [hid] at hid'
        exact Or.inl hid'
      · exact Or.inr ⟨id', hid, hid'⟩
    · rintro (hself | ⟨id', -, hid'⟩)
      · exact ⟨id, hself⟩
      · exact ⟨id', hid'⟩
  · intro port id' hself hne hid'
    exact hne (h.exclusive port id' id hid' (howned.trans hself))
  · intro port id'
    rw [hlistening port id']
    simp
  · intro _ hbefore s'' hs''
    rw [hsockets, if_pos rfl, Option.some.injEq] at hs''
    rw [← hs'']
    exact hspawned hbefore
  · intro port limit backlog heq
    exact hqueue port limit backlog (Option.some.inj heq)

/-- A new socket takes the next handle, and owns nothing yet. -/
theorem Orderly.add {s : Socket} (h : n.Orderly)
    (hsockets : ∀ id', n'.socket? id' = if n.nextId = id' then some s else n.socket? id')
    (hnext : n'.nextId = n.nextId + 1) (hown : s.ownPort? = none)
    (hother : ∀ port limit backlog, s ≠ .listener port limit backlog)
    (hclaimed : ∀ port, n'.ports.isClaimed port = n.ports.isClaimed port)
    (hlistening : ∀ port, n'.ports.listener? port = n.ports.listener? port)
    (hconnected : ∀ identity id', n'.ports.connection? identity = some id' →
      id' = n.nextId ∧ n'.held? n.nextId = some identity ∨
        id' ≠ n.nextId ∧ n.ports.connection? identity = some id') : n'.Orderly := by
  have hnone : n.owned? n.nextId = none := by simp [owned?, h.socket?_nextId]
  have hlt : n.nextId < n'.nextId := hnext ▸ Nat.lt_succ_self _
  refine h.update hsockets (fun _ _ => hlt) (Nat.le_of_lt hlt) ?_ ?_ ?_ hconnected ?_ ?_
  · intro port
    rw [hclaimed, h.claimed port]
    show _ ↔ s.ownPort? = some port ∨ _
    rw [hown]
    constructor
    · rintro ⟨id', hid'⟩
      refine Or.inr ⟨id', fun hid => ?_, hid'⟩
      rw [hid, hnone] at hid'
      cases hid'
    · rintro (hself | ⟨id', -, hid'⟩)
      · cases hself
      · exact ⟨id', hid'⟩
  · intro port id' hself
    rw [show (some s).bind Socket.ownPort? = none from hown] at hself
    cases hself
  · intro port id'
    rw [hlistening]
    constructor
    · intro hentry
      refine Or.inr ⟨fun hid => ?_, hentry⟩
      have howner := h.owned?_of_listener? hentry
      rw [hid, hnone] at howner
      cases howner
    · rintro (⟨-, limit, backlog, heq⟩ | ⟨-, hentry⟩)
      · exact absurd (Option.some.inj heq) (hother port limit backlog)
      · exact hentry
  · exact fun hbelow => absurd hbelow (Nat.lt_irrefl _)
  · intro port limit backlog heq
    exact absurd (Option.some.inj heq) (hother port limit backlog)

/-- A fresh socket is no spawned connection. -/
theorem not_spawned_of_fresh {own : Option UInt16} (hsocket : n.socket? id = some (.fresh own)) :
    ¬ n.Spawned id := by
  intro hspawned
  obtain ⟨c, hc, -⟩ := hspawned _ hsocket
  cases hc

/-- While the connections in the port table stay, a socket that is none has no
    entry. -/
theorem Orderly.connected_of_not_connection {s : Socket} (h : n.Orderly)
    (hsocket : n.socket? id = some s) (hother : ∀ c, s ≠ .connection c)
    (hentry : n.ports.connection? identity = some id') : id' ≠ id :=
  h.ne_of_connection? (fun _ => held?_of_not_connection hsocket hother) hentry

theorem Orderly.bound {ports : PortTable} (h : n.Orderly)
    (hsocket : n.socket? id = some (.fresh none)) (hclaim : n.ports.claim? port = some ports) :
    Orderly { n.withSocket id (.fresh (some port)) with ports } := by
  obtain ⟨hfree, hclaimed⟩ := PortTable.isClaimed_claim? hclaim
  obtain ⟨hlistener?, hconnection?⟩ := PortTable.views_of_claim? hclaim
  have hunowned : ∀ id, n.owned? id ≠ some port := by
    intro id hown
    rw [(h.claimed port).mpr ⟨id, hown⟩] at hfree
    cases hfree
  have hnone : n.owned? id = none := owned?_of_socket hsocket
  have hsockets : ∀ id', (n.withSocket id (.fresh (some port))).socket? id' =
      if id = id' then some (.fresh (some port)) else n.socket? id' :=
    fun id' => socket?_withSocket n id id' _
  refine h.update hsockets ?_ (Nat.le_refl _) ?_ ?_ ?_ ?_ ?_ nofun
  · exact fun _ _ => h.numbered id _ hsocket
  · intro port'
    show ports.isClaimed port' = true ↔ some port = some port' ∨ _
    rw [hclaimed, h.claimed port', Option.some.injEq, eq_comm]
    refine or_congr Iff.rfl ⟨?_, ?_⟩
    · rintro ⟨id', hid'⟩
      refine ⟨id', fun hid => ?_, hid'⟩
      rw [hid, hnone] at hid'
      cases hid'
    · rintro ⟨id', -, hid'⟩
      exact ⟨id', hid'⟩
  · intro port' id' hself _
    rw [← Option.some.inj hself]
    exact hunowned id'
  · intro port' id'
    show ports.listener? port' = some id' ↔ _
    rw [hlistener?]
    constructor
    · intro hentry
      refine Or.inr ⟨fun hid => ?_, hentry⟩
      have howner := h.owned?_of_listener? hentry
      rw [hid, hnone] at howner
      cases howner
    · rintro (⟨-, limit, backlog, heq⟩ | ⟨-, hentry⟩)
      · cases heq
      · exact hentry
  · intro identity id' hentry
    have hbefore := (hconnection? identity).symm.trans hentry
    exact Or.inr ⟨h.connected_of_not_connection hsocket (fun c hc => by cases hc) hbefore, hbefore⟩
  · exact fun _ hspawned => absurd hspawned (not_spawned_of_fresh hsocket)

theorem Orderly.listen (h : n.Orderly) (hsocket : n.socket? id = some (.fresh (some port)))
    (limit : Nat) :
    Orderly { n.withSocket id (.listener port limit []) with ports := n.ports.listen port id } := by
  have hown : n.owned? id = some port := owned?_of_socket hsocket
  refine h.change_socket hsocket (socket?_withSocket n id · _) rfl rfl (fun _ => rfl) ?_ ?_ ?_ ?_
  · intro port' id'
    show (n.ports.listen port id).listener? port' = some id' ↔ _
    rw [PortTable.listener?_listen]
    by_cases hport : port = port'
    · subst hport
      -- Nobody else can have listened on the port.
      have hnobody : id' ≠ id → n.ports.listener? port ≠ some id' :=
        fun hne hentry => hne (h.exclusive port id' id (h.owned?_of_listener? hentry) hown)
      by_cases hid : id' = id
      · simp [hid]
      · simp [hid, hnobody hid, Ne.symm hid]
    · have hnot : ∀ limit' backlog, Socket.listener port limit [] ≠ .listener port' limit' backlog :=
        fun _ _ heq => hport (Socket.listener.inj heq).1
      by_cases hid : id' = id
      · have hnone : n.ports.listener? port' ≠ some id := by
          intro hentry
          have howner := h.owned?_of_listener? hentry
          rw [hown] at howner
          exact hport (Option.some.inj howner)
        simp [hport, hid, hnone]
      · simp [hport, hid]
  · exact fun identity id' hentry =>
      Or.inr ⟨h.connected_of_not_connection hsocket (fun c hc => by cases hc) hentry, hentry⟩
  · exact fun hspawned => absurd hspawned (not_spawned_of_fresh hsocket)
  · intro port' limit' backlog heq child hchild
    rw [← (Socket.listener.inj heq).2.2] at hchild
    cases hchild

/-- A queue takes in spawned connections only. -/
theorem Orderly.requeue {limit : Nat} {backlog backlog' : List SocketId} (h : n.Orderly)
    (hsocket : n.socket? id = some (.listener port limit backlog))
    (hsockets : ∀ id', n'.socket? id' =
      if id = id' then some (.listener port limit backlog') else n.socket? id')
    (hports : n'.ports = n.ports) (hnext : n'.nextId = n.nextId)
    (hqueue : ∀ child ∈ backlog', child < n.nextId ∧ n.Spawned child) : n'.Orderly := by
  have hnot : ¬ n.Spawned id := by
    intro hspawned
    obtain ⟨c, hc, -⟩ := hspawned _ hsocket
    cases hc
  refine h.change_socket hsocket hsockets hnext rfl ?_ ?_ ?_ ?_ ?_
  · intro port'
    rw [hports]
  · intro port' id'
    rw [hports]
    by_cases hid : id' = id
    · rw [hid, h.listening port' id, hsocket]
      simp only [Option.some.injEq, Socket.listener.injEq]
      constructor
      · rintro ⟨limit', queue, hport, -, -⟩
        exact Or.inl ⟨trivial, limit, backlog', hport, rfl, rfl⟩
      · rintro (⟨-, limit', queue, hport, -, -⟩ | ⟨hne, -⟩)
        · exact ⟨limit, backlog, hport, rfl, rfl⟩
        · exact absurd rfl hne
    · simp [hid]
  · intro identity id' hentry
    rw [hports] at hentry
    exact Or.inr ⟨h.connected_of_not_connection hsocket (fun c hc => by cases hc) hentry, hentry⟩
  · exact fun hspawned => absurd hspawned hnot
  · intro port' limit' queue heq child hchild
    rw [← (Socket.listener.inj heq).2.2] at hchild
    obtain ⟨hlt, hspawned⟩ := hqueue child hchild
    refine ⟨hnext.symm ▸ hlt, fun s hs => ?_⟩
    rw [hsockets] at hs
    split at hs
    · next hid =>
      rw [hid] at hnot
      exact absurd hspawned hnot
    · exact hspawned s hs

/-- Whoever opens a connection takes its entry over. -/
theorem connected_of_connect {c : Connection} (id : SocketId)
    (hports : n'.ports = n.ports.connect c.identity id)
    (hself : n'.socket? id = some (.connection c)) (hopen : c.phase.isClosed = false)
    (hnone : ∀ identity, n.ports.connection? identity ≠ some id)
    (hentry : n'.ports.connection? identity = some id') :
    id' = id ∧ n'.held? id = some identity ∨ id' ≠ id ∧ n.ports.connection? identity = some id' := by
  rw [hports, PortTable.connection?_connect] at hentry
  split at hentry
  · next hidentity =>
    exact Or.inl ⟨(Option.some.inj hentry).symm,
      held?_eq_some_iff.mpr ⟨c, hself, hopen, hidentity⟩⟩
  · refine Or.inr ⟨fun hid => ?_, hentry⟩
    rw [hid] at hentry
    exact hnone identity hentry

theorem Orderly.connecting {c : Connection} (h : n.Orderly)
    (hsocket : n.socket? id = some (.fresh (some port)))
    (hsockets : ∀ id', n'.socket? id' = if id = id' then some (.connection c) else n.socket? id')
    (hnext : n'.nextId = n.nextId) (hports : n'.ports = n.ports.connect c.identity id)
    (hport : c.identity.localPort = port) (horigin : c.origin = .opened)
    (hopen : c.phase.isClosed = false) : n'.Orderly := by
  have hunlisted : ∀ port, n.ports.listener? port ≠ some id := by
    intro port' hentry
    obtain ⟨limit, backlog, hs⟩ := (h.listening port' id).mp hentry
    rw [hsocket] at hs
    cases hs
  refine h.change_socket hsocket hsockets hnext ?_ ?_ ?_ ?_ ?_ nofun
  · simp [Socket.ownPort?, horigin, hopen, hport]
  · intro port'
    rw [hports]
    rfl
  · intro port' id'
    rw [hports]
    show n.ports.listener? port' = some id' ↔ _
    by_cases hid : id' = id
    · simp [hid, hunlisted]
    · simp [hid]
  · intro identity id' hentry
    refine connected_of_connect id hports ((hsockets id).trans (if_pos rfl)) hopen ?_ hentry
    exact fun identity hbefore =>
      h.connected_of_not_connection hsocket (fun c hc => by cases hc) hbefore rfl
  · exact fun hspawned => absurd hspawned (not_spawned_of_fresh hsocket)

/-- A spawned connection enters, and then the queue of its listener. -/
theorem Orderly.spawn {c : Connection} {limit : Nat} {backlog : List SocketId} (h : n.Orderly)
    (hsocket : n.socket? id = some (.listener port limit backlog))
    (horigin : c.origin = .spawned) (hopen : c.phase.isClosed = false) :
    Orderly { (n.withSocket id (.listener port limit (backlog ++ [n.nextId]))).withSocket n.nextId
        (.connection c) with
      ports := n.ports.connect c.identity n.nextId
      nextId := n.nextId + 1 } := by
  have hne : n.nextId ≠ id := fun heq => Nat.lt_irrefl _ (heq ▸ h.numbered id _ hsocket)
  have hnone := h.socket?_nextId
  have hentered : Orderly { n.withSocket n.nextId (.connection c) with
      ports := n.ports.connect c.identity n.nextId
      nextId := n.nextId + 1 } := by
    refine h.add (s := .connection c) (socket?_withSocket n n.nextId · _) rfl ?_ nofun
      (fun _ => rfl) (fun _ => rfl) ?_
    · simp [Socket.ownPort?, horigin]
    · intro identity id' hentry
      refine connected_of_connect n.nextId rfl
        ((socket?_withSocket n n.nextId n.nextId _).trans (if_pos rfl)) hopen ?_ hentry
      intro identity hbefore
      obtain ⟨c', hc', -⟩ := held?_eq_some_iff.mp (h.connected identity _ hbefore)
      rw [hnone] at hc'
      cases hc'
  have hlistener : (n.withSocket n.nextId (.connection c)).socket? id =
      some (.listener port limit backlog) := by
    rw [socket?_withSocket, if_neg hne]
    exact hsocket
  have hsockets : ∀ id', ((n.withSocket id (.listener port limit (backlog ++ [n.nextId]))).withSocket
      n.nextId (.connection c)).socket? id' =
        if id = id' then some (.listener port limit (backlog ++ [n.nextId]))
        else (n.withSocket n.nextId (.connection c)).socket? id' := by
    intro id'
    simp only [socket?_withSocket]
    by_cases hid : n.nextId = id'
    · have : id ≠ id' := fun heq => hne (hid.trans heq.symm)
      simp [hid, this]
    · simp [hid]
  refine hentered.requeue hlistener hsockets rfl rfl ?_
  intro child hchild
  rcases List.mem_append.mp hchild with hold | hnew
  · obtain ⟨hlt, hspawned⟩ := h.queued id port limit backlog hsocket child hold
    refine ⟨Nat.lt_succ_of_lt hlt, fun s hs => hspawned s ?_⟩
    have hs' : (n.withSocket n.nextId (.connection c)).socket? child = some s := hs
    rw [socket?_withSocket, if_neg (Nat.ne_of_gt hlt)] at hs'
    exact hs'
  · rw [List.mem_singleton.mp hnew]
    refine ⟨Nat.lt_succ_self _, fun s hs => ⟨c, ?_, horigin⟩⟩
    have hs' : (n.withSocket n.nextId (.connection c)).socket? n.nextId = some s := hs
    rw [socket?_withSocket, if_pos rfl] at hs'
    exact (Option.some.inj hs').symm

/-- A connection moves. One that comes to its end leaves the port table. -/
theorem Orderly.settle {c c' : Connection} (h : n.Orderly)
    (hsocket : n.socket? id = some (.connection c)) (hfollows : c.Follows c') :
    (n.settle id c c').Orderly := by
  have hsockets := fun id' => socket?_settle n id id' c c'
  have hnext := (nextId_profile_settle n id c c').1
  by_cases hended : c'.phase.isClosed = c.phase.isClosed
  · have hports : (n.settle id c c').ports = n.ports := by
      rw [settle_eq_withSocket hended]
      rfl
    refine h.change_socket hsocket hsockets hnext ?_ ?_ ?_ ?_ ?_ nofun
    · simp [Socket.ownPort?, hended, hfollows.identity, hfollows.origin]
    · intro port
      rw [hports]
    · intro port id'
      rw [hports]
      by_cases hid : id' = id
      · simp [hid, h.listening port id, hsocket]
      · simp [hid]
    · intro identity id' hentry
      rw [hports] at hentry
      by_cases hid : id' = id
      · rw [hid] at hentry
        obtain ⟨c₀, hc₀, hopen, hidentity⟩ := held?_eq_some_iff.mp (h.connected identity id hentry)
        rw [hsocket, Option.some.injEq, Socket.connection.injEq] at hc₀
        subst hc₀
        refine Or.inl ⟨hid, held?_eq_some_iff.mpr ⟨c', (hsockets id).trans (if_pos rfl), ?_, ?_⟩⟩
        · rw [hended]
          exact hopen
        · rw [hfollows.identity]
          exact hidentity
      · exact Or.inr ⟨hid, hentry⟩
    · intro hspawned
      obtain ⟨c₀, hc₀, horigin⟩ := hspawned _ hsocket
      rw [Socket.connection.injEq] at hc₀
      subst hc₀
      exact ⟨c', rfl, hfollows.origin.trans horigin⟩
  · -- Only a connection that was open can come to its end.
    have hbefore : c.phase.isClosed = false := by
      cases hclosed : c.phase.isClosed with
      | false => rfl
      | true => exact absurd ((hfollows.closed hclosed).trans hclosed.symm) hended
    have hafter : c'.phase.isClosed = true := by
      cases hclosed : c'.phase.isClosed with
      | true => rfl
      | false => exact absurd (hclosed.trans hbefore.symm) hended
    refine h.retire hsocket hsockets hnext ?_ ?_
    · simp only [Node.settle, portsWithout, hbefore, hafter]
      rfl
    · intro s' hs'
      exact ⟨c, c', rfl, (Option.some.inj hs').symm, hfollows.origin, hafter⟩

/-- A connection is handed out, and those before it that ended are discarded. -/
theorem Orderly.accepted {limit : Nat} {backlog : List SocketId} (h : n.Orderly)
    (hsocket : n.socket? id = some (.listener port limit backlog)) :
    ((n.withSocket id (.listener port limit (backlog.dropWhile n.isClosed).tail)).discard
      (backlog.takeWhile n.isClosed)).Orderly := by
  have hqueued := h.queued id port limit backlog hsocket
  have hrequeued : (n.withSocket id
      (.listener port limit (backlog.dropWhile n.isClosed).tail)).Orderly := by
    refine h.requeue hsocket (socket?_withSocket n id · _) rfl rfl ?_
    intro child hchild
    have hdropped : child ∈ backlog.dropWhile n.isClosed := List.mem_of_mem_tail hchild
    exact hqueued child ((List.dropWhile_sublist _).subset hdropped)
  refine hrequeued.discard ?_
  intro ended hmem s hs
  obtain ⟨-, hspawned⟩ := hqueued ended (List.takeWhile_subset _ hmem)
  have hclosed : n.isClosed ended = true := List.all_eq_true.mp List.all_takeWhile ended hmem
  rw [socket?_withSocket] at hs
  split at hs
  · next hid =>
    obtain ⟨c, hc, -⟩ := hspawned _ (hid ▸ hsocket)
    cases hc
  · obtain ⟨c, rfl, -⟩ := hspawned s hs
    refine ⟨c, rfl, ?_⟩
    simp only [isClosed, state, hs, Option.map_some, Option.getD_some, Socket.state,
      beq_iff_eq] at hclosed
    cases hphase : c.phase with
    | closed r => rfl
    | _ =>
      rw [hphase] at hclosed
      cases hclosed

/-! ### Runs -/

theorem orderly_create {addr : NodeAddr} {settings : Settings}
    (hcreate : Node.create addr settings = .ok n) : n.Orderly := by
  have hnone := socket?_of_create hcreate
  obtain ⟨profile, -, hn⟩ := exists_of_map_eq_ok hcreate
  have hports : n.ports = .empty := by rw [← hn]
  refine ⟨?_, ?_, ?_, ?_, ?_, ?_⟩
  · intro id s hs
    rw [hnone] at hs
    cases hs
  · intro port
    simp [hports, PortTable.isClaimed, PortTable.empty, owned?, hnone]
  · intro port id id' hown
    simp [owned?, hnone] at hown
  · intro port id
    simp [hports, PortTable.listener?, PortTable.empty, hnone]
  · intro identity id hentry
    rw [hports] at hentry
    cases hentry
  · intro id port limit backlog hs
    rw [hnone] at hs
    cases hs

theorem Orderly.change {input : Input} {effects : List Effect} (h : n.Orderly)
    (hchange : n.Change now input n' effects) : n'.Orderly := by
  cases hchange with
  | unmoved => exact h
  | reset => exact h
  | created =>
    refine h.add (s := .fresh none) (socket?_withSocket n n.nextId · _) rfl rfl nofun
      (fun _ => rfl) (fun _ => rfl) ?_
    intro identity id' hentry
    refine Or.inr ⟨fun hid => ?_, hentry⟩
    obtain ⟨c, hc, -⟩ := held?_eq_some_iff.mp (h.connected identity id' hentry)
    rw [hid, h.socket?_nextId] at hc
    cases hc
  | bound hsocket hclaim => exact h.bound hsocket hclaim
  | listening hsocket => exact h.listen hsocket _
  | connecting hsocket hopened =>
    obtain ⟨⟨stats, rfl⟩, -, -⟩ := Connection.eq_of_request hopened
    exact h.connecting hsocket (socket?_withSocket n _ · _) rfl rfl rfl rfl rfl
  | accepted hsocket => exact h.accepted hsocket
  | released => exact h.release _
  | @spawned packet s id port limit backlog c _ _ hroute hsocket _ hopened =>
    obtain ⟨⟨stats, rfl⟩, -, -⟩ := Connection.eq_of_answer hopened
    exact h.spawn hsocket rfl rfl
  | moved _ hsocket hrespond => exact h.settle hsocket (Connection.follows_of_respond hrespond)

/-- A handle that was handed out and has no socket keeps none. -/
theorem Change.socket?_of_none {input : Input} {effects : List Effect}
    (hchange : n.Change now input n' effects) (hnone : n.socket? id = none)
    (hlt : id < n.nextId) : n'.socket? id = none := by
  have hput : ∀ {acting s s'}, n.socket? acting = some s →
      (n.withSocket acting s').socket? id = none := by
    intro acting s s' hsocket
    rw [socket?_withSocket, if_neg]
    · exact hnone
    · intro hid
      rw [hid, hnone] at hsocket
      cases hsocket
  cases hchange with
  | unmoved => exact hnone
  | reset => exact hnone
  | created =>
    refine (socket?_withSocket n n.nextId id _).trans ?_
    rw [if_neg (Nat.ne_of_gt hlt)]
    exact hnone
  | bound hsocket => exact hput hsocket
  | listening hsocket => exact hput hsocket
  | connecting hsocket => exact hput hsocket
  | accepted hsocket =>
    rw [socket?_discard]
    split
    · rfl
    · exact hput hsocket
  | @released _ acting _ _ _ =>
    cases hafter : (n.release acting).socket? id with
    | none => rfl
    | some s =>
      rw [(socket?_of_release hafter).1] at hnone
      cases hnone
  | spawned _ _ hsocket =>
    refine (socket?_withSocket _ n.nextId id _).trans ?_
    rw [if_neg (Nat.ne_of_gt hlt)]
    exact hput hsocket
  | moved _ hsocket =>
    rw [socket?_settle, ← socket?_withSocket]
    exact hput hsocket

/-- No run of a node gives a socket to the handle. -/
def Spent (n : Node) (id : SocketId) : Prop :=
  ∀ inputs, ∀ m ∈ n.history inputs, m.socket? id = none

theorem spent_of_none (hnone : n.socket? id = none) (hlt : id < n.nextId) : n.Spent id := by
  intro inputs m hm
  refine (forall_mem_history (P := fun m => m.socket? id = none ∧ id < m.nextId) ⟨hnone, hlt⟩
    ?_ inputs m hm).1
  rintro before after now input effects ⟨hbefore, hbelow⟩ hreact
  have hchange := change_of_react hreact
  exact ⟨hchange.socket?_of_none hbefore hbelow, Nat.lt_of_lt_of_le hbelow hchange.nextId_le⟩

/-- The handles that were handed out stay handed out. -/
theorem nextId_le_of_mem_history (inputs : List (Duration × Input)) :
    ∀ m ∈ n.history inputs, n.nextId ≤ m.nextId := by
  refine forall_mem_history (P := fun m => n.nextId ≤ m.nextId) (Nat.le_refl _) ?_ inputs
  intro before after now input effects hle hreact
  exact Nat.le_trans hle (change_of_react hreact).nextId_le

/-! ### The result -/

/-- The port table is accurate: ports are owned by one socket at most, every
    entry names a socket that is what the entry says, and so whatever is routed
    to a socket finds it. -/
structure Accurate (n : Node) : Prop where
  /-- Exactly the ports with an owner are claimed. -/
  claimed : ∀ port, n.ports.isClaimed port = true ↔
    ∃ id, n.owned? id = some port ∧ ∀ id', n.owned? id' = some port → id' = id
  exclusive : ∀ port id id', n.owned? id = some port → n.owned? id' = some port → id = id'
  /-- Exactly the listeners are listed, each under the port it owns. -/
  listening : ∀ port id, n.ports.listener? port = some id ↔
    n.owned? id = some port ∧ ∃ limit backlog, n.socket? id = some (.listener port limit backlog)
  /-- A listed connection is not closed, and has the identity of its entry. -/
  connected : ∀ identity id, n.ports.connection? identity = some id →
    ∃ c, n.socket? id = some (.connection c) ∧ c.identity = identity ∧
      (c.phase.state = .synSent ∨ c.phase.state = .established ∨ c.phase.state = .shutdown)
  /-- A request goes to a listener on its port. -/
  requested : ∀ segment src id, n.ports.route segment src = .listener id →
    ∃ limit backlog, n.socket? id = some (.listener segment.dstPort limit backlog)
  /-- Any other segment that goes to a socket goes to a connection. -/
  delivered : ∀ segment src id, n.ports.route segment src = .connection id →
    ∃ c, n.socket? id = some (.connection c) ∧ c.identity = PortTable.identityOf segment src

theorem Orderly.accurate (h : n.Orderly) : n.Accurate where
  claimed port := by
    rw [h.claimed port]
    constructor
    · rintro ⟨id, hown⟩
      exact ⟨id, hown, fun id' hown' => h.exclusive port id' id hown' hown⟩
    · rintro ⟨id, hown, -⟩
      exact ⟨id, hown⟩
  exclusive := h.exclusive
  listening port id :=
    ⟨fun hentry => ⟨h.owned?_of_listener? hentry, (h.listening port id).mp hentry⟩,
      fun hlistener => (h.listening port id).mpr hlistener.2⟩
  connected identity id hentry := by
    obtain ⟨c, hc, hopen, hidentity⟩ := held?_eq_some_iff.mp (h.connected identity id hentry)
    refine ⟨c, hc, hidentity, ?_⟩
    cases hphase : c.phase with
    | synSent => exact Or.inl rfl
    | established => exact Or.inr (Or.inl rfl)
    | shutdown => exact Or.inr (Or.inr rfl)
    | closed =>
      rw [hphase] at hopen
      cases hopen
  requested segment src id hroute :=
    (h.listening segment.dstPort id).mp (route_eq_listener hroute).2
  delivered segment src id hroute := by
    have hentry := route_eq_connection hroute
    obtain ⟨c, hc, -, hidentity⟩ := held?_eq_some_iff.mp (h.connected _ id hentry)
    exact ⟨c, hc, hidentity⟩

/-- **The port table never dangles.** In every state of a run from a new node
    the port table is accurate. A handle in use was handed out before, and one
    whose socket was released or discarded never denotes a socket again. -/
theorem accurate_of_history {addr : NodeAddr} {settings : Settings}
    (hcreate : Node.create addr settings = .ok n) (inputs : List (Duration × Input)) :
    ∀ m ∈ n.history inputs, m.Accurate ∧ ∀ id s, m.socket? id = some s →
      id < m.nextId ∧
        ∀ later, ∀ m' ∈ m.history later, m'.socket? id = none → m'.Spent id := by
  intro m hm
  have horderly : m.Orderly :=
    forall_mem_history (orderly_create hcreate)
      (fun _ _ _ _ _ h hreact => h.change (change_of_react hreact)) inputs m hm
  refine ⟨horderly.accurate, fun id s hs => ?_⟩
  have hlt := horderly.numbered id s hs
  refine ⟨hlt, fun later m' hm' hnone => spent_of_none hnone ?_⟩
  exact Nat.lt_of_lt_of_le hlt (nextId_le_of_mem_history later m' hm')

/-- The new owner of a port asks for a connection that an accepted socket still
    holds, and that socket is released. -/
def takeover : List (Duration × Input) :=
  rebinding ++ [(.zero, .call (.connect 3 9 5000)), (.zero, .call (.release 2))]

/-- In the takeover the entry stays with the socket that has it now, although
    the one that had it before is gone. -/
theorem accurate_of_takeover : ∃ n, Node.create 1 { mss := 4, bufferSize := 8 } = .ok n ∧
    ∃ m ∈ n.history takeover, m.ports.connection? ⟨80, 9, 5000⟩ = some 3 ∧
      m.owned? 3 = some 80 ∧ m.socket? 2 = none ∧ m.Accurate := by
  have hcreate : Node.create 1 { mss := 4, bufferSize := 8 } = .ok _ := rfl
  refine ⟨_, hcreate, _, List.getLast_mem (List.cons_ne_nil _ _), by decide +kernel,
    by decide +kernel, Option.isNone_iff_eq_none.mp (by decide +kernel), ?_⟩
  exact (accurate_of_history hcreate takeover _ (List.getLast_mem (List.cons_ne_nil _ _))).1

end Node

end ReliableStream
