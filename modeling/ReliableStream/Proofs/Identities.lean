import ReliableStream.Proofs.Lineage
import ReliableStream.Proofs.NodeRuns
/-! # Who holds a connection

    A socket **holds** the identity of its connection until the connection is
    closed. A node is **well routed** if no two sockets hold the same identity
    and every segment for a held identity reaches its holder.

    A spawned connection outlives the listener it came from, and the port goes
    back with the listener: the next owner of the port may ask for a connection
    that is still held. The request takes the entry of the port table over, and
    the former holder is cut off. Nothing else can go wrong: a run stays well
    routed exactly as long as nobody asks for a held identity. -/

namespace ReliableStream

/-! ### The port table through its views -/

namespace PortTable

variable {t : PortTable} {port port' : UInt16} {id id' : SocketId} {identity identity' : Identity}

theorem connection?_connect (t : PortTable) (identity identity' : Identity) (id : SocketId) :
    (t.connect identity id).connection? identity' =
      if identity = identity' then some id else t.connection? identity' :=
  Table.get?_put ..

theorem connection?_disconnect (h : t.connection? identity' = some id') (hne : id' ≠ id) :
    (t.disconnect identity id).connection? identity' = some id' := by
  unfold disconnect
  split
  · next hheld =>
    have hother : identity ≠ identity' := by
      rintro rfl
      exact hne (Option.some.inj (h.symm.trans hheld))
    show (t.connections.erase identity).get? identity' = some id'
    rw [Table.get?_erase, if_neg hother]
    exact h
  · exact h

/-- What another socket holds stays when one leaves. -/
theorem connection?_vacate {origin : Origin} (h : t.connection? identity' = some id')
    (hne : id' ≠ id) : (t.vacate id identity origin).connection? identity' = some id' := by
  cases origin with
  | opened => exact connection?_disconnect h hne
  | spawned => exact connection?_disconnect h hne

theorem listener?_free (t : PortTable) (port port' : UInt16) :
    (t.free port).listener? port' = if port = port' then none else t.listener? port' :=
  Table.get?_erase ..

theorem listener?_listen (t : PortTable) (port port' : UInt16) (id : SocketId) :
    (t.listen port id).listener? port' = if port = port' then some id else t.listener? port' :=
  Table.get?_put ..

theorem listener?_of_free (h : (t.free port).listener? port' = some id) :
    t.listener? port' = some id ∧ port' ≠ port := by
  rw [listener?_free] at h
  split at h
  · cases h
  · next hne => exact ⟨h, Ne.symm hne⟩

theorem listener?_disconnect (t : PortTable) (identity : Identity) (id : SocketId) (port : UInt16) :
    (t.disconnect identity id).listener? port = t.listener? port := by
  unfold disconnect
  split <;> rfl

theorem listener?_of_vacate {origin : Origin}
    (h : (t.vacate id identity origin).listener? port = some id') :
    t.listener? port = some id' := by
  cases origin with
  | opened =>
    have hbefore := (listener?_of_free h).1
    rw [listener?_disconnect] at hbefore
    exact hbefore
  | spawned =>
    rw [← listener?_disconnect t identity id port]
    exact h

/-- Claiming a port leaves the listeners and the connections as they are. -/
theorem views_of_claim? {t' : PortTable} (h : t.claim? port = some t') :
    (∀ port, t'.listener? port = t.listener? port) ∧
      ∀ identity, t'.connection? identity = t.connection? identity := by
  unfold claim? at h
  split at h
  · cases h
  · cases h
    exact ⟨fun _ => rfl, fun _ => rfl⟩

end PortTable

namespace Node

variable {n n' : Node} {now : Duration} {id id' : SocketId} {identity : Identity}

/-! ### Holders -/

/-- The identity that a socket holds, if its connection is not closed. -/
def held? (n : Node) (id : SocketId) : Option Identity :=
  match n.socket? id with
  | some (.connection c) => if c.phase.isClosed then none else some c.identity
  | _ => none

theorem held?_eq_some_iff : n.held? id = some identity ↔
    ∃ c, n.socket? id = some (.connection c) ∧ c.phase.isClosed = false ∧
      c.identity = identity := by
  unfold held?
  constructor
  · intro h
    split at h
    · next c hsocket =>
      split at h
      · cases h
      · next hopen =>
        cases h
        exact ⟨c, hsocket, Bool.not_eq_true _ ▸ hopen, rfl⟩
    · cases h
  · rintro ⟨c, hsocket, hopen, rfl⟩
    rw [hsocket]
    simp only [hopen]
    rfl

/-- What a socket holds depends on nothing but the socket. -/
theorem held?_congr (h : n'.socket? id = n.socket? id) : n'.held? id = n.held? id := by
  unfold held?
  rw [h]

/-- Identities are unique, and every segment for a held identity reaches its
    holder. -/
structure WellRouted (n : Node) : Prop where
  unique : ∀ id id' identity, n.held? id = some identity → n.held? id' = some identity → id = id'
  entry : ∀ id identity, n.held? id = some identity → n.ports.connection? identity = some id
  delivered : ∀ id identity packet s now, n.held? id = some identity → packet.ttl ≠ 0 →
    packet.segment? = some s → PortTable.identityOf s packet.src = identity →
    n.onPacket packet now = n.onConnectionSegment id s now

/-- A socket asks for a connection whose identity is held. -/
def Clashes (n : Node) : Input → Prop
  | .call (.connect id remoteAddr remotePort) =>
    ∃ port holder, n.socket? id = some (.fresh (some port)) ∧
      n.held? holder = some ⟨port, remoteAddr, remotePort⟩
  | _ => False

/-! ### Runs -/

/-- No input of a run clashes. -/
def ClashFree (n : Node) : List (Duration × Input) → Prop
  | [] => True
  | (now, input) :: rest =>
    ¬ n.Clashes input ∧
      match n.react now input with
      | .ok (n', _) => n'.ClashFree rest
      | .error _ => True

/-! ### The invariant -/

/-- The port table knows every holder, and nobody but listeners listen. -/
structure Tidy (n : Node) : Prop where
  numbered : n.Numbered
  entry : ∀ id identity, n.held? id = some identity → n.ports.connection? identity = some id
  listener : ∀ port id, n.ports.listener? port = some id →
    ∃ limit backlog, n.socket? id = some (.listener port limit backlog)

theorem Tidy.wellRouted (h : n.Tidy) : n.WellRouted where
  unique id id' identity hid hid' :=
    Option.some.inj ((h.entry id identity hid).symm.trans (h.entry id' identity hid'))
  entry := h.entry
  delivered id identity packet s now hid httl hsegment hidentity := by
    have hroute : n.ports.route s packet.src = .connection id := by
      unfold PortTable.route
      rw [hidentity, h.entry id identity hid]
    unfold onPacket
    rw [if_neg httl]
    simp only [hsegment]
    unfold onSegment
    rw [hroute]

/-- A socket that is no listener is none in the port table. -/
theorem Tidy.not_listener {port : UInt16} {s : Socket} (h : n.Tidy)
    (hsocket : n.socket? id = some s)
    (hother : ∀ port limit backlog, s ≠ .listener port limit backlog) :
    n.ports.listener? port ≠ some id := by
  intro hlistener
  obtain ⟨limit, backlog, hs⟩ := h.listener port id hlistener
  rw [hsocket] at hs
  exact hother port limit backlog (Option.some.inj hs)

/-- What has to be shown of a change at one socket: the port table knows what
    it holds and what the others hold, and whoever listens. -/
theorem Tidy.update {s : Socket} (h : n.Tidy)
    (hsockets : ∀ id', n'.socket? id' = if id = id' then some s else n.socket? id')
    (hlt : id < n'.nextId) (hnext : n.nextId ≤ n'.nextId)
    (hself : ∀ identity, n'.held? id = some identity → n'.ports.connection? identity = some id)
    (hothers : ∀ id' identity, id' ≠ id → n.held? id' = some identity →
      n.ports.connection? identity = some id' → n'.ports.connection? identity = some id')
    (hlisteners : ∀ port id', n'.ports.listener? port = some id' →
      id' = id ∧ (∃ limit backlog, s = .listener port limit backlog) ∨
        id' ≠ id ∧ n.ports.listener? port = some id') : n'.Tidy where
  numbered := by
    intro id' s' hs'
    rw [hsockets] at hs'
    split at hs'
    · next hid => exact hid ▸ hlt
    · exact Nat.lt_of_lt_of_le (h.numbered id' s' hs') hnext
  entry := by
    intro id' identity hheld
    by_cases hid : id = id'
    · subst hid
      exact hself identity hheld
    · rw [held?_congr ((hsockets id').trans (if_neg hid))] at hheld
      exact hothers id' identity (Ne.symm hid) hheld (h.entry id' identity hheld)
  listener := by
    intro port id' hlistener
    rw [hsockets]
    rcases hlisteners port id' hlistener with ⟨rfl, limit, backlog, rfl⟩ | ⟨hne, hbefore⟩
    · rw [if_pos rfl]
      exact ⟨limit, backlog, rfl⟩
    · rw [if_neg (Ne.symm hne)]
      exact h.listener port id' hbefore

/-- A socket without a connection holds nothing. -/
theorem held?_of_not_connection {s : Socket} (hsocket : n.socket? id = some s)
    (hother : ∀ c, s ≠ .connection c) : n.held? id ≠ some identity := by
  intro hheld
  obtain ⟨c, hc, -, -⟩ := held?_eq_some_iff.mp hheld
  rw [hsocket] at hc
  exact hother c (Option.some.inj hc)

theorem tidy_create {addr : NodeAddr} {settings : Settings}
    (hcreate : Node.create addr settings = .ok n) : n.Tidy := by
  have hnone := socket?_of_create hcreate
  refine ⟨?_, ?_, ?_⟩
  · intro id s hs
    rw [hnone] at hs
    cases hs
  · intro id identity hheld
    obtain ⟨c, hc, -, -⟩ := held?_eq_some_iff.mp hheld
    rw [hnone] at hc
    cases hc
  · intro port id hlistener
    obtain ⟨profile, -, rfl⟩ := exists_of_map_eq_ok hcreate
    cases hlistener

/-! ### Sockets that go -/

theorem connection?_portsWithout {s : Socket} (h : n.ports.connection? identity = some id')
    (hne : id' ≠ id) : (n.portsWithout id s).connection? identity = some id' := by
  unfold portsWithout
  split
  · exact h
  · exact h
  · exact h
  · split
    · exact h
    · exact PortTable.connection?_vacate h hne

/-- A listener takes its entry with it. -/
theorem listener?_of_portsWithout {s : Socket} {port : UInt16}
    (h : (n.portsWithout id s).listener? port = some id') :
    n.ports.listener? port = some id' ∧ ∀ limit backlog, s ≠ .listener port limit backlog := by
  unfold portsWithout at h
  split at h
  · exact ⟨h, nofun⟩
  · exact ⟨(PortTable.listener?_of_free h).1, nofun⟩
  · next port' _ _ =>
    obtain ⟨hbefore, hne⟩ := PortTable.listener?_of_free h
    refine ⟨hbefore, fun limit backlog heq => ?_⟩
    cases heq
    exact hne rfl
  · split at h
    · exact ⟨h, nofun⟩
    · exact ⟨PortTable.listener?_of_vacate h, nofun⟩

theorem Tidy.forget (h : n.Tidy) (id : SocketId) : (n.forget id).Tidy := by
  cases hsocket : n.socket? id with
  | none =>
    unfold Node.forget
    rw [hsocket]
    exact h
  | some s =>
    have hports : (n.forget id).ports = n.portsWithout id s := by
      unfold Node.forget
      rw [hsocket]
    have hsockets : ∀ id', id ≠ id' → (n.forget id).socket? id' = n.socket? id' :=
      fun id' hne => (socket?_forget n id id').trans (if_neg hne)
    have hgone : (n.forget id).socket? id = none := (socket?_forget n id id).trans (if_pos rfl)
    refine ⟨fun id' s' hs' => ?_, fun id' identity hheld => ?_, fun port id' hlistener => ?_⟩
    · rw [(nextId_profile_forget n id).1]
      by_cases hne : id = id'
      · subst hne
        cases hgone.symm.trans hs'
      · exact h.numbered id' s' ((hsockets id' hne).symm.trans hs')
    · by_cases hne : id = id'
      · subst hne
        obtain ⟨c, hc, -, -⟩ := held?_eq_some_iff.mp hheld
        cases hgone.symm.trans hc
      · rw [held?_congr (hsockets id' hne)] at hheld
        rw [hports]
        exact connection?_portsWithout (h.entry id' identity hheld) (Ne.symm hne)
    · rw [hports] at hlistener
      obtain ⟨hbefore, hother⟩ := listener?_of_portsWithout hlistener
      obtain ⟨limit, backlog, hs'⟩ := h.listener port id' hbefore
      have hne : id ≠ id' := by
        rintro rfl
        exact hother limit backlog (Option.some.inj (hsocket.symm.trans hs'))
      exact ⟨limit, backlog, (hsockets id' hne).trans hs'⟩

theorem Tidy.forgetAll (h : n.Tidy) (ids : List SocketId) : (ids.foldl Node.forget n).Tidy := by
  induction ids generalizing n with
  | nil => exact h
  | cons first rest ih => exact ih (h.forget first)

theorem Tidy.release (h : n.Tidy) (id : SocketId) : (n.release id).Tidy := by
  unfold Node.release
  split
  · exact (h.forget id).forgetAll _
  · exact h

/-- Closed sockets may go without the port table knowing: it does not know
    them any more. -/
theorem Tidy.discard {ids : List SocketId} (h : n.Tidy)
    (hclosed : ∀ id ∈ ids, ∀ port limit backlog,
      n.socket? id ≠ some (.listener port limit backlog)) :
    (n.discard ids).Tidy where
  numbered := by
    intro id s hs
    rw [socket?_discard] at hs
    split at hs
    · cases hs
    · exact h.numbered id s hs
  entry := by
    intro id identity hheld
    obtain ⟨c, hc, hopen, hidentity⟩ := held?_eq_some_iff.mp hheld
    rw [socket?_discard] at hc
    split at hc
    · cases hc
    · exact h.entry id identity (held?_eq_some_iff.mpr ⟨c, hc, hopen, hidentity⟩)
  listener := by
    intro port id hlistener
    obtain ⟨limit, backlog, hs⟩ := h.listener port id hlistener
    refine ⟨limit, backlog, ?_⟩
    rw [socket?_discard, if_neg]
    · exact hs
    · exact fun hmem => hclosed id hmem port limit backlog hs

/-! ### Sockets that change -/

theorem Tidy.settle {c c' : Connection} (h : n.Tidy) (hsocket : n.socket? id = some (.connection c))
    (hfollows : c.Follows c') : (n.settle id c c').Tidy := by
  have hports : (n.settle id c c').ports = n.ports ∨
      c'.phase.isClosed = true ∧
        (n.settle id c c').ports = n.ports.vacate id c.identity c.origin := by
    unfold Node.settle
    simp only
    split
    · next hended =>
      rw [Bool.and_eq_true] at hended
      exact Or.inr ⟨hended.1, rfl⟩
    · exact Or.inl rfl
  obtain ⟨hnext, -⟩ := nextId_profile_settle n id c c'
  refine h.update (socket?_settle n id · c c') ?_ (Nat.le_of_eq hnext.symm) ?_ ?_ ?_
  · rw [hnext]
    exact h.numbered id _ hsocket
  · intro identity hheld
    obtain ⟨c'', hc'', hopen, rfl⟩ := held?_eq_some_iff.mp hheld
    rw [socket?_settle, if_pos rfl] at hc''
    cases hc''
    -- The connection was open before, so its entry is there and stays.
    have hbefore : c.phase.isClosed = false := by
      rw [← Bool.not_eq_true]
      intro hclosed
      rw [hfollows.closed hclosed] at hopen
      cases hopen
    rcases hports with hsame | ⟨hclosed, -⟩
    · rw [hsame, hfollows.identity]
      exact h.entry id _ (held?_eq_some_iff.mpr ⟨c, hsocket, hbefore, rfl⟩)
    · rw [hclosed] at hopen
      cases hopen
  · intro id' identity hne _ hentry
    rcases hports with hsame | ⟨-, hvacated⟩
    · rw [hsame]
      exact hentry
    · rw [hvacated]
      exact PortTable.connection?_vacate hentry hne
  · intro port id' hlistener
    have hbefore : n.ports.listener? port = some id' := by
      rcases hports with hsame | ⟨-, hvacated⟩
      · rw [hsame] at hlistener
        exact hlistener
      · rw [hvacated] at hlistener
        exact PortTable.listener?_of_vacate hlistener
    refine Or.inr ⟨?_, hbefore⟩
    rintro rfl
    exact h.not_listener hsocket nofun hbefore

/-- A socket that opens a connection takes its entry over. If nobody held the
    identity, nobody is cut off. -/
theorem Tidy.opened {c : Connection} (h : n.Tidy) (hlt : id < n'.nextId)
    (hnext : n.nextId ≤ n'.nextId)
    (hsockets : ∀ id', n'.socket? id' = if id = id' then some (.connection c) else n.socket? id')
    (hports : n'.ports = n.ports.connect c.identity id)
    (hlistener : ∀ port, n.ports.listener? port ≠ some id)
    (hfree : ∀ holder, n.held? holder ≠ some c.identity) : n'.Tidy := by
  refine h.update hsockets hlt hnext ?_ ?_ ?_
  · intro identity hheld
    obtain ⟨c', hc', -, rfl⟩ := held?_eq_some_iff.mp hheld
    rw [hsockets, if_pos rfl] at hc'
    cases hc'
    rw [hports, PortTable.connection?_connect, if_pos rfl]
  · intro id' identity _ hheld hentry
    rw [hports, PortTable.connection?_connect, if_neg]
    · exact hentry
    · rintro rfl
      exact hfree id' hheld
  · intro port id' hentry
    rw [hports] at hentry
    refine Or.inr ⟨?_, hentry⟩
    rintro rfl
    exact hlistener port hentry

/-- A socket without a connection takes the place of another, and the
    connections in the port table stay. -/
theorem Tidy.put {s : Socket} (h : n.Tidy) (hlt : id < n'.nextId) (hnext : n.nextId ≤ n'.nextId)
    (hsockets : ∀ id', n'.socket? id' = if id = id' then some s else n.socket? id')
    (hother : ∀ c, s ≠ .connection c)
    (hports : ∀ identity, n'.ports.connection? identity = n.ports.connection? identity)
    (hlisteners : ∀ port id', n'.ports.listener? port = some id' →
      id' = id ∧ (∃ limit backlog, s = .listener port limit backlog) ∨
        id' ≠ id ∧ n.ports.listener? port = some id') : n'.Tidy := by
  refine h.update hsockets hlt hnext ?_ ?_ hlisteners
  · intro identity hheld
    exact absurd hheld (held?_of_not_connection ((hsockets id).trans (if_pos rfl)) hother)
  · intro id' identity _ _ hentry
    rw [hports]
    exact hentry

/-- The port table knows no handle that is still to come. -/
theorem Tidy.not_listener_nextId (h : n.Tidy) (port : UInt16) :
    n.ports.listener? port ≠ some n.nextId := by
  intro hlistener
  obtain ⟨limit, backlog, hs⟩ := h.listener port _ hlistener
  exact Nat.lt_irrefl _ (h.numbered _ _ hs)

/-- A listener may change its queue. -/
theorem Tidy.requeue {port : UInt16} {limit : Nat} {backlog : List SocketId} (h : n.Tidy)
    (hsocket : n.socket? id = some (.listener port limit backlog)) (backlog' : List SocketId) :
    (n.withSocket id (.listener port limit backlog')).Tidy := by
  refine h.put (h.numbered id _ hsocket) (Nat.le_refl _) (socket?_withSocket n id · _)
    (fun c hc => by cases hc) (fun _ => rfl) ?_
  intro port' id' hlistener
  by_cases hid : id' = id
  · obtain ⟨limit', backlog'', hs⟩ := h.listener port' id' hlistener
    rw [hid, hsocket] at hs
    cases hs
    exact Or.inl ⟨hid, limit, backlog', rfl⟩
  · exact Or.inr ⟨hid, hlistener⟩

theorem Tidy.accepted {port : UInt16} {limit : Nat} {backlog : List SocketId} (h : n.Tidy)
    (hsocket : n.socket? id = some (.listener port limit backlog)) (backlog' : List SocketId) :
    ((n.withSocket id (.listener port limit backlog')).discard
      (backlog.takeWhile n.isClosed)).Tidy := by
  refine (h.requeue hsocket backlog').discard ?_
  intro ended hmem port' limit' queue hs
  have hclosed : n.isClosed ended = true := List.all_eq_true.mp List.all_takeWhile ended hmem
  -- A listener is not closed, neither before its queue changed nor after.
  have hbefore : ∃ port limit backlog, n.socket? ended = some (.listener port limit backlog) := by
    rw [socket?_withSocket] at hs
    split at hs
    · next hid => exact ⟨port, limit, backlog, hid ▸ hsocket⟩
    · exact ⟨port', limit', queue, hs⟩
  obtain ⟨port, limit, backlog, hlistening⟩ := hbefore
  unfold isClosed state at hclosed
  rw [hlistening] at hclosed
  cases hclosed

/-- Only a request without a connection goes to the listener on its port. -/
theorem route_eq_listener {s : Segment} {src : NodeAddr} (h : n.ports.route s src = .listener id) :
    n.ports.connection? (PortTable.identityOf s src) = none ∧
      n.ports.listener? s.dstPort = some id := by
  unfold PortTable.route at h
  split at h
  · cases h
  · next hnone =>
    refine ⟨hnone, ?_⟩
    split at h
    · split at h
      · next hlistener =>
        cases h
        exact hlistener
      · cases h
    · cases h
    · cases h
    · cases h

/-- Nothing but a request goes to a listener. -/
theorem kind_of_route {s : Segment} {src : NodeAddr} (h : n.ports.route s src = .listener id) :
    s.kind = .syn := by
  unfold PortTable.route at h
  split at h
  · cases h
  · split at h
    · next hkind => exact hkind
    · cases h
    · cases h
    · cases h

/-- Acknowledgments and data for nobody are answered with an end. -/
theorem kind_of_reset {s reply : Segment} {src : NodeAddr}
    (h : n.ports.route s src = .reset reply) :
    reply.kind = .fin ∧ (s.kind = .ack ∨ s.kind = .data) := by
  unfold PortTable.route at h
  split at h
  · cases h
  · split at h
    · split at h <;> cases h
    · cases h
    · next hkind =>
      cases h
      exact ⟨rfl, Or.inl hkind⟩
    · next hkind =>
      cases h
      exact ⟨rfl, Or.inr hkind⟩

/-- What goes to a connection goes to the holder of its identity. -/
theorem route_eq_connection {s : Segment} {src : NodeAddr}
    (h : n.ports.route s src = .connection id) :
    n.ports.connection? (PortTable.identityOf s src) = some id := by
  unfold PortTable.route at h
  split at h
  · next hentry =>
    cases h
    exact hentry
  · split at h
    · split at h <;> cases h
    · cases h
    · cases h
    · cases h

theorem Tidy.change {input : Input} {effects : List Effect} (h : n.Tidy)
    (hchange : n.Change now input n' effects) (hclash : ¬ n.Clashes input) : n'.Tidy := by
  cases hchange with
  | unmoved => exact h
  | reset => exact h
  | created =>
    refine h.put (Nat.lt_succ_self _) (Nat.le_succ _) (socket?_withSocket n n.nextId · _)
      (fun c hc => by cases hc) (fun _ => rfl) ?_
    intro port id' hlistener
    refine Or.inr ⟨?_, hlistener⟩
    rintro rfl
    exact h.not_listener_nextId port hlistener
  | @bound id port ports hsocket hclaim =>
    obtain ⟨hlistener?, hconnection?⟩ := PortTable.views_of_claim? hclaim
    refine h.put (h.numbered id _ hsocket) (Nat.le_refl _) (socket?_withSocket n id · _)
      (fun c hc => by cases hc) hconnection? ?_
    intro port' id' hlistener
    have hbefore := (hlistener? port').symm.trans hlistener
    refine Or.inr ⟨?_, hbefore⟩
    rintro rfl
    exact h.not_listener hsocket (fun _ _ _ heq => by cases heq) hbefore
  | @listening id port limit hsocket =>
    refine h.put (h.numbered id _ hsocket) (Nat.le_refl _) (socket?_withSocket n id · _)
      (fun c hc => by cases hc) (fun _ => rfl) ?_
    intro port' id' hlistener
    have hentry : (n.ports.listen port id).listener? port' = some id' := hlistener
    rw [PortTable.listener?_listen] at hentry
    split at hentry
    · next hport =>
      cases hentry
      exact Or.inl ⟨rfl, limit, [], by rw [hport]⟩
    · refine Or.inr ⟨?_, hentry⟩
      rintro rfl
      exact h.not_listener hsocket (fun _ _ _ heq => by cases heq) hentry
  | @connecting id port _ _ _ _ hsocket hopened =>
    obtain ⟨⟨stats, rfl⟩, -, -⟩ := Connection.eq_of_request hopened
    refine h.opened (h.numbered id _ hsocket) (Nat.le_refl _) (socket?_withSocket n id · _) rfl
      ?_ ?_
    · exact fun port' => h.not_listener hsocket (fun _ _ _ heq => by cases heq)
    · exact fun holder hheld => hclash ⟨port, holder, hsocket, hheld⟩
  | accepted hsocket => exact h.accepted hsocket _
  | released => exact h.release _
  | @spawned _ _ id _ _ backlog _ _ _ hroute hsocket _ hopened =>
    obtain ⟨⟨stats, rfl⟩, -, -⟩ := Connection.eq_of_answer hopened
    obtain ⟨hnone, hlistener⟩ := route_eq_listener hroute
    obtain ⟨limit', backlog', hs⟩ := h.listener _ id hlistener
    rw [hsocket] at hs
    cases hs
    have hqueued := h.requeue hsocket (backlog ++ [n.nextId])
    refine hqueued.opened (Nat.lt_succ_self _) (Nat.le_succ _) (socket?_withSocket _ n.nextId · _)
      rfl hqueued.not_listener_nextId ?_
    intro holder hheld
    cases hnone.symm.trans (hqueued.entry holder _ hheld)
  | moved hreaches hsocket hrespond =>
    exact h.settle hsocket (Connection.follows_of_respond hrespond)

/-! ### The exact condition -/

/-- A bound socket is never refused a connection. -/
theorem exists_react_connect {port : UInt16} (hsocket : n.socket? id = some (.fresh (some port)))
    (remoteAddr : NodeAddr) (remotePort : UInt16) (now : Duration) :
    ∃ c effects, Connection.request (n.context id now) ⟨port, remoteAddr, remotePort⟩ =
        (c, effects) ∧
      n.react now (.call (.connect id remoteAddr remotePort)) =
        .ok ({ n.withSocket id (.connection c) with
          ports := n.ports.connect ⟨port, remoteAddr, remotePort⟩ id }, effects) := by
  refine ⟨_, _, rfl, ?_⟩
  have hfind : n.find id = .ok (.fresh (some port)) := find_eq_ok_iff.mpr hsocket
  simp only [react, serve, connect, hfind]
  rfl

/-- A clash is never refused, and leaves two holders. -/
theorem exists_react_of_clash {input : Input} (hclash : n.Clashes input) (now : Duration) :
    ∃ n' effects, n.react now input = .ok (n', effects) ∧ ¬ n'.WellRouted := by
  cases input with
  | packet => exact hclash.elim
  | timer => exact hclash.elim
  | call call =>
    cases call with
    | connect id remoteAddr remotePort =>
      obtain ⟨port, holder, hsocket, hheld⟩ := hclash
      obtain ⟨c, effects, hopened, hreact⟩ :=
        exists_react_connect hsocket remoteAddr remotePort now
      obtain ⟨⟨stats, hasking⟩, -, -⟩ := Connection.eq_of_request hopened
      obtain ⟨c', hc', -, -⟩ := held?_eq_some_iff.mp hheld
      have hne : id ≠ holder := by
        rintro rfl
        cases hsocket.symm.trans hc'
      refine ⟨_, effects, hreact, fun hrouted => hne ?_⟩
      apply hrouted.unique id holder ⟨port, remoteAddr, remotePort⟩
      · refine held?_eq_some_iff.mpr ⟨c, (socket?_withSocket n id id _).trans (if_pos rfl), ?_, ?_⟩
        · rw [hasking]
          rfl
        · rw [hasking]
          rfl
      · rw [← hheld]
        exact held?_congr ((socket?_withSocket n id holder _).trans (if_neg hne))
    | _ => exact hclash.elim

theorem wellRouted_history_iff (h : n.Tidy) (inputs : List (Duration × Input)) :
    (∀ m ∈ n.history inputs, m.WellRouted) ↔ n.ClashFree inputs := by
  induction inputs generalizing n with
  | nil =>
    constructor
    · exact fun _ => trivial
    · intro _ m hm
      rw [List.mem_singleton.mp hm]
      exact h.wellRouted
  | cons first rest ih =>
    obtain ⟨now, input⟩ := first
    unfold ClashFree
    cases hreact : n.react now input with
    | error fault =>
      rw [history_cons_of_error hreact]
      have hnone : ¬ n.Clashes input := by
        intro hclash
        obtain ⟨n', effects, hok, -⟩ := exists_react_of_clash hclash now
        cases hreact.symm.trans hok
      constructor
      · exact fun _ => ⟨hnone, trivial⟩
      · intro _ m hm
        rw [List.mem_singleton.mp hm]
        exact h.wellRouted
    | ok answer =>
      obtain ⟨n', effects⟩ := answer
      rw [history_cons hreact]
      constructor
      · intro hall
        have hnone : ¬ n.Clashes input := by
          intro hclash
          obtain ⟨n'', effects', hok, hbroken⟩ := exists_react_of_clash hclash now
          cases hreact.symm.trans hok
          exact hbroken (hall n' (List.mem_cons_of_mem _ (mem_history_self n' rest)))
        refine ⟨hnone, (ih (h.change (change_of_react hreact) hnone)).mp ?_⟩
        exact fun m hm => hall m (List.mem_cons_of_mem _ hm)
      · rintro ⟨hnone, hrest⟩ m hm
        rcases List.mem_cons.mp hm with rfl | hm
        · exact h.wellRouted
        · exact (ih (h.change (change_of_react hreact) hnone)).mpr hrest m hm

/-- **Exactly a request for a held identity breaks the routing.** Through a run
    from a new node, identities are unique and every segment for a connection
    reaches its holder, if and only if no socket asks for an identity that is
    held. -/
theorem wellRouted_iff_clashFree {addr : NodeAddr} {settings : Settings}
    (hcreate : Node.create addr settings = .ok n) (inputs : List (Duration × Input)) :
    (∀ m ∈ n.history inputs, m.WellRouted) ↔ n.ClashFree inputs :=
  wellRouted_history_iff (tidy_create hcreate) inputs

/-- A run that releases a listener but not its connection, and binds the port
    anew. -/
def rebinding : List (Duration × Input) :=
  let request : Segment := ⟨5000, 80, .syn, 4, 100, []⟩
  let packet : Packet :=
    { src := 9, dest := 1, ttl := 15, protocol := .transport, seq := 100
      payload := request.header request.frameChecksum }
  [.call .socket, .call (.bind 1 80), .call (.listen 1 5), .packet packet, .call (.accept 1),
    .call (.release 1), .call .socket, .call (.bind 3 80)].map (.zero, ·)

/-- The run is well routed to its end, where the connection is still held. -/
theorem wellRouted_of_rebinding : ∃ n, Node.create 1 { mss := 4, bufferSize := 8 } = .ok n ∧
    (∃ m ∈ n.history rebinding, m.held? 2 = some ⟨80, 9, 5000⟩) ∧
    ∀ m ∈ n.history rebinding, m.WellRouted := by
  have hcreate : Node.create 1 { mss := 4, bufferSize := 8 } = .ok _ := rfl
  refine ⟨_, hcreate, by decide +kernel, (wellRouted_iff_clashFree hcreate rebinding).mpr ?_⟩
  exact ⟨id, id, id, id, id, id, id, id, trivial⟩

/-- If the run goes on with a request from the new owner of the port, two
    sockets hold one identity. -/
theorem not_wellRouted_of_rebinding : ∃ n, Node.create 1 { mss := 4, bufferSize := 8 } = .ok n ∧
    ∃ m ∈ n.history (rebinding ++ [(.zero, .call (.connect 3 9 5000))]), ¬ m.WellRouted := by
  refine ⟨_, rfl, _, List.getLast_mem (List.cons_ne_nil _ _), ?_⟩
  intro hrouted
  have hsame : 2 = 3 :=
    hrouted.unique 2 3 ⟨80, 9, 5000⟩ (by decide +kernel) (by decide +kernel)
  cases hsame

end Node

end ReliableStream
