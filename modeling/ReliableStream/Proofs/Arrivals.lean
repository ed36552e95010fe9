import ReliableStream.Proofs.LifeCycle
/-! # What an arriving packet touches

    A packet is looked at by one socket: the holder of its connection or the
    listener on its port. Whatever this socket does, it does by itself or by a
    new connection that it spawns. Nobody else is touched, and whatever is sent
    goes back to where the packet came from, from the port it was meant for to
    the port it was sent from. A connection answers with the identity that it
    has, not with what the packet says; that the two agree is what the port
    table guarantees (`Orderly`). -/

namespace ReliableStream

namespace Connection

variable {ctx : Context} {c c' : Connection} {s : Segment} {effects : List Effect}

/-- The announced end of a peer is not answered. -/
theorem onSegment_of_fin (ctx : Context) (c : Connection) (hkind : s.kind = .fin) :
    ∃ c' effects, c.onSegment ctx s = .ok (c', effects) ∧ packetsOf effects = [] := by
  unfold onSegment onFin
  rw [hkind]
  cases c.phase with
  | synSent => exact ⟨_, _, rfl, rfl⟩
  | established r => exact ⟨_, _, rfl, rfl⟩
  | shutdown r finSeq => exact ⟨_, _, rfl, rfl⟩
  | closed r => exact ⟨_, _, rfl, rfl⟩

/-- A segment is answered, unless it is an acknowledgment whose round trip
    cannot be put in numbers. -/
theorem onSegment_error {fault : Fault} (h : c.onSegment ctx s = .error fault) :
    s.kind = .ack ∧ c.sender.onAck s.seq s.window ctx.now = .error fault := by
  have hack : ∀ {r}, c.onOpenAck ctx r s = .error fault →
      c.sender.onAck s.seq s.window ctx.now = .error fault := by
    intro r h
    unfold onOpenAck at h
    split at h
    · cases h
    · split at h
      · cases h
      · cases hack : c.sender.onAck s.seq s.window ctx.now with
        | ok outcome =>
          rw [hack] at h
          cases h
        | error fault' =>
          rw [hack] at h
          cases h
          rfl
  unfold onSegment at h
  split at h
  · cases h
  · cases h
  · cases h
  · next hkind =>
    refine ⟨hkind, ?_⟩
    split at h
    · cases h
    · exact hack h
    · exact hack h
    · cases h

end Connection

namespace Node

variable {n n' : Node} {now : Duration} {id id' : SocketId} {packet : Packet} {s : Segment}
  {effects : List Effect}

/-- The socket that looks at a packet: the one that the port table names for
    its segment. -/
def named? (n : Node) (packet : Packet) : Option SocketId :=
  match packet.segment?.map fun s => n.ports.route s packet.src with
  | some (.listener id) => some id
  | some (.connection id) => some id
  | _ => none

theorem named?_of_listener (hsegment : packet.segment? = some s)
    (hroute : n.ports.route s packet.src = .listener id) : n.named? packet = some id := by
  unfold named?
  simp only [hsegment, Option.map_some, hroute]

theorem named?_of_connection (hsegment : packet.segment? = some s)
    (hroute : n.ports.route s packet.src = .connection id) : n.named? packet = some id := by
  unfold named?
  simp only [hsegment, Option.map_some, hroute]

/-- A segment that answers another: it goes the opposite way. -/
structure Mirrors (n : Node) (packet sent : Packet) : Prop where
  src : sent.src = n.addr
  dest : sent.dest = packet.src
  ports : ∃ s reply, packet.segment? = some s ∧ sent.segment? = some reply ∧
    reply.srcPort = s.dstPort ∧ reply.dstPort = s.srcPort

/-- What a packet does to a node touches the socket that looks at it and a
    connection that this socket spawns, and is told to nobody but its source. -/
structure Touches (n : Node) (packet : Packet) (n' : Node) (effects : List Effect) : Prop where
  others : ∀ id, n.named? packet ≠ some id → id ≠ n.nextId → n'.socket? id = n.socket? id
  /-- The socket itself stays. -/
  stays : ∀ id, n.named? packet = some id → (n.socket? id).isSome → (n'.socket? id).isSome
  /-- If there is a new socket, it is the only one, and a connection with the
      source of the request. -/
  added : n'.nextId = n.nextId ∧ n'.socket? n.nextId = none ∨
    n'.nextId = n.nextId + 1 ∧ ∃ s c, packet.segment? = some s ∧ s.kind = .syn ∧
      n'.socket? n.nextId = some (.connection c) ∧ c.origin = .spawned ∧
      c.identity = PortTable.identityOf s packet.src
  /-- No port is claimed, and none is given back but by the socket itself. -/
  claimed : ∀ port, (∀ id, n.named? packet = some id → n.owned? id ≠ some port) →
    n'.ports.isClaimed port = n.ports.isClaimed port
  unclaimed : ∀ port, n'.ports.isClaimed port = true → n.ports.isClaimed port = true
  listeners : ∀ port, n'.ports.listener? port = n.ports.listener? port
  connections : ∀ identity id, n.named? packet ≠ some id → id ≠ n.nextId →
    (n'.ports.connection? identity = some id ↔ n.ports.connection? identity = some id)
  mirrored : ∀ sent ∈ packetsOf effects, n.Mirrors packet sent
  timers : ∀ t ∈ timersOf effects, n.named? packet = some t.socket ∨
    t.socket = n.nextId ∧ n'.nextId = n.nextId + 1
  profile : n'.addr = n.addr ∧ n'.profile = n.profile

/-! ### Nothing happens -/

/-- A node that stays as it is, and at most answers the source. -/
theorem Orderly.touches_self (h : n.Orderly) (hquiet : timersOf effects = [])
    (hmirrored : ∀ sent ∈ packetsOf effects, n.Mirrors packet sent) :
    n.Touches packet n effects where
  others _ _ _ := rfl
  stays _ _ hsome := hsome
  added := Or.inl ⟨rfl, h.socket?_nextId⟩
  claimed _ _ := rfl
  unclaimed _ hclaimed := hclaimed
  listeners _ := rfl
  connections _ _ _ _ := Iff.rfl
  mirrored := hmirrored
  timers t ht := by
    rw [hquiet] at ht
    cases ht
  profile := ⟨rfl, rfl⟩

/-- What is sent when nobody is there is one end, the opposite way. -/
theorem route_eq_reset {src : NodeAddr} {reply : Segment}
    (h : n.ports.route s src = .reset reply) :
    reply = .control s.dstPort s.srcPort .fin 0 0 := by
  unfold PortTable.route at h
  split at h
  · cases h
  · split at h
    · split at h <;> cases h
    · cases h
    · cases h
      rfl
    · cases h
      rfl

theorem mirrors_of_reset {sent : Packet} (hsegment : packet.segment? = some s)
    (hmade : n.profile.packet? n.addr packet.src (.control s.dstPort s.srcPort .fin 0 0) =
      some sent) : n.Mirrors packet sent := by
  have hreply := Profile.segment?_of_packet? hmade
  unfold Profile.packet? at hmade
  obtain ⟨frame, -, rfl⟩ := Option.map_eq_some_iff.mp hmade
  exact ⟨rfl, rfl, s, _, hsegment, hreply, rfl, rfl⟩

theorem Orderly.touches_reset {reply : Segment} (h : n.Orderly)
    (hsegment : packet.segment? = some s) (hroute : n.ports.route s packet.src = .reset reply) :
    n.Touches packet n ((n.profile.packet? n.addr packet.src reply).map Effect.send).toList := by
  apply h.touches_self (timersOf_reply _)
  intro sent hsent
  cases hmade : n.profile.packet? n.addr packet.src reply with
  | none =>
    rw [hmade] at hsent
    cases hsent
  | some made =>
    rw [hmade] at hsent
    obtain rfl : sent = made := List.mem_singleton.mp hsent
    rw [route_eq_reset hroute] at hmade
    exact mirrors_of_reset hsegment hmade

/-! ### A connection acts -/

/-- What is addressed to the other end of the connection that a packet belongs
    to goes back to its source. -/
theorem mirrors_of_addressed (now : Duration) (hsegment : packet.segment? = some s)
    (haddressed : Connection.Addressed (n.context id now) (PortTable.identityOf s packet.src)
      effects) : ∀ sent ∈ packetsOf effects, n.Mirrors packet sent := by
  intro sent hsent
  obtain ⟨hsrc, hdest, reply, hreply, hbears⟩ := haddressed sent hsent
  exact ⟨hsrc, hdest, s, reply, hsegment, hreply, hbears.srcPort, hbears.dstPort⟩

/-- A connection that is put back leaves the port table as it is, or leaves it
    as a connection that is gone does. -/
theorem ports_settle (n : Node) (id : SocketId) (c c' : Connection) :
    (n.settle id c c').ports = n.ports ∨
      (n.settle id c c').ports = n.portsWithout id (.connection c) := by
  unfold settle
  simp only
  split
  · next hended =>
    rw [Bool.and_eq_true, Bool.not_eq_true'] at hended
    right
    simp only [portsWithout, hended.2]
    rfl
  · exact Or.inl rfl

theorem Orderly.touches_settle {c c' : Connection} (h : n.Orderly)
    (hsegment : packet.segment? = some s)
    (hroute : n.ports.route s packet.src = .connection id)
    (hsocket : n.socket? id = some (.connection c))
    (hrespond : c.respond (n.context id now) (.segment s) = .ok (c', effects)) :
    n.Touches packet (n.settle id c c') effects := by
  have hnamed := named?_of_connection hsegment hroute
  obtain ⟨hnext, hprofile⟩ := nextId_profile_settle n id c c'
  -- The connection has the identity that the packet belongs to.
  have hidentity : c.identity = PortTable.identityOf s packet.src := by
    obtain ⟨c₀, hc₀, hidentity⟩ := h.accurate.delivered s packet.src id hroute
    rw [hsocket] at hc₀
    cases hc₀
    exact hidentity
  have haddressed := Connection.addressed_of_respond hrespond
  rw [hidentity] at haddressed
  have hother : ∀ {id'}, n.named? packet ≠ some id' → id' ≠ id := by
    rintro id' hne rfl
    exact hne hnamed
  refine ⟨fun id' hne _ => ?_, fun id' hid' _ => ?_, Or.inl ⟨hnext, ?_⟩, fun port hport => ?_,
    fun port hclaimed => ?_, fun port => ?_, fun identity id' hne _ => ?_,
    mirrors_of_addressed now hsegment haddressed, fun t ht => ?_, addr_settle n id c c', hprofile⟩
  · rw [socket?_settle, if_neg (Ne.symm (hother hne))]
  · rw [hnamed, Option.some.injEq] at hid'
    rw [socket?_settle, if_pos hid']
    rfl
  · rw [socket?_settle, if_neg (Nat.ne_of_lt (h.numbered id _ hsocket))]
    exact h.socket?_nextId
  · rcases ports_settle n id c c' with hports | hports
    · rw [hports]
    · rw [hports, Bool.eq_iff_iff, isClaimed_portsWithout, ← owned?_of_socket hsocket]
      exact ⟨And.left, fun hclaimed => ⟨hclaimed, hport id hnamed⟩⟩
  · rcases ports_settle n id c c' with hports | hports
    · rw [hports] at hclaimed
      exact hclaimed
    · rw [hports, isClaimed_portsWithout] at hclaimed
      exact hclaimed.1
  · rcases ports_settle n id c c' with hports | hports
    · rw [hports]
    · ext id'
      rw [hports, listener?_portsWithout, ← owned?_of_socket hsocket]
      refine ⟨And.left, fun hentry => ⟨hentry, fun hown => ?_⟩⟩
      -- Whoever listens on the port would be its owner, but that is a connection.
      obtain ⟨limit, backlog, hlistener⟩ := (h.listening port id').mp hentry
      rw [h.exclusive port id' id (h.owned?_of_listener? hentry) hown, hsocket] at hlistener
      cases hlistener
  · rcases ports_settle n id c c' with hports | hports
    · rw [hports]
    · rw [hports]
      exact ⟨fun hentry => (h.connection?_of_portsWithout hsocket hentry).1,
        fun hentry => connection?_portsWithout hentry (hother hne)⟩
  · left
    rw [(Connection.responds_of_respond hrespond).timer_socket t ht]
    exact hnamed

/-! ### A connection is spawned -/

theorem Orderly.touches_spawn {port : UInt16} {limit : Nat} {backlog : List SocketId}
    {c : Connection} (h : n.Orderly) (hsegment : packet.segment? = some s)
    (hroute : n.ports.route s packet.src = .listener id)
    (hsocket : n.socket? id = some (.listener port limit backlog))
    (hopened : Connection.answer (n.context n.nextId now) ⟨port, packet.src, s.srcPort⟩ s =
      (c, effects)) :
    n.Touches packet
      { (n.withSocket id (.listener port limit (backlog ++ [n.nextId]))).withSocket n.nextId
          (.connection c) with
        ports := n.ports.connect ⟨port, packet.src, s.srcPort⟩ n.nextId
        nextId := n.nextId + 1 } effects := by
  have hnamed := named?_of_listener hsegment hroute
  obtain ⟨hfree, hlistener⟩ := route_eq_listener hroute
  -- The request went to the port on which the listener listens.
  have hport : port = s.dstPort := by
    obtain ⟨limit', backlog', hs⟩ := (h.listening s.dstPort id).mp hlistener
    rw [hsocket] at hs
    cases hs
    rfl
  subst hport
  have haddressed := Connection.addressed_answer hopened
  obtain ⟨⟨stats, rfl⟩, htimers, -⟩ := Connection.eq_of_answer hopened
  have hsockets : ∀ (c : Connection) id',
      ((n.withSocket id (.listener s.dstPort limit (backlog ++ [n.nextId]))).withSocket n.nextId
        (.connection c)).socket? id' = if n.nextId = id' then some (.connection c) else
          if id = id' then some (.listener s.dstPort limit (backlog ++ [n.nextId]))
          else n.socket? id' := by
    intro c id'
    rw [socket?_withSocket, socket?_withSocket]
  refine ⟨fun id' hne hnew => ?_, fun id' hid' _ => ?_, Or.inr ⟨rfl, s, _, hsegment,
    kind_of_route hroute, (hsockets _ _).trans (if_pos rfl), rfl, rfl⟩, fun _ _ => rfl,
    fun _ hclaimed => hclaimed, fun _ => rfl, fun identity id' hne hnew => ?_,
    mirrors_of_addressed now hsegment haddressed, fun t ht => ?_, rfl, rfl⟩
  · have hid : id ≠ id' := by
      rintro rfl
      exact hne hnamed
    refine (hsockets _ id').trans ?_
    rw [if_neg (Ne.symm hnew), if_neg hid]
  · rw [hnamed, Option.some.injEq] at hid'
    have hold : n.nextId ≠ id' := by
      rw [← hid']
      exact Nat.ne_of_gt (h.numbered id _ hsocket)
    refine (congrArg Option.isSome (hsockets _ id')).trans ?_
    rw [if_neg hold, if_pos hid']
    rfl
  · show (n.ports.connect _ n.nextId).connection? identity = some id' ↔ _
    rw [PortTable.connection?_connect]
    by_cases hidentity : ⟨s.dstPort, packet.src, s.srcPort⟩ = identity
    · -- The identity was free, or the request would not have come here.
      have hnone : n.ports.connection? identity = none := by
        rw [← hidentity]
        exact hfree
      simp [hidentity, hnone, Ne.symm hnew]
    · rw [if_neg hidentity]
  · rw [htimers] at ht
    rw [List.mem_singleton.mp ht]
    exact Or.inr ⟨rfl, rfl⟩

/-! ### The result -/

theorem Orderly.touches (h : n.Orderly) (hpacket : n.onPacket packet now = .ok (n', effects)) :
    n.Touches packet n' effects := by
  cases change_of_onPacket hpacket with
  | unmoved => exact h.touches_self rfl fun sent hsent => absurd hsent List.not_mem_nil
  | reset hsegment hroute => exact h.touches_reset hsegment hroute
  | released _ hinput => rcases hinput with hinput | hinput <;> cases hinput
  | spawned hsegment hroute hsocket _ hopened =>
    exact h.touches_spawn hsegment hroute hsocket hopened
  | moved hreaches hsocket hrespond =>
    cases hreaches with
    | segment hsegment hroute => exact h.touches_settle hsegment hroute hsocket hrespond

/-- A packet that is not for the transport, has no hops left or carries no
    segment is ignored. -/
theorem onPacket_ignored (n : Node) (now : Duration)
    (hbad : packet.protocol ≠ .transport ∨ packet.ttl = 0 ∨
      ∀ s, Segment.decode packet.payload ≠ .ok s) : n.onPacket packet now = .ok (n, []) := by
  unfold onPacket
  split
  · rfl
  · next httl =>
    have hnone : packet.segment? = none := by
      unfold Packet.segment?
      split
      · next hprotocol =>
        rcases hbad with hother | hzero | hdamaged
        · exact absurd hprotocol hother
        · exact absurd hzero httl
        · cases hdecode : Segment.decode packet.payload with
          | error e => rfl
          | ok s => exact absurd hdecode (hdamaged s)
      · rfl
    rw [hnone]

/-- An end is taken without an answer. -/
theorem onPacket_of_fin (n : Node) (now : Duration) (hsegment : packet.segment? = some s)
    (hkind : s.kind = .fin) :
    ∃ n' effects, n.onPacket packet now = .ok (n', effects) ∧ packetsOf effects = [] := by
  unfold onPacket
  split
  · exact ⟨n, [], rfl, rfl⟩
  · rw [hsegment]
    simp only
    unfold onSegment
    split
    · next hroute =>
      have hsyn := kind_of_route hroute
      rw [hkind] at hsyn
      cases hsyn
    · next id hroute =>
      unfold onConnectionSegment
      split
      · next c hsocket =>
        obtain ⟨c', effects, hfin, hquiet⟩ := c.onSegment_of_fin (n.context id now) hkind
        rw [hfin]
        exact ⟨_, effects, rfl, hquiet⟩
      · exact ⟨n, [], rfl, rfl⟩
    · next hroute =>
      have hother := (kind_of_reset hroute).2
      rw [hkind] at hother
      rcases hother with hother | hother <;> cases hother
    · exact ⟨n, [], rfl, rfl⟩

/-- An acknowledgment or data for nobody is answered with one end, and that is
    all. -/
theorem onPacket_of_stray (n : Node) (now : Duration) (httl : packet.ttl ≠ 0)
    (hsegment : packet.segment? = some s) (hkind : s.kind = .ack ∨ s.kind = .data)
    (hnobody : n.ports.connection? (PortTable.identityOf s packet.src) = none) :
    ∃ sent, n.onPacket packet now = .ok (n, [.send sent]) ∧ n.Mirrors packet sent ∧
      sent.segment? = some (.control s.dstPort s.srcPort .fin 0 0) := by
  have hroute : n.ports.route s packet.src =
      .reset (.control s.dstPort s.srcPort .fin 0 0) := by
    unfold PortTable.route
    rw [hnobody]
    rcases hkind with hkind | hkind
    · rw [hkind]
    · rw [hkind]
  -- An end has no payload, so there is a packet for it.
  have hfits : (Segment.control s.dstPort s.srcPort .fin 0 0).payload.length ≤
      Segment.maxPayload := Nat.zero_le _
  obtain ⟨sent, hmade⟩ := n.profile.exists_packet? n.addr packet.src hfits
  refine ⟨sent, ?_, mirrors_of_reset hsegment hmade, Profile.segment?_of_packet? hmade⟩
  unfold onPacket
  rw [if_neg httl, hsegment]
  simp only
  unfold onSegment
  rw [hroute]
  simp only [hmade]
  rfl

/-- A packet is dealt with, unless it acknowledges something whose round trip
    cannot be put in numbers. -/
theorem onPacket_error {fault : Fault} (h : n.onPacket packet now = .error fault) :
    ∃ s id c, packet.segment? = some s ∧ s.kind = .ack ∧
      n.ports.route s packet.src = .connection id ∧ n.socket? id = some (.connection c) ∧
      c.sender.onAck s.seq s.window now = .error fault := by
  unfold onPacket at h
  split at h
  · cases h
  · split at h
    · next s hsegment =>
      unfold onSegment at h
      split at h
      · cases h
      · next id hroute =>
        unfold onConnectionSegment at h
        split at h
        · next c hsocket =>
          cases hresult : c.onSegment (n.context id now) s with
          | ok answer =>
            rw [hresult] at h
            cases h
          | error fault' =>
            rw [hresult] at h
            cases h
            obtain ⟨hkind, hack⟩ := Connection.onSegment_error hresult
            exact ⟨s, id, c, hsegment, hkind, hroute, hsocket, hack⟩
        · cases h
      · cases h
      · cases h
    · cases h

/-- **A packet touches one socket and is answered only to its source.** This
    holds of every packet that arrives in any state of a run from a new node;
    it is dealt with, unless the clock makes the measurement of a round trip
    fault. An end causes no packet. An acknowledgment or data without a
    connection changes nothing and causes one end. What is no transport packet,
    has no hops left or carries no segment does nothing. -/
theorem arrival_confined {addr : NodeAddr} {settings : Settings}
    (hcreate : Node.create addr settings = .ok n) (inputs : List (Duration × Input)) (m : Node)
    (hm : n.after inputs = some m) (packet : Packet) (now : Duration) :
    (∀ m' effects, m.onPacket packet now = .ok (m', effects) → m.Touches packet m' effects) ∧
      (∀ fault, m.onPacket packet now = .error fault →
        ∃ s id c, packet.segment? = some s ∧ s.kind = .ack ∧
          m.ports.route s packet.src = .connection id ∧ m.socket? id = some (.connection c) ∧
          c.sender.onAck s.seq s.window now = .error fault) ∧
      (∀ s, packet.segment? = some s → s.kind = .fin →
        ∃ m' effects, m.onPacket packet now = .ok (m', effects) ∧ packetsOf effects = []) ∧
      (∀ s, packet.ttl ≠ 0 → packet.segment? = some s → s.kind = .ack ∨ s.kind = .data →
        m.ports.connection? (PortTable.identityOf s packet.src) = none →
          ∃ sent, m.onPacket packet now = .ok (m, [.send sent]) ∧ m.Mirrors packet sent ∧
            sent.segment? = some (.control s.dstPort s.srcPort .fin 0 0)) ∧
      (packet.protocol ≠ .transport ∨ packet.ttl = 0 ∨
          (∀ s, Segment.decode packet.payload ≠ .ok s) →
        m.onPacket packet now = .ok (m, [])) := by
  have horderly := (orderly_create hcreate).of_after hm
  exact ⟨fun m' effects hpacket => horderly.touches hpacket,
    fun fault hfault => onPacket_error hfault,
    fun s hsegment hkind => m.onPacket_of_fin now hsegment hkind,
    fun s httl hsegment hkind hnobody => m.onPacket_of_stray now httl hsegment hkind hnobody,
    fun hbad => m.onPacket_ignored now hbad⟩

/-- A request from a third node, and data for a port where nobody listens. -/
def callers : Packet × Packet :=
  let packet (s : Segment) : Packet :=
    { src := 7, dest := 1, ttl := 15, protocol := .transport, seq := s.seq
      payload := s.header s.frameChecksum ++ s.payload }
  (packet ⟨6000, 80, .syn, 4, 300, []⟩, packet ⟨6000, 81, .data, 4, 300, [1]⟩)

/-- The listener with one waiting connection takes the request in, and leaves
    that connection alone. The data is answered with an end. -/
theorem arrival_of_callers : ∃ n, Node.create 1 { mss := 4, bufferSize := 8 } = .ok n ∧
    ∃ m ∈ n.after serving, m.named? callers.1 = some 1 ∧ (m.onPacket callers.1 .zero).isOk = true ∧
      (∀ m' effects, m.onPacket callers.1 .zero = .ok (m', effects) →
        m.Touches callers.1 m' effects ∧ m'.socket? 2 = m.socket? 2) ∧
      ∃ sent, m.onPacket callers.2 .zero = .ok (m, [.send sent]) ∧ m.Mirrors callers.2 sent := by
  have hcreate : Node.create 1 { mss := 4, bufferSize := 8 } = .ok _ := rfl
  refine ⟨_, hcreate, _, Option.get_mem (by decide +kernel), by decide +kernel, by decide +kernel,
    fun m' effects hpacket => ?_, ?_⟩
  · obtain ⟨htouches, -⟩ :=
      arrival_confined hcreate serving _ (Option.get_mem (by decide +kernel)) callers.1 .zero
    have h := htouches m' effects hpacket
    exact ⟨h, h.others 2 (by decide +kernel) (by decide +kernel)⟩
  · obtain ⟨-, -, -, hstray, -⟩ :=
      arrival_confined hcreate serving _ (Option.get_mem (by decide +kernel)) callers.2 .zero
    obtain ⟨sent, hsent, hmirrors, -⟩ := hstray ⟨6000, 81, .data, 4, 300, [1]⟩ (by decide)
      (by decide +kernel) (Or.inr rfl) (by decide +kernel)
    exact ⟨sent, hsent, hmirrors⟩

end Node

end ReliableStream
