import ReliableStream.Node.Call
import ReliableStream.Node.Input
import ReliableStream.Proofs.Awaiting
/-! # The changes of a node

    What happens to a node is a call, a packet or a timer. What a node does in
    answer is said once, by the relation `Change`: most of it is a move of one
    connection, the rest opens and closes sockets. The functions of a node are
    opened here and nowhere else. -/

namespace ReliableStream

/-- What can happen to a node. -/
inductive Input where
  | call (call : Call)
  | packet (packet : Packet)
  | timer (timer : Timer)

theorem Socket.usablePort_eq_ok_iff {s : Socket} {port : UInt16} :
    s.usablePort = .ok port ↔ s = .fresh (some port) := by
  constructor
  · intro h
    unfold usablePort at h
    split at h
    · cases h
      rfl
    · cases h
    · split at h <;> cases h
    · cases h
  · rintro rfl
    rfl

theorem Socket.localPort?_eq_none_iff {s : Socket} : s.localPort? = none ↔ s = .fresh none := by
  constructor
  · intro h
    cases s with
    | fresh port =>
      cases h
      rfl
    | listener => cases h
    | connection => cases h
  · rintro rfl
    rfl

namespace Connection

variable {ctx : Context} {c : Connection}

/-- Writing leaves the phase as it is. -/
theorem phase_write (bytes : List UInt8) : (c.write ctx bytes).2.1.phase = c.phase := by
  have hresponds := responds_write c ctx bytes
  generalize (c.write ctx bytes).2.1 = c' at hresponds ⊢
  generalize (c.write ctx bytes).2.2 = effects at hresponds
  cases hresponds <;> rfl

/-- Reading neither ends a connection nor brings one back. -/
theorem isClosed_read (count : Nat) : (c.read count).2.phase.isClosed = c.phase.isClosed := by
  unfold read
  split
  · exact Phase.isClosed_withReceiver _ _
  · rfl

/-- Closing does not end a connection by itself. -/
theorem isClosed_close : (c.close ctx).1.phase.isClosed = c.phase.isClosed := by
  unfold close
  split
  · next hphase => rw [hphase]; rfl
  · rfl

end Connection

namespace Node

/-- The answer of a node. -/
def react (n : Node) (now : Duration) : Input → Except Fault (Node × List Effect)
  | .call call => .ok (n.serve now call).2
  | .packet packet => n.onPacket packet now
  | .timer timer => .ok (n.onTimer timer now)

/-- An input is a stimulus for one socket. -/
inductive Reaches (n : Node) : Input → SocketId → Stimulus → Prop where
  | write {id : SocketId} {bytes : List UInt8} :
      Reaches n (.call (.write id bytes)) id (.write bytes)
  | read {id : SocketId} {count : Nat} : Reaches n (.call (.read id count)) id (.read count)
  | close {id : SocketId} : Reaches n (.call (.close id)) id .close
  | segment {packet : Packet} {s : Segment} {id : SocketId} (hsegment : packet.segment? = some s)
      (hroute : n.ports.route s packet.src = .connection id) :
      Reaches n (.packet packet) id (.segment s)
  | timer {timer : Timer} : Reaches n (.timer timer) timer.socket (.timer timer.event)

/-- What a node can do in answer to an input. -/
inductive Change (n : Node) (now : Duration) : Input → Node → List Effect → Prop where
  /-- A timer that changes nothing found no connection. -/
  | unmoved {input : Input}
      (hlapsed : ∀ timer, input = .timer timer →
        ∀ c, n.socket? timer.socket ≠ some (.connection c)) :
      Change n now input n []
  | reset {packet : Packet} {s reply : Segment} (hsegment : packet.segment? = some s)
      (hroute : n.ports.route s packet.src = .reset reply) :
      Change n now (.packet packet) n
        ((n.profile.packet? n.addr packet.src reply).map Effect.send).toList
  | created : Change n now (.call .socket) n.socket.2 []
  | bound {id : SocketId} {port : UInt16} {ports : PortTable}
      (hsocket : n.socket? id = some (.fresh none)) (hclaim : n.ports.claim? port = some ports) :
      Change n now (.call (.bind id port)) { n.withSocket id (.fresh (some port)) with ports } []
  | listening {id : SocketId} {port : UInt16} {limit : Nat}
      (hsocket : n.socket? id = some (.fresh (some port))) :
      Change n now (.call (.listen id limit))
        { n.withSocket id (.listener port limit []) with ports := n.ports.listen port id } []
  | connecting {id : SocketId} {port remotePort : UInt16} {remoteAddr : NodeAddr} {c : Connection}
      {effects : List Effect} (hsocket : n.socket? id = some (.fresh (some port)))
      (hopened : Connection.request (n.context id now) ⟨port, remoteAddr, remotePort⟩ =
        (c, effects)) :
      Change n now (.call (.connect id remoteAddr remotePort))
        { n.withSocket id (.connection c) with
          ports := n.ports.connect ⟨port, remoteAddr, remotePort⟩ id }
        effects
  | accepted {id : SocketId} {port : UInt16} {limit : Nat} {backlog : List SocketId}
      (hsocket : n.socket? id = some (.listener port limit backlog)) :
      Change n now (.call (.accept id))
        ((n.withSocket id (.listener port limit (backlog.dropWhile n.isClosed).tail)).discard
          (backlog.takeWhile n.isClosed))
        []
  | released {input : Input} {id : SocketId} {s : Socket} (hsocket : n.socket? id = some s)
      (hinput : input = .call (.release id) ∨ input = .call (.close id)) :
      Change n now input (n.release id) []
  | spawned {packet : Packet} {s : Segment} {id : SocketId} {port : UInt16} {limit : Nat}
      {backlog : List SocketId} {c : Connection} {effects : List Effect}
      (hsegment : packet.segment? = some s) (hroute : n.ports.route s packet.src = .listener id)
      (hsocket : n.socket? id = some (.listener port limit backlog))
      (hroom : backlog.length < limit)
      (hopened : Connection.answer (n.context n.nextId now) ⟨port, packet.src, s.srcPort⟩ s =
        (c, effects)) :
      Change n now (.packet packet)
        { (n.withSocket id (.listener port limit (backlog ++ [n.nextId]))).withSocket n.nextId
            (.connection c) with
          ports := n.ports.connect ⟨port, packet.src, s.srcPort⟩ n.nextId
          nextId := n.nextId + 1 }
        effects
  | moved {input : Input} {id : SocketId} {stimulus : Stimulus} {c c' : Connection}
      {effects : List Effect} (hreaches : n.Reaches input id stimulus)
      (hsocket : n.socket? id = some (.connection c))
      (hrespond : c.respond (n.context id now) stimulus = .ok (c', effects)) :
      Change n now input (n.settle id c c') effects

variable {n n' : Node} {now : Duration} {id : SocketId}

/-! ### Sockets -/

/-- A new node has no sockets. -/
theorem socket?_of_create {addr : NodeAddr} {settings : Settings}
    (h : Node.create addr settings = .ok n) (id : SocketId) : n.socket? id = none := by
  obtain ⟨profile, -, rfl⟩ := exists_of_map_eq_ok h
  exact Table.get?_empty id

theorem socket?_withSocket (n : Node) (id id' : SocketId) (s : Socket) :
    (n.withSocket id s).socket? id' = if id = id' then some s else n.socket? id' :=
  Table.get?_put ..

theorem socket?_settle (n : Node) (id id' : SocketId) (c c' : Connection) :
    (n.settle id c c').socket? id' = if id = id' then some (.connection c') else n.socket? id' := by
  rw [← socket?_withSocket]
  unfold settle
  simp only
  split <;> rfl

theorem socket?_discard (n : Node) (ids : List SocketId) (id : SocketId) :
    (n.discard ids).socket? id = if id ∈ ids then none else n.socket? id := by
  unfold discard socket?
  simp only
  induction ids generalizing n with
  | nil => rfl
  | cons first rest ih =>
    have hrest := ih { n with sockets := n.sockets.erase first }
    simp only at hrest
    rw [List.foldl_cons, hrest, Table.get?_erase]
    by_cases hfirst : first = id
    · subst hfirst
      rw [if_pos rfl, if_pos List.mem_cons_self]
      split <;> rfl
    · rw [if_neg hfirst]
      simp only [List.mem_cons, Ne.symm hfirst, false_or]

theorem socket?_forget (n : Node) (id id' : SocketId) :
    (n.forget id).socket? id' = if id = id' then none else n.socket? id' := by
  unfold forget
  split
  · exact Table.get?_erase ..
  · next hnone =>
    split
    · next heq => rw [← heq, hnone]
    · rfl

/-- Forgetting sockets one by one leaves those that are not among them. -/
theorem socket?_forgetAll (n : Node) (ids : List SocketId) (id : SocketId) :
    (ids.foldl forget n).socket? id = if id ∈ ids then none else n.socket? id := by
  induction ids generalizing n with
  | nil => rfl
  | cons first rest ih =>
    rw [List.foldl_cons, ih, socket?_forget]
    by_cases hfirst : first = id
    · subst hfirst
      rw [if_pos rfl, if_pos List.mem_cons_self]
      split <;> rfl
    · rw [if_neg hfirst]
      simp only [List.mem_cons, Ne.symm hfirst, false_or]

/-- A release only takes sockets away. -/
theorem socket?_of_release {s : Socket} {id' : SocketId} (h : (n.release id).socket? id' = some s) :
    n.socket? id' = some s ∧ id' ≠ id := by
  unfold release at h
  cases hsocket : n.socket? id with
  | none =>
    rw [hsocket] at h
    refine ⟨h, ?_⟩
    rintro rfl
    rw [hsocket] at h
    cases h
  | some before =>
    rw [hsocket] at h
    simp only at h
    rw [socket?_forgetAll, socket?_forget] at h
    split at h
    · cases h
    · split at h
      · cases h
      · next hne => exact ⟨h, Ne.symm hne⟩

/-- Nothing but a new socket changes the next handle, and nothing changes the
    profile. -/
theorem nextId_profile_forget (n : Node) (id : SocketId) :
    (n.forget id).nextId = n.nextId ∧ (n.forget id).profile = n.profile := by
  unfold forget
  split
  · exact ⟨rfl, rfl⟩
  · exact ⟨rfl, rfl⟩

theorem nextId_profile_forgetAll (n : Node) (ids : List SocketId) :
    (ids.foldl forget n).nextId = n.nextId ∧ (ids.foldl forget n).profile = n.profile := by
  induction ids generalizing n with
  | nil => exact ⟨rfl, rfl⟩
  | cons first rest ih =>
    obtain ⟨hid, hprofile⟩ := nextId_profile_forget n first
    obtain ⟨hid', hprofile'⟩ := ih (n.forget first)
    exact ⟨hid'.trans hid, hprofile'.trans hprofile⟩

theorem nextId_profile_release (n : Node) (id : SocketId) :
    (n.release id).nextId = n.nextId ∧ (n.release id).profile = n.profile := by
  unfold release
  split
  · next s _ =>
    obtain ⟨hid, hprofile⟩ := nextId_profile_forget n id
    obtain ⟨hid', hprofile'⟩ := nextId_profile_forgetAll (n.forget id) s.backlog
    exact ⟨hid'.trans hid, hprofile'.trans hprofile⟩
  · exact ⟨rfl, rfl⟩

theorem nextId_profile_settle (n : Node) (id : SocketId) (c c' : Connection) :
    (n.settle id c c').nextId = n.nextId ∧ (n.settle id c c').profile = n.profile := by
  unfold settle
  simp only
  split
  · exact ⟨rfl, rfl⟩
  · exact ⟨rfl, rfl⟩

/-! ### Calls -/

theorem find_eq_ok_iff {s : Socket} : n.find id = .ok s ↔ n.socket? id = some s := by
  unfold find
  cases n.socket? id with
  | none => exact ⟨nofun, nofun⟩
  | some s' =>
    constructor
    · intro h
      cases h
      rfl
    · intro h
      cases h
      rfl

/-- A call that gives a result was made on a socket. -/
theorem exists_of_find {α : Type} {f : Socket → Except SocketError α} {result : α}
    (h : n.find id >>= f = .ok result) : ∃ s, n.socket? id = some s ∧ f s = .ok result := by
  obtain ⟨s, hfind, h⟩ := exists_of_bind_eq_ok h
  exact ⟨s, find_eq_ok_iff.mp hfind, h⟩

theorem bind_eq_ok {port : UInt16} (h : n.bind id port = .ok n') :
    ∃ ports, n.socket? id = some (.fresh none) ∧ n.ports.claim? port = some ports ∧
      n' = { n.withSocket id (.fresh (some port)) with ports } := by
  obtain ⟨s, hsocket, h⟩ := exists_of_find h
  split at h
  · cases h
  · next hport =>
    rw [Socket.localPort?_eq_none_iff] at hport
    subst hport
    split at h
    · next ports hclaim =>
      cases h
      exact ⟨ports, hsocket, hclaim, rfl⟩
    · cases h

theorem listen_eq_ok {limit : Nat} (h : n.listen id limit = .ok n') :
    ∃ port, n.socket? id = some (.fresh (some port)) ∧
      n' = { n.withSocket id (.listener port limit []) with ports := n.ports.listen port id } := by
  obtain ⟨s, hsocket, h⟩ := exists_of_find h
  obtain ⟨port, hport, h⟩ := exists_of_bind_eq_ok h
  rw [Socket.usablePort_eq_ok_iff] at hport
  subst hport
  cases h
  exact ⟨port, hsocket, rfl⟩

theorem connect_eq_ok {remoteAddr : NodeAddr} {remotePort : UInt16} {effects : List Effect}
    (h : n.connect id remoteAddr remotePort now = .ok (n', effects)) :
    ∃ port c, n.socket? id = some (.fresh (some port)) ∧
      Connection.request (n.context id now) ⟨port, remoteAddr, remotePort⟩ = (c, effects) ∧
      n' = { n.withSocket id (.connection c) with
        ports := n.ports.connect ⟨port, remoteAddr, remotePort⟩ id } := by
  obtain ⟨s, hsocket, h⟩ := exists_of_find h
  obtain ⟨port, hport, h⟩ := exists_of_bind_eq_ok h
  rw [Socket.usablePort_eq_ok_iff] at hport
  subst hport
  obtain ⟨hnode, heffects⟩ := Prod.mk.inj (Except.ok.inj h)
  exact ⟨port, _, hsocket, Prod.ext rfl heffects, hnode.symm⟩

/-- A connection that has not come to its end by the move keeps its place in
    the port table. -/
theorem settle_eq_withSocket {c c' : Connection} (h : c'.phase.isClosed = c.phase.isClosed) :
    n.settle id c c' = n.withSocket id (.connection c') := by
  unfold settle
  rw [h, Bool.and_not_self]
  rfl

theorem change_of_write {bytes : List UInt8} {count : Nat} {effects : List Effect}
    (h : n.write id bytes now = .ok (count, n', effects)) :
    n.Change now (.call (.write id bytes)) n' effects := by
  obtain ⟨s, hsocket, h⟩ := exists_of_find h
  cases s with
  | connection c =>
    have hmoved : n.Change now (.call (.write id bytes)) _ _ := .moved .write hsocket rfl
    rw [settle_eq_withSocket (by rw [Connection.phase_write])] at hmoved
    obtain ⟨-, h⟩ := Prod.mk.inj (Except.ok.inj h)
    obtain ⟨rfl, rfl⟩ := Prod.mk.inj h
    exact hmoved
  | _ =>
    cases h
    exact .unmoved nofun

theorem change_of_read {count : Nat} {bytes : List UInt8}
    (h : n.read id count = .ok (bytes, n')) : n.Change now (.call (.read id count)) n' [] := by
  obtain ⟨s, hsocket, h⟩ := exists_of_find h
  cases s with
  | connection c =>
    have hmoved : n.Change now (.call (.read id count)) _ _ := .moved .read hsocket rfl
    rw [settle_eq_withSocket (Connection.isClosed_read count)] at hmoved
    obtain ⟨-, rfl⟩ := Prod.mk.inj (Except.ok.inj h)
    exact hmoved
  | _ =>
    cases h
    exact .unmoved nofun

theorem change_of_close {effects : List Effect} (h : n.close id now = .ok (n', effects)) :
    n.Change now (.call (.close id)) n' effects := by
  obtain ⟨s, hsocket, h⟩ := exists_of_find h
  cases s with
  | fresh port =>
    cases h
    exact .unmoved nofun
  | listener port limit backlog =>
    cases h
    exact .released hsocket (Or.inr rfl)
  | connection c =>
    have hmoved : n.Change now (.call (.close id))
        (n.settle id c (c.close (n.context id now)).1) (c.close (n.context id now)).2 :=
      .moved .close hsocket rfl
    rw [settle_eq_withSocket Connection.isClosed_close] at hmoved
    simp only at h
    split at h
    · cases h
      exact .released hsocket (Or.inr rfl)
    · obtain ⟨rfl, rfl⟩ := Prod.mk.inj (Except.ok.inj h)
      exact hmoved

theorem change_of_accept (n : Node) (now : Duration) (id : SocketId) :
    n.Change now (.call (.accept id)) (n.accept id).2 [] := by
  unfold accept
  split
  · next port limit backlog hsocket =>
    have hchange : n.Change now (.call (.accept id)) _ _ := .accepted hsocket
    split
    · next child rest hrest =>
      rw [hrest] at hchange
      exact hchange
    · next hrest =>
      rw [hrest] at hchange
      exact hchange
  · exact .unmoved nofun

theorem change_of_release (n : Node) (now : Duration) (id : SocketId) :
    n.Change now (.call (.release id)) (n.release id) [] := by
  cases hsocket : n.socket? id with
  | none =>
    unfold release
    rw [hsocket]
    exact .unmoved nofun
  | some s => exact .released hsocket (Or.inl rfl)

/-- A call that fails changes nothing. -/
theorem change_of_orFail {call : Call} {result : Except SocketError (Answer × Node × List Effect)}
    (h : ∀ answer n' effects, result = .ok (answer, n', effects) →
      n.Change now (.call call) n' effects) :
    n.Change now (.call call) (n.orFail result).2.1 (n.orFail result).2.2 := by
  cases result with
  | error e => exact .unmoved nofun
  | ok r => exact h r.1 r.2.1 r.2.2 rfl

theorem change_of_serve (n : Node) (now : Duration) (call : Call) :
    n.Change now (.call call) (n.serve now call).2.1 (n.serve now call).2.2 := by
  cases call with
  | socket => exact .created
  | bind id port =>
    refine change_of_orFail fun answer n' effects h => ?_
    obtain ⟨n'', hbind, heq⟩ := exists_of_map_eq_ok h
    cases heq
    obtain ⟨ports, hsocket, hclaim, rfl⟩ := bind_eq_ok hbind
    exact .bound hsocket hclaim
  | listen id limit =>
    refine change_of_orFail fun answer n' effects h => ?_
    obtain ⟨n'', hlisten, heq⟩ := exists_of_map_eq_ok h
    cases heq
    obtain ⟨port, hsocket, rfl⟩ := listen_eq_ok hlisten
    exact .listening hsocket
  | connect id remoteAddr remotePort =>
    refine change_of_orFail fun answer n' effects h => ?_
    obtain ⟨⟨n'', effects'⟩, hconnect, heq⟩ := exists_of_map_eq_ok h
    cases heq
    obtain ⟨port, c, hsocket, hopened, rfl⟩ := connect_eq_ok hconnect
    exact .connecting hsocket hopened
  | accept id => exact change_of_accept n now id
  | write id bytes =>
    refine change_of_orFail fun answer n' effects h => ?_
    obtain ⟨⟨count, n'', effects'⟩, hwrite, heq⟩ := exists_of_map_eq_ok h
    cases heq
    exact change_of_write hwrite
  | read id count =>
    refine change_of_orFail fun answer n' effects h => ?_
    obtain ⟨⟨bytes, n''⟩, hread, heq⟩ := exists_of_map_eq_ok h
    cases heq
    exact change_of_read hread
  | close id =>
    refine change_of_orFail fun answer n' effects h => ?_
    obtain ⟨⟨n'', effects'⟩, hclose, heq⟩ := exists_of_map_eq_ok h
    cases heq
    exact change_of_close hclose
  | release id => exact change_of_release n now id

/-! ### Packets and timers -/

theorem change_of_onRequest {packet : Packet} {s : Segment} (hsegment : packet.segment? = some s)
    (hroute : n.ports.route s packet.src = .listener id) :
    n.Change now (.packet packet) (n.onRequest id s packet.src now).1
      (n.onRequest id s packet.src now).2 := by
  unfold onRequest
  split
  · next port limit backlog hsocket =>
    split
    · exact .unmoved nofun
    · next hroom =>
      exact .spawned hsegment hroute hsocket (Nat.lt_of_not_le hroom) rfl
  · exact .unmoved nofun

theorem change_of_onConnectionSegment {packet : Packet} {s : Segment} {effects : List Effect}
    (hsegment : packet.segment? = some s)
    (hroute : n.ports.route s packet.src = .connection id)
    (h : n.onConnectionSegment id s now = .ok (n', effects)) :
    n.Change now (.packet packet) n' effects := by
  unfold onConnectionSegment at h
  split at h
  · next c hsocket =>
    obtain ⟨⟨c', effects'⟩, hrespond, heq⟩ := exists_of_map_eq_ok h
    cases heq
    exact .moved (.segment hsegment hroute) hsocket hrespond
  · cases h
    exact .unmoved nofun

theorem change_of_onPacket {packet : Packet} {effects : List Effect}
    (h : n.onPacket packet now = .ok (n', effects)) : n.Change now (.packet packet) n' effects := by
  unfold onPacket at h
  split at h
  · cases h
    exact .unmoved nofun
  · split at h
    · next s hsegment =>
      unfold onSegment at h
      split at h
      · next id hroute =>
        have hchange : n.Change now (.packet packet) _ _ := change_of_onRequest hsegment hroute
        rw [Except.ok.inj h] at hchange
        exact hchange
      · next id hroute => exact change_of_onConnectionSegment hsegment hroute h
      · next reply hroute =>
        cases h
        exact .reset hsegment hroute
      · cases h
        exact .unmoved nofun
    · cases h
      exact .unmoved nofun

theorem change_of_onTimer (n : Node) (now : Duration) (timer : Timer) :
    n.Change now (.timer timer) (n.onTimer timer now).1 (n.onTimer timer now).2 := by
  unfold onTimer
  split
  · next c hsocket => exact .moved .timer hsocket rfl
  · next hsocket =>
    refine .unmoved fun timer' heq c hc => ?_
    cases heq
    exact hsocket c hc

/-- **Every answer of a node is one of its changes.** -/
theorem change_of_react {input : Input} {effects : List Effect}
    (h : n.react now input = .ok (n', effects)) : n.Change now input n' effects := by
  cases input with
  | call call =>
    have hchange := change_of_serve n now call
    rw [Except.ok.inj h] at hchange
    exact hchange
  | packet packet => exact change_of_onPacket h
  | timer timer =>
    have hchange := change_of_onTimer n now timer
    rw [Except.ok.inj h] at hchange
    exact hchange

/-! ### Where sockets come from -/

/-- An acknowledgment from exactly the opposite side of the turn reaches a
    connection. -/
def Opposite (n : Node) (input : Input) : Prop :=
  ∃ id stimulus c, n.Reaches input id stimulus ∧ n.socket? id = some (.connection c) ∧
    c.Opposite stimulus

/-- Handles below the next one are the only ones in use. -/
def Numbered (n : Node) : Prop := ∀ id s, n.socket? id = some s → id < n.nextId

theorem Change.profile {input : Input} {effects : List Effect}
    (h : n.Change now input n' effects) : n'.profile = n.profile := by
  cases h with
  | released => exact (nextId_profile_release n _).2
  | moved => exact (nextId_profile_settle n _ _ _).2
  | _ => rfl

theorem Change.nextId_le {input : Input} {effects : List Effect}
    (h : n.Change now input n' effects) : n.nextId ≤ n'.nextId := by
  cases h with
  | created => exact Nat.le_succ _
  | spawned => exact Nat.le_succ _
  | released => exact Nat.le_of_eq (nextId_profile_release n _).1.symm
  | moved => exact Nat.le_of_eq (nextId_profile_settle n _ _ _).1.symm
  | _ => exact Nat.le_refl _

/-- What a socket was before a change, and how it became what it is. -/
inductive Became (n : Node) (now : Duration) (input : Input) (n' : Node) (effects : List Effect)
    (id : SocketId) : Socket → Prop where
  /-- The socket had no part in the change. -/
  | kept {s : Socket} (hsocket : n.socket? id = some s)
      (hsilent : ∀ t ∈ timersOf effects, t.socket ≠ id)
      (hasleep : ∀ c timer, s = .connection c → input = .timer timer → timer.socket ≠ id) :
      Became n now input n' effects id s
  | created (hid : id = n.nextId) (hnext : n.nextId < n'.nextId) (hquiet : effects = [])
      (hinput : input = .call .socket) :
      Became n now input n' effects id (.fresh none)
  | bound {port : UInt16} (hsocket : n.socket? id = some (.fresh none)) (hquiet : effects = []) :
      Became n now input n' effects id (.fresh (some port))
  | listening {port : UInt16} {limit : Nat} (hsocket : n.socket? id = some (.fresh (some port))) :
      Became n now input n' effects id (.listener port limit [])
  | queued {port : UInt16} {limit : Nat} {backlog backlog' : List SocketId}
      (hsocket : n.socket? id = some (.listener port limit backlog)) :
      Became n now input n' effects id (.listener port limit backlog')
  | opened {port : UInt16} {identity : Identity} {c : Connection}
      (hsocket : n.socket? id = some (.fresh (some port)))
      (hopened : Connection.request (n.context id now) identity = (c, effects)) :
      Became n now input n' effects id (.connection c)
  | spawned {packet : Packet} {identity : Identity} {request : Segment} {c : Connection}
      (hid : id = n.nextId) (hnext : n.nextId < n'.nextId)
      (hopened : Connection.answer (n.context id now) identity request = (c, effects))
      (hinput : input = .packet packet) :
      Became n now input n' effects id (.connection c)
  | moved {stimulus : Stimulus} {c c' : Connection} (hreaches : n.Reaches input id stimulus)
      (hsocket : n.socket? id = some (.connection c))
      (hrespond : c.respond (n.context id now) stimulus = .ok (c', effects)) :
      Became n now input n' effects id (.connection c')

/-- A timer reaches nobody but its own socket. -/
theorem Reaches.timer_socket {input : Input} {stimulus : Stimulus} {timer : Timer}
    (h : n.Reaches input id stimulus) (heq : input = .timer timer) : timer.socket = id := by
  cases h with
  | timer =>
    cases heq
    rfl
  | _ => cases heq

/-- A change at one socket leaves the others as they are. -/
theorem became_of_update {input : Input} {effects : List Effect} {acting : SocketId}
    {s s' : Socket} (hupdate : n'.socket? id = if acting = id then some s' else n.socket? id)
    (hself : n.Became now input n' effects acting s')
    (hsilent : ∀ t ∈ timersOf effects, t.socket = acting)
    (hasleep : ∀ timer, input = .timer timer → timer.socket = acting)
    (hs : n'.socket? id = some s) : n.Became now input n' effects id s := by
  rw [hupdate] at hs
  split at hs
  · next hid =>
    cases hs
    rw [← hid]
    exact hself
  · next hother =>
    refine .kept hs (fun t ht heq => ?_) (fun _ timer _ hinput heq => ?_)
    · exact hother ((hsilent t ht).symm.trans heq)
    · exact hother ((hasleep timer hinput).symm.trans heq)

/-- A change that arms no timer and is none, and only takes sockets away. -/
theorem became_of_subset {call : Call} {s : Socket} (hs : n.socket? id = some s) :
    n.Became now (.call call) n' [] id s :=
  .kept hs (fun t ht => absurd ht List.not_mem_nil) (fun _ _ _ hinput => by cases hinput)

theorem Change.became {input : Input} {effects : List Effect} {s : Socket}
    (h : n.Change now input n' effects) (hs : n'.socket? id = some s) : n.Became now input n' effects id s := by
  -- A call arms no timer unless it opens a connection.
  have hquiet : ∀ {acting : SocketId}, ∀ t ∈ timersOf [], t.socket = acting :=
    fun t ht => absurd ht List.not_mem_nil
  cases h with
  | unmoved hlapsed =>
    refine .kept hs (fun t ht => absurd ht List.not_mem_nil) ?_
    rintro c timer rfl heq rfl
    exact hlapsed timer heq c hs
  | reset =>
    refine .kept hs (fun t ht => ?_) (fun _ _ _ hinput => by cases hinput)
    rw [timersOf_reply] at ht
    cases ht
  | created =>
    exact became_of_update (socket?_withSocket n n.nextId id _)
      (.created rfl (Nat.lt_succ_self _) rfl rfl) hquiet (fun _ hinput => by cases hinput) hs
  | bound hsocket =>
    exact became_of_update (socket?_withSocket n _ id _) (.bound hsocket rfl) hquiet
      (fun _ hinput => by cases hinput) hs
  | listening hsocket =>
    exact became_of_update (socket?_withSocket n _ id _) (.listening hsocket) hquiet
      (fun _ hinput => by cases hinput) hs
  | @connecting acting _ _ _ _ _ hsocket hopened =>
    obtain ⟨-, htimers, -⟩ := Connection.eq_of_request hopened
    refine became_of_update (socket?_withSocket n acting id _) (.opened hsocket hopened) ?_
      (fun _ hinput => by cases hinput) hs
    intro t ht
    rw [htimers] at ht
    rw [List.mem_singleton.mp ht]
    rfl
  | @accepted acting port limit backlog hsocket =>
    rw [socket?_discard] at hs
    split at hs
    · cases hs
    · rw [socket?_withSocket] at hs
      split at hs
      · next hid =>
        cases hs
        exact .queued (hid ▸ hsocket)
      · exact became_of_subset hs
  | released hsocket hinput =>
    have hbefore := (socket?_of_release hs).1
    rcases hinput with rfl | rfl
    · exact became_of_subset hbefore
    · exact became_of_subset hbefore
  | @spawned packet request acting port limit backlog c effects _ _ hsocket _ hopened =>
    obtain ⟨-, htimers, -⟩ := Connection.eq_of_answer hopened
    have hsockets : ((n.withSocket acting (.listener port limit (backlog ++ [n.nextId]))).withSocket
        n.nextId (.connection _)).socket? id = some s := hs
    rw [socket?_withSocket] at hsockets
    split at hsockets
    · next hid =>
      cases hsockets
      exact .spawned hid.symm (Nat.lt_succ_self _) (hid ▸ hopened) rfl
    · next hother =>
      rw [socket?_withSocket] at hsockets
      split at hsockets
      · next hid =>
        cases hsockets
        exact .queued (hid ▸ hsocket)
      · refine .kept hsockets (fun t ht hid => ?_) (fun _ _ _ hinput => by cases hinput)
        rw [htimers] at ht
        rw [List.mem_singleton.mp ht] at hid
        exact hother hid
  | @moved _ acting stimulus c c' _ hreaches hsocket hrespond =>
    exact became_of_update (socket?_settle n acting id c c') (.moved hreaches hsocket hrespond)
      (Connection.responds_of_respond hrespond).timer_socket
      (fun timer hinput => hreaches.timer_socket hinput) hs

/-- Every socket after a change has a handle that is used up. -/
theorem Became.lt_nextId {input : Input} {effects : List Effect} {s : Socket}
    (h : n.Became now input n' effects id s) (hnumbered : n.Numbered)
    (hnext : n.nextId ≤ n'.nextId) : id < n'.nextId := by
  have hold : ∀ {s}, n.socket? id = some s → id < n'.nextId :=
    fun hsocket => Nat.lt_of_lt_of_le (hnumbered id _ hsocket) hnext
  cases h with
  | kept hsocket => exact hold hsocket
  | created hid hlt => rw [hid]; exact hlt
  | bound hsocket => exact hold hsocket
  | listening hsocket => exact hold hsocket
  | queued hsocket => exact hold hsocket
  | opened hsocket => exact hold hsocket
  | spawned hid hlt => rw [hid]; exact hlt
  | moved _ hsocket => exact hold hsocket

/-- The timers that a change arms: none, one for a socket that becomes a
    connection, or those of a connection that moves. -/
inductive Armed (n : Node) (now : Duration) (input : Input) (n' : Node) : List Timer → Prop where
  | none : Armed n now input n' []
  | opened {id : SocketId} {port : UInt16} {event : TimerEvent}
      (hsocket : n.socket? id = some (.fresh (some port))) : Armed n now input n' [⟨id, event⟩]
  | spawned {event : TimerEvent} (hnext : n.nextId < n'.nextId) :
      Armed n now input n' [⟨n.nextId, event⟩]
  | moved {id : SocketId} {stimulus : Stimulus} {c c' : Connection} {timers : List Timer}
      (hreaches : n.Reaches input id stimulus) (hsocket : n.socket? id = some (.connection c))
      (harms : c.Arms (n.context id now) stimulus c' timers) : Armed n now input n' timers

theorem Change.armed {input : Input} {effects : List Effect} (h : n.Change now input n' effects)
    (hfacing : ¬ n.Opposite input)
    (hsound : ∀ id c, n.socket? id = some (.connection c) → c.sender.Sound) :
    n.Armed now input n' (timersOf effects) := by
  cases h with
  | reset =>
    rw [timersOf_reply]
    exact .none
  | connecting hsocket hopened =>
    rw [(Connection.eq_of_request hopened).2.1]
    exact .opened hsocket
  | spawned _ _ _ _ hopened =>
    rw [(Connection.eq_of_answer hopened).2.1]
    exact .spawned (Nat.lt_succ_self _)
  | @moved _ id stimulus c c' _ hreaches hsocket hrespond =>
    have hmoved := Connection.moved_of_respond (hsound id c hsocket)
      (fun hopposite => hfacing ⟨id, stimulus, c, hreaches, hsocket, hopposite⟩) hrespond
    exact .moved hreaches hsocket hmoved.arms
  | _ => exact .none

end Node

end ReliableStream
