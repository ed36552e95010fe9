import ReliableStream.Proofs.Turns
/-! # The life of a socket

    A socket is created closed, and either listens until it is released or goes
    through one connection: asked for, established, shutting down, closed. A
    connection spawned by a listener starts established.

    A socket that has come back to `closed` is **over**. It keeps the port
    number of its connection but no longer owns the port, and no entry of the
    port table names it. So no call makes anything of it again, no packet
    reaches it, and its late timers find nothing to do. All that is left is to
    read what arrived. -/

namespace ReliableStream

/-- The ways from one state of a socket to another. -/
inductive SocketState.Passes : SocketState → SocketState → Prop where
  | listens : Passes .closed .listen
  | asks : Passes .closed .synSent
  | opens : Passes .synSent .established
  | fails : Passes .synSent .closed
  | leaves : Passes .established .shutdown
  | ends : Passes .shutdown .closed

theorem Phase.isClosed_eq_true_iff {p : Phase} : p.isClosed = true ↔ p.state = .closed := by
  cases p <;> simp [isClosed, state]

/-- The bytes that wait to be read. -/
def Connection.unread (c : Connection) : List UInt8 :=
  (c.phase.receiver?.map fun r => r.buffer.contents).getD []

/-- The bytes that wait to be read from a socket. -/
def Socket.unread : Socket → List UInt8
  | .connection c => c.unread
  | _ => []

/-- The socket that a call is made on. -/
def Call.socket? : Call → Option SocketId
  | .socket => none
  | .bind id _ => some id
  | .listen id _ => some id
  | .connect id _ _ => some id
  | .accept id => some id
  | .write id _ => some id
  | .read id _ => some id
  | .close id => some id
  | .release id => some id

namespace Connection

variable {ctx : Context} {c c' : Connection} {stimulus : Stimulus} {effects : List Effect}

/-- A connection changes its state along the ways only, and coming to its end
    it keeps what waits to be read. -/
theorem Responds.passes (h : c.Responds ctx stimulus c' effects) :
    (c'.phase.state = c.phase.state ∨ c.phase.state.Passes c'.phase.state) ∧
      (c.phase.isClosed = false → c'.phase.isClosed = true → c'.unread = c.unread) := by
  cases h with
  | read =>
    exact ⟨Or.inl (Phase.state_withReceiver _ _), fun hopen hclosed => by
      rw [Phase.isClosed_withReceiver, hopen] at hclosed
      cases hclosed⟩
  | closing hphase =>
    rw [hphase]
    exact ⟨Or.inr .leaves, fun _ hclosed => by cases hclosed⟩
  | opened hphase =>
    rw [hphase]
    exact ⟨Or.inr .opens, fun _ hclosed => by cases hclosed⟩
  | data hopen =>
    refine ⟨Or.inl (Phase.state_withReceiver _ _), fun hopen hclosed => ?_⟩
    rw [Phase.isClosed_withReceiver, hopen] at hclosed
    cases hclosed
  | dropped hopen =>
    refine ⟨Or.inl (Phase.state_withReceiver _ _), fun hopen hclosed => ?_⟩
    rw [Phase.isClosed_withReceiver, hopen] at hclosed
    cases hclosed
  | ended hopen =>
    refine ⟨?_, fun _ hclosed => by cases hclosed⟩
    cases hphase : c.phase with
    | established => exact Or.inr .leaves
    | shutdown => exact Or.inl rfl
    | _ => rw [hphase] at hopen; cases hopen
  | refused hphase =>
    unfold unread
    rw [hphase]
    exact ⟨Or.inr .fails, fun _ _ => rfl⟩
  | finished hphase =>
    unfold unread
    rw [hphase]
    exact ⟨Or.inr .ends, fun _ _ => rfl⟩
  | _ =>
    exact ⟨Or.inl rfl, fun _ _ => rfl⟩

/-- A closed connection answers nothing, and changes only when it is read. -/
theorem Responds.closed (h : c.Responds ctx stimulus c' effects) (hclosed : c.phase.isClosed = true) :
    effects = [] ∧ c'.phase.isClosed = true ∧ c'.sender = c.sender ∧ c'.stats = c.stats ∧
      (c' = c ∨ ∃ count, stimulus = .read count) := by
  have hopen : ∀ {r}, c.phase.openReceiver? ≠ some r := fun hopen => by
    rw [Phase.isClosed_of_openReceiver? hopen] at hclosed
    cases hclosed
  have hphase : ∀ {p : Phase}, c.phase = p → p.isClosed = false → False := fun heq hp => by
    rw [heq, hp] at hclosed
    cases hclosed
  cases h with
  | ignored => exact ⟨rfl, hclosed, rfl, rfl, Or.inl rfl⟩
  | read =>
    exact ⟨rfl, (Phase.isClosed_withReceiver _ _).trans hclosed, rfl, rfl, Or.inr ⟨_, rfl⟩⟩
  | wrote h => exact (hphase h rfl).elim
  | wroteSent h => exact (hphase h rfl).elim
  | closing h => exact (hphase h rfl).elim
  | opened h => exact (hphase h rfl).elim
  | regranted h => exact (hopen h).elim
  | reconfirmed h => exact (hopen h).elim
  | data h => exact (hopen h).elim
  | dropped h => exact (hopen h).elim
  | confirmed h => exact (hopen h).elim
  | acked h => exact (hopen h).elim
  | ackedSent h => exact (hopen h).elim
  | ended h => exact (hopen h).elim
  | refused h => exact (hphase h rfl).elim
  | requested h => exact (hphase h rfl).elim
  | granted h => exact (hopen h).elim
  | waited h => exact (hphase h rfl).elim
  | finished h => exact (hphase h rfl).elim
  | repeated h => exact (hopen h).elim

/-- Reading takes bytes from the front of what waits, in whatever phase. -/
theorem read_unread (c : Connection) (count : Nat) :
    (c.read count).1 = c.unread.take count ∧ (c.read count).2.unread = c.unread.drop count := by
  unfold read unread
  cases hreceiver : c.phase.receiver? with
  | none =>
    simp only [hreceiver]
    exact ⟨List.take_nil.symm, List.drop_nil.symm⟩
  | some r =>
    simp only [Phase.receiver?_withReceiver hreceiver]
    exact ⟨r.buffer.fst_read count, r.buffer.contents_read count⟩

end Connection

namespace Node

/-- The bytes that wait to be read from the socket of a handle. -/
def unread (n : Node) (id : SocketId) : List UInt8 := ((n.socket? id).map Socket.unread).getD []

/-- What an input is meant for: the socket that a call is made on, that a
    packet is routed to, or that armed a timer. -/
inductive Meant (n : Node) (id : SocketId) : Input → Prop where
  | call {call : Call} (hsocket : call.socket? = some id) : Meant n id (.call call)
  | packet {packet : Packet} {s : Segment} (hsegment : packet.segment? = some s)
      (hroute : n.ports.route s packet.src = .connection id ∨
        n.ports.route s packet.src = .listener id) : Meant n id (.packet packet)
  | timer {timer : Timer} (hsocket : timer.socket = id) : Meant n id (.timer timer)

/-- The bytes that an input makes the node hand out from a socket. -/
def handedFrom (n : Node) (id : SocketId) (now : Duration) (input : Input) : List UInt8 :=
  if n.actor? input = some id then n.handed now input else []

/-- The bytes that a run hands out from a socket. -/
def handedBy (n : Node) (id : SocketId) (inputs : List (Duration × Input)) : List UInt8 :=
  (n.course inputs).steps.flatMap fun step => step.before.handedFrom id step.input.1 step.input.2

variable {n n' : Node} {now : Duration} {input : Input} {effects : List Effect}
  {id : SocketId} {s s' : Socket}

theorem unread_of_socket (h : n.socket? id = some s) : n.unread id = s.unread := by
  unfold unread
  rw [h]
  rfl

/-! ### One step -/

/-- What one step does to the sockets of a node. -/
structure Lives (n : Node) (input : Input) (n' : Node) : Prop where
  /-- A socket that is there before and after changes its state along the ways
      only. -/
  passes : ∀ id s s', n.socket? id = some s → n'.socket? id = some s' →
    s'.state = s.state ∨ s.state.Passes s'.state
  /-- Only the application removes sockets. -/
  removed : ∀ id s, n.socket? id = some s → n'.socket? id = none →
    ∃ acting, input = .call (.release acting) ∨ input = .call (.close acting) ∨
      input = .call (.accept acting)
  /-- A new socket is closed and fresh, or it is a spawned connection and
      established. -/
  starts : ∀ id s, n.socket? id = none → n'.socket? id = some s →
    input = .call .socket ∧ s = .fresh none ∨
      ∃ packet c, input = .packet packet ∧ s = .connection c ∧ c.origin = .spawned ∧
        s.state = .established
  /-- Coming to its end, a socket keeps what waits to be read. -/
  keeps : ∀ id s s', n.socket? id = some s → n'.socket? id = some s' → s.state ≠ .closed →
    s'.state = .closed → s'.unread = s.unread

theorem Became.passes (h : n.Became now input n' effects id s') (hnumbered : n.Numbered)
    (hs : n.socket? id = some s) :
    (s'.state = s.state ∨ s.state.Passes s'.state) ∧
      (s.state ≠ .closed → s'.state = .closed → s'.unread = s.unread) := by
  -- There was no socket of the next handle.
  have hold : id ≠ n.nextId := Nat.ne_of_lt (hnumbered id s hs)
  cases h with
  | kept hsocket =>
    rw [hsocket] at hs
    cases hs
    exact ⟨Or.inl rfl, fun _ _ => rfl⟩
  | created hid => exact absurd hid hold
  | bound hsocket =>
    rw [hsocket] at hs
    cases hs
    exact ⟨Or.inl rfl, fun _ _ => rfl⟩
  | listening hsocket =>
    rw [hsocket] at hs
    cases hs
    exact ⟨Or.inr .listens, fun _ hclosed => by cases hclosed⟩
  | queued hsocket =>
    rw [hsocket] at hs
    cases hs
    exact ⟨Or.inl rfl, fun _ _ => rfl⟩
  | opened hsocket hopened =>
    rw [hsocket] at hs
    cases hs
    obtain ⟨⟨stats, rfl⟩, -, -⟩ := Connection.eq_of_request hopened
    exact ⟨Or.inr .asks, fun _ hclosed => by cases hclosed⟩
  | spawned hid => exact absurd hid hold
  | moved _ hsocket hrespond =>
    rw [hsocket] at hs
    cases hs
    obtain ⟨hpasses, hkeeps⟩ := (Connection.responds_of_respond hrespond).passes
    refine ⟨hpasses, fun hopen hclosed => hkeeps ?_ (Phase.isClosed_eq_true_iff.mpr hclosed)⟩
    exact Bool.eq_false_iff.mpr fun hbefore => hopen (Phase.isClosed_eq_true_iff.mp hbefore)

/-- A socket that was not there is new. -/
theorem Became.starts (h : n.Became now input n' effects id s) (hnone : n.socket? id = none) :
    input = .call .socket ∧ s = .fresh none ∨
      ∃ packet c, input = .packet packet ∧ s = .connection c ∧ c.origin = .spawned ∧
        s.state = .established := by
  cases h with
  | created _ _ _ hinput => exact Or.inl ⟨hinput, rfl⟩
  | @spawned packet _ _ c _ _ hopened hinput =>
    obtain ⟨⟨stats, rfl⟩, -, -⟩ := Connection.eq_of_answer hopened
    exact Or.inr ⟨packet, _, hinput, rfl, rfl, rfl⟩
  | kept hsocket => cases hnone.symm.trans hsocket
  | bound hsocket => cases hnone.symm.trans hsocket
  | listening hsocket => cases hnone.symm.trans hsocket
  | queued hsocket => cases hnone.symm.trans hsocket
  | opened hsocket => cases hnone.symm.trans hsocket
  | moved _ hsocket => cases hnone.symm.trans hsocket

/-- Whatever is put in the place of a socket, nothing is removed. -/
theorem socket?_ne_none_of_update {acting : SocketId} {new : Socket} (hs : n.socket? id = some s)
    (hupdate : n'.socket? id = if acting = id then some new else n.socket? id) :
    n'.socket? id ≠ none := by
  rw [hupdate]
  split
  · exact Option.some_ne_none _
  · rw [hs]
    exact Option.some_ne_none _

/-- Only the application removes sockets. -/
theorem Change.removed (h : n.Change now input n' effects) (hs : n.socket? id = some s)
    (hgone : n'.socket? id = none) :
    ∃ acting, input = .call (.release acting) ∨ input = .call (.close acting) ∨
      input = .call (.accept acting) := by
  cases h with
  | unmoved => cases hs.symm.trans hgone
  | reset => cases hs.symm.trans hgone
  | created => exact absurd hgone (socket?_ne_none_of_update hs (socket?_withSocket n _ id _))
  | bound => exact absurd hgone (socket?_ne_none_of_update hs (socket?_withSocket n _ id _))
  | listening => exact absurd hgone (socket?_ne_none_of_update hs (socket?_withSocket n _ id _))
  | connecting => exact absurd hgone (socket?_ne_none_of_update hs (socket?_withSocket n _ id _))
  | accepted => exact ⟨_, Or.inr (Or.inr rfl)⟩
  | released _ hinput => exact ⟨_, hinput.imp_right Or.inl⟩
  | spawned =>
    have hput := (socket?_withSocket _ n.nextId id _).symm.trans hgone
    split at hput
    · cases hput
    · exact absurd hput (socket?_ne_none_of_update hs (socket?_withSocket n _ id _))
  | moved => exact absurd hgone (socket?_ne_none_of_update hs (socket?_settle n _ id _ _))

theorem Change.lives (h : n.Change now input n' effects) (hnumbered : n.Numbered) :
    n.Lives input n' where
  passes _ _ _ hs hs' := ((h.became hs').passes hnumbered hs).1
  removed _ _ hs hgone := h.removed hs hgone
  starts _ _ hnone hs := (h.became hs).starts hnone
  keeps _ _ _ hs hs' := ((h.became hs').passes hnumbered hs).2

/-! ### Sockets that are over -/

/-- The handle was handed out, and its socket is not fresh any more. -/
def Begun (n : Node) (id : SocketId) : Prop :=
  id < n.nextId ∧ ∀ port, n.socket? id ≠ some (.fresh port)

theorem Begun.change (h : n.Begun id) (hchange : n.Change now input n' effects) : n'.Begun id := by
  refine ⟨Nat.lt_of_lt_of_le h.1 hchange.nextId_le, fun port hfresh => ?_⟩
  cases hchange.became hfresh with
  | kept hsocket => exact h.2 port hsocket
  | created hid => exact absurd hid (Nat.ne_of_lt h.1)
  | bound hsocket => exact h.2 none hsocket

/-- The handle was handed out, and if there still is a socket of it, this is a
    closed connection. -/
def Over (n : Node) (id : SocketId) : Prop :=
  id < n.nextId ∧ ∀ s, n.socket? id = some s → ∃ c, s = .connection c ∧ c.phase.isClosed = true

/-- A socket that has begun and is closed is over. -/
theorem Begun.over (h : n.Begun id) (hclosed : n.state id = .closed) : n.Over id := by
  refine ⟨h.1, fun s hs => ?_⟩
  unfold state at hclosed
  rw [hs] at hclosed
  cases s with
  | fresh port => exact absurd hs (h.2 port)
  | listener => cases hclosed
  | connection c => exact ⟨c, rfl, Phase.isClosed_eq_true_iff.mpr hclosed⟩

/-- Whoever is fresh or listens is not over. -/
theorem Over.ne_fresh (h : n.Over id) {acting : SocketId} {port : Option UInt16}
    (hs : n.socket? acting = some (.fresh port)) : acting ≠ id := by
  rintro rfl
  obtain ⟨c, hc, -⟩ := h.2 _ hs
  cases hc

theorem Over.ne_listener (h : n.Over id) {acting : SocketId} {port : UInt16} {limit : Nat}
    {backlog : List SocketId} (hs : n.socket? acting = some (.listener port limit backlog)) :
    acting ≠ id := by
  rintro rfl
  obtain ⟨c, hc, -⟩ := h.2 _ hs
  cases hc

theorem Over.change (h : n.Over id) (hchange : n.Change now input n' effects) : n'.Over id := by
  refine ⟨Nat.lt_of_lt_of_le h.1 hchange.nextId_le, fun s hs => ?_⟩
  have hold : id ≠ n.nextId := Nat.ne_of_lt h.1
  cases hchange.became hs with
  | kept hsocket => exact h.2 s hsocket
  | created hid => exact absurd hid hold
  | bound hsocket => exact (h.ne_fresh hsocket rfl).elim
  | listening hsocket => exact (h.ne_fresh hsocket rfl).elim
  | queued hsocket => exact (h.ne_listener hsocket rfl).elim
  | opened hsocket => exact (h.ne_fresh hsocket rfl).elim
  | spawned hid => exact absurd hid hold
  | @moved _ c c' _ hsocket hrespond =>
    obtain ⟨c₀, hc₀, hclosed⟩ := h.2 _ hsocket
    cases hc₀
    exact ⟨c', rfl, ((Connection.responds_of_respond hrespond).closed hclosed).2.1⟩

/-- Nothing in the port table names a socket that is over. -/
theorem Over.portless (h : n.Over id) (horderly : n.Orderly) :
    n.owned? id = none ∧ (∀ port, n.ports.listener? port ≠ some id) ∧
      ∀ identity, n.ports.connection? identity ≠ some id := by
  refine ⟨?_, fun port hentry => ?_, fun identity hentry => ?_⟩
  · cases hs : n.socket? id with
    | none => simp [owned?, hs]
    | some s =>
      obtain ⟨c, rfl, hclosed⟩ := h.2 s hs
      rw [owned?_of_socket hs]
      exact Socket.ownPort?_of_closed hclosed
  · obtain ⟨limit, backlog, hs⟩ := (horderly.listening port id).mp hentry
    obtain ⟨c, hc, -⟩ := h.2 _ hs
    cases hc
  · obtain ⟨c, hs, hopen, -⟩ := held?_eq_some_iff.mp (horderly.connected identity id hentry)
    obtain ⟨c', hc', hclosed⟩ := h.2 _ hs
    cases hc'
    rw [hopen] at hclosed
    cases hclosed

/-- Every timer that is armed is armed for a socket that is there and has been
    heard of. -/
theorem Change.timer_socket (h : n.Change now input n' effects) :
    ∀ t ∈ timersOf effects, t.socket = n.nextId ∨
      (∃ port, n.socket? t.socket = some (.fresh port)) ∨
      ∃ stimulus c c', n.Reaches input t.socket stimulus ∧
        n.socket? t.socket = some (.connection c) ∧
        c.Responds (n.context t.socket now) stimulus c' effects := by
  intro t ht
  cases h with
  | reset =>
    rw [timersOf_reply] at ht
    cases ht
  | connecting hsocket hopened =>
    rw [(Connection.eq_of_request hopened).2.1] at ht
    rw [List.mem_singleton.mp ht]
    exact Or.inr (Or.inl ⟨_, hsocket⟩)
  | spawned _ _ _ _ hopened =>
    rw [(Connection.eq_of_answer hopened).2.1] at ht
    rw [List.mem_singleton.mp ht]
    exact Or.inl rfl
  | moved hreaches hsocket hrespond =>
    have hresponds := Connection.responds_of_respond hrespond
    obtain rfl : t.socket = _ := hresponds.timer_socket t ht
    exact Or.inr (Or.inr ⟨_, _, _, hreaches, hsocket, hresponds⟩)
  | _ => cases ht

/-- No timer is armed for a socket that is over. -/
theorem Over.silent (h : n.Over id) (hchange : n.Change now input n' effects) :
    ∀ t ∈ timersOf effects, t.socket ≠ id := by
  intro t ht hid
  rcases hchange.timer_socket t ht with hnext | ⟨port, hfresh⟩ | ⟨stimulus, c, c', -, hsocket, hmoved⟩
  · exact absurd (hid.symm.trans hnext) (Nat.ne_of_lt h.1)
  · exact h.ne_fresh hfresh hid
  · rw [hid] at hsocket
    obtain ⟨c₀, hc₀, hclosed⟩ := h.2 _ hsocket
    cases hc₀
    rw [(hmoved.closed hclosed).1] at ht
    cases ht

/-- No packet is meant for a socket that is over. -/
theorem Over.not_routed (h : n.Over id) (horderly : n.Orderly) (segment : Segment) (src : NodeAddr) :
    n.ports.route segment src ≠ .connection id ∧ n.ports.route segment src ≠ .listener id := by
  obtain ⟨-, hlistener, hconnection⟩ := h.portless horderly
  exact ⟨fun hroute => hconnection _ (route_eq_connection hroute),
    fun hroute => hlistener _ (route_eq_listener hroute).2⟩

/-- Whatever is meant for a socket that is over has no effects, and changes
    nothing but this socket. -/
theorem Over.undisturbed (h : n.Over id) (horderly : n.Orderly) (hmeant : n.Meant id input)
    (hchange : n.Change now input n' effects) :
    effects = [] ∧ n'.ports = n.ports ∧ ∀ id', id' ≠ id → n'.socket? id' = n.socket? id' := by
  -- A call is served at the socket that it is made on.
  have hon : ∀ {call : Call} {acting}, input = .call call → call.socket? = some acting →
      acting = id := by
    rintro call acting rfl hacting
    cases hmeant with
    | call hsocket => exact Option.some.inj (hacting.symm.trans hsocket)
  cases hchange with
  | unmoved => exact ⟨rfl, rfl, fun _ _ => rfl⟩
  | reset hsegment hroute =>
    cases hmeant with
    | packet hsegment' hroute' =>
      rw [hsegment] at hsegment'
      cases hsegment'
      rw [hroute] at hroute'
      rcases hroute' with hroute' | hroute' <;> cases hroute'
  | created =>
    cases hmeant with
    | call hsocket => cases hsocket
  | bound hsocket => exact absurd (hon rfl rfl) (h.ne_fresh hsocket)
  | listening hsocket => exact absurd (hon rfl rfl) (h.ne_fresh hsocket)
  | connecting hsocket => exact absurd (hon rfl rfl) (h.ne_fresh hsocket)
  | accepted hsocket => exact absurd (hon rfl rfl) (h.ne_listener hsocket)
  | @released _ acting s hsocket hinput =>
    have hid : acting = id := by
      rcases hinput with hinput | hinput
      · exact hon hinput rfl
      · exact hon hinput rfl
    subst hid
    obtain ⟨c, rfl, hclosed⟩ := h.2 s hsocket
    -- A connection has no queue, and a closed one holds nothing in the table.
    have hrelease : n.release acting = n.forget acting := by
      unfold release
      rw [hsocket]
      rfl
    refine ⟨rfl, ?_, fun id' hne => ?_⟩
    · rw [hrelease]
      unfold forget
      rw [hsocket]
      simp only [portsWithout, hclosed, if_true]
    · rw [hrelease, socket?_forget, if_neg (Ne.symm hne)]
  | spawned hsegment hroute =>
    cases hmeant with
    | packet hsegment' hroute' =>
      obtain ⟨hconnection, hlistener⟩ := h.not_routed horderly _ _
      exact (hroute'.elim hconnection hlistener).elim
  | @moved _ acting stimulus c c' _ hreaches hsocket hrespond =>
    have hid : acting = id := by
      cases hreaches with
      | segment hsegment hroute =>
        cases hmeant with
        | packet hsegment' hroute' =>
          obtain ⟨hconnection, hlistener⟩ := h.not_routed horderly _ _
          exact (hroute'.elim hconnection hlistener).elim
      | timer =>
        cases hmeant with
        | timer hsocket => exact hsocket
      | _ => exact hon rfl rfl
    subst hid
    obtain ⟨c₀, hc₀, hclosed⟩ := h.2 _ hsocket
    cases hc₀
    obtain ⟨heffects, hstays, -⟩ := (Connection.responds_of_respond hrespond).closed hclosed
    rw [settle_eq_withSocket (hstays.trans hclosed.symm)]
    refine ⟨heffects, rfl, fun id' hne => ?_⟩
    rw [socket?_withSocket, if_neg (Ne.symm hne)]

/-! ### Reading what is left -/

/-- What waits at a connection is handed out from the front. -/
theorem unread_of_read {c : Connection} (hsocket : n.socket? id = some (.connection c))
    (now : Duration) (count : Nat) :
    (n.serve now (.read id count)).1 = .bytes ((n.unread id).take count) ∧
      n.handed now (.call (.read id count)) = (n.unread id).take count ∧
      (n.serve now (.read id count)).2.1.unread id = (n.unread id).drop count := by
  obtain ⟨htake, hdrop⟩ := c.read_unread count
  have hunread : n.unread id = c.unread := unread_of_socket hsocket
  have hhanded : n.handed now (.call (.read id count)) = (c.read count).1 :=
    Reaches.read.handed hsocket now
  rw [hhanded, serve_read_of_connection hsocket, hunread]
  refine ⟨congrArg _ htake, htake, ?_⟩
  rw [← hdrop]
  exact unread_of_socket ((socket?_withSocket n id id _).trans (if_pos rfl))

/-- Nothing but a read hands out bytes. -/
theorem handedFrom_eq_nil (h : ∀ count, input ≠ .call (.read id count)) :
    n.handedFrom id now input = [] := by
  unfold handedFrom
  split
  · next hactor =>
    cases input with
    | call call =>
      cases call with
      | read id' count =>
        cases hactor
        exact absurd rfl (h count)
      | _ => rfl
    | _ => rfl
  · rfl

/-- What waits at a socket that is over is either handed out or waits on. -/
theorem Over.unread_eq (h : n.Over id) (hreact : n.react now input = .ok (n', effects))
    (hs : n'.socket? id = some s) :
    n.unread id = n.handedFrom id now input ++ n'.unread id := by
  have hchange := change_of_react hreact
  by_cases hread : ∃ count, input = .call (.read id count)
  · obtain ⟨count, rfl⟩ := hread
    cases hsocket : n.socket? id with
    | none => cases (hchange.socket?_of_none hsocket h.1).symm.trans hs
    | some before =>
      obtain ⟨c, rfl, -⟩ := h.2 before hsocket
      obtain ⟨-, hhanded, hleft⟩ := unread_of_read hsocket now count
      obtain rfl : n' = (n.serve now (.read id count)).2.1 :=
        congrArg Prod.fst (Except.ok.inj hreact).symm
      have hfrom : n.handedFrom id now (.call (.read id count)) = _ := (if_pos rfl).trans hhanded
      rw [hfrom, hleft, List.take_append_drop]
  · rw [handedFrom_eq_nil fun count hinput => hread ⟨count, hinput⟩, List.nil_append,
      unread_of_socket hs]
    have hold : id ≠ n.nextId := Nat.ne_of_lt h.1
    cases hchange.became hs with
    | kept hsocket => exact unread_of_socket hsocket
    | created hid => exact absurd hid hold
    | bound hsocket => exact (h.ne_fresh hsocket rfl).elim
    | listening hsocket => exact (h.ne_fresh hsocket rfl).elim
    | queued hsocket => exact (h.ne_listener hsocket rfl).elim
    | opened hsocket => exact (h.ne_fresh hsocket rfl).elim
    | spawned hid => exact absurd hid hold
    | moved hreaches hsocket hrespond =>
      obtain ⟨c₀, hc₀, hclosed⟩ := h.2 _ hsocket
      cases hc₀
      obtain ⟨-, -, -, -, hsame⟩ := (Connection.responds_of_respond hrespond).closed hclosed
      rcases hsame with rfl | ⟨count, rfl⟩
      · exact unread_of_socket hsocket
      · cases hreaches with
        | read => exact absurd ⟨count, rfl⟩ hread

/-! ### Whole runs -/

theorem Orderly.of_after (h : n.Orderly) {inputs : List (Duration × Input)} {m : Node}
    (hm : n.after inputs = some m) : m.Orderly :=
  Node.of_after Orderly h (fun _ _ _ _ _ h hreact => h.change (change_of_react hreact)) hm

/-- Through a whole run, what waits at a socket that is over is handed out in
    order. -/
theorem Over.unread_after (h : n.Over id) {inputs : List (Duration × Input)} {m : Node}
    (hm : n.after inputs = some m) (hs : m.socket? id = some s) :
    n.unread id = n.handedBy id inputs ++ m.unread id := by
  refine (Transducer.steps_induction (P := fun past m => m.Over id ∧ ∀ s, m.socket? id = some s →
    n.unread id = (past.flatMap fun step =>
      step.before.handedFrom id step.input.1 step.input.2) ++ m.unread id)
    ⟨h, fun _ _ => rfl⟩ ?_ (final_of_after hm)).2 s hs
  · rintro past m₁ ⟨now, input⟩ ⟨m₂, effects⟩ ⟨hover, hpast⟩ hreact
    have hchange := change_of_react hreact
    refine ⟨hover.change hchange, fun s₂ hs₂ => ?_⟩
    -- A socket that is there at the end was there all along.
    cases hs₁ : m₁.socket? id with
    | none => cases (hchange.socket?_of_none hs₁ hover.1).symm.trans hs₂
    | some s₁ =>
      rw [List.flatMap_append, List.flatMap_singleton, List.append_assoc, hpast s₁ hs₁]
      exact congrArg _ (hover.unread_eq hreact hs₂)

/-- A socket is at rest: it is closed or gone, holds nothing, does nothing, and
    can be read and nothing else. -/
structure Rests (n : Node) (id : SocketId) : Prop where
  closed : n.state id = .closed
  gone : n.socket? id = none → n.Spent id
  /-- It owns no port, and no entry of the port table names it. -/
  portless : n.owned? id = none ∧ (∀ port, n.ports.listener? port ≠ some id) ∧
    ∀ identity, n.ports.connection? identity ≠ some id
  /-- No step arms a timer for it. What is meant for it has no effects, and
      changes nothing but the socket itself. -/
  silent : ∀ now input n' effects, n.react now input = .ok (n', effects) →
    (∀ t ∈ timersOf effects, t.socket ≠ id) ∧
      (n.Meant id input →
        effects = [] ∧ n'.ports = n.ports ∧ ∀ id', id' ≠ id → n'.socket? id' = n.socket? id')
  /-- While it is there it still has its port number, so it cannot be bound to
      another; and it cannot listen or ask on a port that it does not own. -/
  refused : ∀ s, n.socket? id = some s → ∃ bound, s.localPort? = some bound ∧ ∀ now,
    (∀ port, n.serve now (.bind id port) = (.failed (.alreadyBound bound), n, [])) ∧
    (∀ limit, n.serve now (.listen id limit) = (.failed .notBound, n, [])) ∧
    (∀ remoteAddr remotePort,
      n.serve now (.connect id remoteAddr remotePort) = (.failed .notBound, n, [])) ∧
    ∀ bytes, (n.serve now (.write id bytes)).1 = .written 0
  /-- While it is there, what waits can be read. -/
  readable : ∀ s, n.socket? id = some s → ∀ now count,
    (n.serve now (.read id count)).1 = .bytes ((n.unread id).take count)

/-- Calls that would make something of a closed connection fail. -/
theorem refused_of_closed {c : Connection} (hsocket : n.socket? id = some (.connection c))
    (hclosed : c.phase.isClosed = true) (now : Duration) :
    (∀ port, n.serve now (.bind id port) =
      (.failed (.alreadyBound c.identity.localPort), n, [])) ∧
    (∀ limit, n.serve now (.listen id limit) = (.failed .notBound, n, [])) ∧
    (∀ remoteAddr remotePort,
      n.serve now (.connect id remoteAddr remotePort) = (.failed .notBound, n, [])) ∧
    ∀ bytes, (n.serve now (.write id bytes)).1 = .written 0 := by
  have hport : (Socket.connection c).usablePort = .error .notBound := if_pos hclosed
  refine ⟨fun port => ?_, fun limit => ?_, fun remoteAddr remotePort => ?_, fun bytes => ?_⟩
  · exact serve_bind_of_bound hsocket rfl
  · exact serve_of_unusable .listen hsocket hport
  · exact serve_of_unusable .connect hsocket hport
  · rw [serve_write_of_connection hsocket]
    unfold Connection.write
    cases hphase : c.phase with
    | closed => rfl
    | _ => exact absurd hclosed (by rw [hphase]; exact Bool.false_ne_true)

theorem Over.rests (h : n.Over id) (horderly : n.Orderly) : n.Rests id where
  closed := by
    unfold state
    cases hs : n.socket? id with
    | none => rfl
    | some s =>
      obtain ⟨c, rfl, hclosed⟩ := h.2 s hs
      exact Phase.isClosed_eq_true_iff.mp hclosed
  gone hnone := spent_of_none hnone h.1
  portless := h.portless horderly
  silent now input n' effects hreact :=
    ⟨h.silent (change_of_react hreact),
      fun hmeant => h.undisturbed horderly hmeant (change_of_react hreact)⟩
  refused s hs := by
    obtain ⟨c, rfl, hclosed⟩ := h.2 s hs
    exact ⟨_, rfl, refused_of_closed hs hclosed⟩
  readable s hs now count := by
    obtain ⟨c, rfl, -⟩ := h.2 s hs
    exact (unread_of_read hs now count).1

/-- A socket that is not closed has begun. -/
theorem begun_of_state (hnumbered : n.Numbered) (h : n.state id ≠ .closed) : n.Begun id := by
  unfold state at h
  cases hs : n.socket? id with
  | none =>
    rw [hs] at h
    exact absurd rfl h
  | some s =>
    refine ⟨hnumbered id s hs, fun port hfresh => ?_⟩
    rw [hfresh] at h
    exact h rfl

/-- **The life of a socket.** In every run of a node each step changes the
    state of a socket along the ways only. A socket that was not closed and is
    closed again is at rest, whatever the run goes on with, and what waits to
    be read is handed out in order. -/
theorem life_of_sockets {addr : NodeAddr} {settings : Settings}
    (hcreate : Node.create addr settings = .ok n) (inputs : List (Duration × Input)) (m : Node)
    (hm : n.after inputs = some m) :
    (∀ now input m' effects, m.react now input = .ok (m', effects) → m.Lives input m') ∧
      ∀ id, m.state id ≠ .closed → ∀ later m', m.after later = some m' → m'.state id = .closed →
        ∀ rest m'', m'.after rest = some m'' → m''.Rests id ∧
          ∀ s, m''.socket? id = some s → m'.unread id = m'.handedBy id rest ++ m''.unread id := by
  have horderly := (orderly_create hcreate).of_after hm
  refine ⟨fun now input m' effects hreact => (change_of_react hreact).lives horderly.numbered, ?_⟩
  intro id hopen later m' hlater hclosed rest m'' hrest
  have hbegun : m'.Begun id := Node.of_after (Begun · id)
    (begun_of_state horderly.numbered hopen)
    (fun _ _ _ _ _ h hreact => h.change (change_of_react hreact)) hlater
  have hover := hbegun.over hclosed
  have hlast : m''.Over id := Node.of_after (Over · id) hover
    (fun _ _ _ _ _ h hreact => h.change (change_of_react hreact)) hrest
  exact ⟨hlast.rests ((horderly.of_after hlater).of_after hrest),
    fun s hs => hover.unread_after hrest hs⟩

/-- A listener spawns a connection, which takes in three bytes. -/
def serving : List (Duration × Input) :=
  let packet (s : Segment) : Packet :=
    { src := 9, dest := 1, ttl := 15, protocol := .transport, seq := s.seq
      payload := s.header s.frameChecksum ++ s.payload }
  [.call .socket, .call (.bind 1 80), .call (.listen 1 5),
    .packet (packet ⟨5000, 80, .syn, 4, 100, []⟩),
    .packet (packet ⟨5000, 80, .data, 4, 101, [1, 2, 3]⟩)].map (.zero, ·)

/-- The peer announces its end, and the connection comes to its own. -/
def ending : List (Duration × Input) :=
  let fin : Segment := ⟨5000, 80, .fin, 0, 104, []⟩
  let packet : Packet :=
    { src := 9, dest := 1, ttl := 15, protocol := .transport, seq := 104
      payload := fin.header fin.frameChecksum }
  [.packet packet, .timer ⟨2, .shutdownCheck 1⟩].map (.zero, ·)

/-- The spawned connection comes to rest with its three bytes, two of which are
    read. -/
theorem life_of_spawned : ∃ n, Node.create 1 { mss := 4, bufferSize := 8 } = .ok n ∧
    ∃ m ∈ n.after serving, m.state 2 = .established ∧
      ∃ m' ∈ m.after ending, m'.state 2 = .closed ∧ m'.unread 2 = [1, 2, 3] ∧
        ∃ m'' ∈ m'.after [(.zero, .call (.read 2 2)), (.zero, .timer ⟨2, .retransmitSynAck 101⟩)],
          m''.unread 2 = [3] ∧ m''.Rests 2 := by
  have hcreate : Node.create 1 { mss := 4, bufferSize := 8 } = .ok _ := rfl
  refine ⟨_, hcreate, _, Option.get_mem (by decide +kernel), by decide +kernel,
    _, Option.get_mem (by decide +kernel), by decide +kernel, by decide +kernel,
    _, Option.get_mem (by decide +kernel), by decide +kernel, ?_⟩
  exact ((life_of_sockets hcreate serving _ (Option.get_mem _)).2 2 (by decide +kernel)
    ending _ (Option.get_mem _) (by decide +kernel) _ _ (Option.get_mem _)).1

end Node

end ReliableStream
