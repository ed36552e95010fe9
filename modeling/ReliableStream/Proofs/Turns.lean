import ReliableStream.Proofs.Addressing
import ReliableStream.Proofs.Answers
import ReliableStream.Proofs.Ownership
import ReliableStream.Proofs.Streams
/-! # The turns of a node

    Seen from its connections, a node answers an input in one of four ways, its
    **turns**: no connection acts, a socket opens one, a listener spawns one,
    or one of them moves. At most one connection acts in a turn, and whatever
    the application is told of bytes is about that one. -/

namespace ReliableStream.Node

/-! ### What an input asks of a node -/

/-- The socket that asks for a connection, and the identity it asks for. -/
def asks? (n : Node) : Input → Option (SocketId × Identity)
  | .call (.connect id remoteAddr remotePort) =>
    match n.socket? id with
    | some (.fresh (some port)) => some (id, ⟨port, remoteAddr, remotePort⟩)
    | _ => none
  | _ => none

/-- The connection that an input makes act, if it finds one. -/
def actor? (n : Node) : Input → Option SocketId
  | .call (.connect id _ _) => some id
  | .call (.write id _) => some id
  | .call (.read id _) => some id
  | .call (.close id) => some id
  | .call _ => none
  | .packet packet =>
    match packet.segment?.map fun s => n.ports.route s packet.src with
    | some (.connection id) => some id
    | some (.listener _) => some n.nextId
    | _ => none
  | .timer timer => some timer.socket

/-- The bytes that the application was told are taken. -/
def taken (n : Node) (now : Duration) : Input → List UInt8
  | .call (.write id bytes) =>
    match (n.serve now (.write id bytes)).1 with
    | .written count => bytes.take count
    | _ => []
  | _ => []

/-- The bytes that the application was given. -/
def handed (n : Node) (now : Duration) : Input → List UInt8
  | .call (.read id count) =>
    match (n.serve now (.read id count)).1 with
    | .bytes bytes => bytes
    | _ => []
  | _ => []

/-- What a node does in answer to an input, as its connections see it. -/
inductive Turn (n : Node) (now : Duration) (input : Input) (n' : Node) (effects : List Effect) :
    Prop where
  /-- No connection acts, though some may go, and nothing is sent but the end
      of a connection that nobody has. -/
  | idle (hasks : n.asks? input = none) (htaken : n.taken now input = [])
      (hhanded : n.handed now input = [])
      (hkept : ∀ id c, n'.socket? id = some (.connection c) → n.socket? id = some (.connection c))
      (hsent : ∀ packet ∈ packetsOf effects,
        packet.src = n.addr ∧ ∀ s, packet.segment? = some s → s.kind = .fin)
  | opened {id : SocketId} {port : UInt16} {identity : Identity} {c : Connection}
      (hasks : n.asks? input = some (id, identity))
      (hsocket : n.socket? id = some (.fresh (some port)))
      (hopened : Connection.request (n.context id now) identity = (c, effects))
      (hsockets : ∀ id', n'.socket? id' = if id = id' then some (.connection c) else n.socket? id')
  | spawned {packet : Packet} {s : Segment} {c : Connection} (hinput : input = .packet packet)
      (hsegment : packet.segment? = some s) (hkind : s.kind = .syn)
      (hactor : n.actor? input = some n.nextId)
      (hopened : Connection.answer (n.context n.nextId now) (PortTable.identityOf s packet.src) s =
        (c, effects))
      (hself : n'.socket? n.nextId = some (.connection c))
      (hkept : ∀ id c', id ≠ n.nextId → n'.socket? id = some (.connection c') →
        n.socket? id = some (.connection c'))
  | moved {id : SocketId} {stimulus : Stimulus} {c c' : Connection}
      (hreaches : n.Reaches input id stimulus) (hsocket : n.socket? id = some (.connection c))
      (hrespond : c.respond (n.context id now) stimulus = .ok (c', effects))
      (hsockets : ∀ id', n'.socket? id' = if id = id' then some (.connection c') else n.socket? id')

variable {n n' : Node} {now : Duration} {input : Input} {id : SocketId} {stimulus : Stimulus}
  {c : Connection}

/-! ### The connection that acts -/

/-- Whoever asks for a connection acts. -/
theorem actor?_of_asks? {identity : Identity} (h : n.asks? input = some (id, identity)) :
    n.actor? input = some id := by
  cases input with
  | call call =>
    cases call with
    | connect id' remoteAddr remotePort =>
      simp only [asks?] at h
      split at h
      · cases h
        rfl
      · cases h
    | _ => cases h
  | _ => cases h

/-- What a connection is asked is no request for another. -/
theorem Reaches.asks?_eq_none (h : n.Reaches input id stimulus) : n.asks? input = none := by
  cases h <;> rfl

theorem Reaches.actor? (h : n.Reaches input id stimulus) : n.actor? input = some id := by
  cases h with
  | segment hsegment hroute =>
    unfold Node.actor?
    simp only [hsegment, Option.map_some, hroute]
  | _ => rfl

/-- A node tells its application of the bytes that the connection takes. -/
theorem Reaches.taken (h : n.Reaches input id stimulus)
    (hsocket : n.socket? id = some (.connection c)) (now : Duration) :
    n.taken now input = c.taken (n.context id now) stimulus := by
  cases h with
  | write =>
    simp only [Node.taken, serve_write_of_connection hsocket]
    rfl
  | _ => rfl

/-- A node gives its application the bytes that the connection hands out. -/
theorem Reaches.handed (h : n.Reaches input id stimulus)
    (hsocket : n.socket? id = some (.connection c)) (now : Duration) :
    n.handed now input = c.handed stimulus := by
  cases h with
  | read =>
    simp only [Node.handed, serve_read_of_connection hsocket]
    rfl
  | _ => rfl

/-- Where there is no connection, nothing is taken. -/
theorem taken_of_not_connection (h : ∀ c, n.socket? id ≠ some (.connection c))
    (bytes : List UInt8) : n.taken now (.call (.write id bytes)) = [] := by
  unfold taken
  cases hsocket : n.socket? id with
  | none =>
    simp only [serve, write, find, hsocket]
    rfl
  | some s =>
    cases s with
    | connection c => exact absurd hsocket (h c)
    | _ =>
      simp only [serve, write, find, hsocket]
      rfl

/-- Where there is no connection, nothing is handed out. -/
theorem handed_of_not_connection (h : ∀ c, n.socket? id ≠ some (.connection c)) (count : Nat) :
    n.handed now (.call (.read id count)) = [] := by
  unfold handed
  cases hsocket : n.socket? id with
  | none =>
    simp only [serve, read, find, hsocket]
    rfl
  | some s =>
    cases s with
    | connection c => exact absurd hsocket (h c)
    | _ =>
      simp only [serve, read, find, hsocket]
      rfl

/-- Whoever asks for a connection exchanges no bytes. -/
theorem bytes_of_asks? {identity : Identity} (h : n.asks? input = some (id, identity))
    (now : Duration) : n.taken now input = [] ∧ n.handed now input = [] := by
  cases input with
  | call call =>
    cases call with
    | connect => exact ⟨rfl, rfl⟩
    | _ => cases h
  | _ => cases h

/-! ### Every answer is a turn -/

/-- Packets for nobody are answered with an end. -/
theorem reply_of_route {packet : Packet} {s reply : Segment}
    (hroute : n.ports.route s packet.src = .reset reply) :
    ∀ sent ∈ packetsOf ((n.profile.packet? n.addr packet.src reply).map Effect.send).toList,
      sent.src = n.addr ∧ ∀ s, sent.segment? = some s → s.kind = .fin := by
  intro sent hsent
  cases hmade : n.profile.packet? n.addr packet.src reply with
  | none =>
    rw [hmade] at hsent
    cases hsent
  | some made =>
    rw [hmade] at hsent
    obtain rfl : sent = made := List.mem_singleton.mp hsent
    have hreply := (kind_of_reset hroute).1
    have hcarried := Profile.segment?_of_packet? hmade
    unfold Profile.packet? at hmade
    obtain ⟨frame, -, rfl⟩ := Option.map_eq_some_iff.mp hmade
    refine ⟨rfl, fun s hs => ?_⟩
    rw [hcarried] at hs
    cases hs
    exact hreply

/-- A change that is no request, and of whose bytes the application is not
    told unless a connection moves. -/
theorem turn_of_change {effects : List Effect} (htidy : n.Tidy)
    (hchange : n.Change now input n' effects) (hasks : n.asks? input = none)
    (htaken : n.taken now input = []) (hhanded : n.handed now input = []) :
    n.Turn now input n' effects := by
  have hquiet : ∀ packet ∈ packetsOf [],
      packet.src = n.addr ∧ ∀ s, packet.segment? = some s → s.kind = .fin :=
    fun _ hpacket => absurd hpacket List.not_mem_nil
  -- A socket that is no connection takes the place of another.
  have hput : ∀ {acting s}, (∀ c, s ≠ .connection c) → ∀ id c,
      (n.withSocket acting s).socket? id = some (.connection c) →
      n.socket? id = some (.connection c) := by
    intro acting s hother id c hc
    rw [socket?_withSocket] at hc
    split at hc
    · exact absurd (Option.some.inj hc) (hother c)
    · exact hc
  cases hchange with
  | unmoved => exact .idle hasks htaken hhanded (fun _ _ hc => hc) hquiet
  | reset _ hroute =>
    exact .idle hasks htaken hhanded (fun _ _ hc => hc) (reply_of_route hroute)
  | created => exact .idle hasks htaken hhanded (hput (fun c hc => by cases hc)) hquiet
  | bound => exact .idle hasks htaken hhanded (hput (fun c hc => by cases hc)) hquiet
  | listening => exact .idle hasks htaken hhanded (hput (fun c hc => by cases hc)) hquiet
  | connecting hsocket =>
    unfold asks? at hasks
    simp only [hsocket] at hasks
    cases hasks
  | accepted =>
    refine .idle hasks htaken hhanded (fun id c hc => ?_) hquiet
    rw [socket?_discard] at hc
    split at hc
    · cases hc
    · exact hput (fun c hc => by cases hc) id c hc
  | released => exact .idle hasks htaken hhanded (fun _ _ hc => (socket?_of_release hc).1) hquiet
  | @spawned packet s acting port limit backlog c _ hsegment hroute hsocket _ hopened =>
    obtain ⟨-, hlistener⟩ := route_eq_listener hroute
    obtain ⟨limit', backlog', hs⟩ := htidy.listener _ acting hlistener
    have hport : port = s.dstPort := (Socket.listener.inj
      (Option.some.inj (hsocket.symm.trans hs))).1
    subst hport
    refine .spawned rfl hsegment (kind_of_route hroute) ?_ hopened ?_ fun id c' hne hc' => ?_
    · unfold actor?
      simp only [hsegment, Option.map_some, hroute]
    · exact (socket?_withSocket _ n.nextId n.nextId _).trans (if_pos rfl)
    · have hbefore := (socket?_withSocket _ n.nextId id _).symm.trans hc'
      rw [if_neg (Ne.symm hne)] at hbefore
      exact hput (fun c hc => by cases hc) id c' hbefore
  | moved hreaches hsocket hrespond =>
    exact .moved hreaches hsocket hrespond (socket?_settle n _ · _ _)

/-- **Every answer of a node is one of its turns.** -/
theorem turn_of_react {effects : List Effect} (htidy : n.Tidy)
    (h : n.react now input = .ok (n', effects)) : n.Turn now input n' effects := by
  have hchange := change_of_react h
  cases input with
  | packet packet => exact turn_of_change htidy hchange rfl rfl rfl
  | timer timer => exact turn_of_change htidy hchange rfl rfl rfl
  | call call =>
    cases call with
    | write id bytes =>
      by_cases hconnection : ∃ c, n.socket? id = some (.connection c)
      · obtain ⟨c, hsocket⟩ := hconnection
        have hserved := Except.ok.inj h
        rw [serve_write_of_connection hsocket] at hserved
        cases hserved
        exact .moved .write hsocket rfl (socket?_withSocket n id · _)
      · have hnone := not_exists.mp hconnection
        exact turn_of_change htidy hchange rfl (taken_of_not_connection hnone bytes) rfl
    | read id count =>
      by_cases hconnection : ∃ c, n.socket? id = some (.connection c)
      · obtain ⟨c, hsocket⟩ := hconnection
        have hserved := Except.ok.inj h
        rw [serve_read_of_connection hsocket] at hserved
        cases hserved
        exact .moved .read hsocket rfl (socket?_withSocket n id · _)
      · have hnone := not_exists.mp hconnection
        exact turn_of_change htidy hchange rfl rfl (handed_of_not_connection hnone count)
    | connect id remoteAddr remotePort =>
      cases hasks : n.asks? (.call (.connect id remoteAddr remotePort)) with
      | none => exact turn_of_change htidy hchange hasks rfl rfl
      | some asked =>
        have hasked := hasks
        simp only [asks?] at hasked
        split at hasked
        · next port hsocket =>
          cases hasked
          obtain ⟨c, effects', hopened, hreact⟩ :=
            exists_react_connect hsocket remoteAddr remotePort now
          rw [hreact] at h
          cases h
          exact .opened hasks hsocket hopened (socket?_withSocket n id · _)
        · cases hasked
    | _ => exact turn_of_change htidy hchange rfl rfl rfl

/-! ### Handles without a connection -/

/-- A handle that is not handed out, or whose socket has not become anything
    yet. -/
def Blank (n : Node) (id : SocketId) : Prop :=
  n.nextId ≤ id ∨ ∃ port, n.socket? id = some (.fresh port)

/-- What is blank was never anything else. -/
theorem Change.blank {effects : List Effect} (h : n.Change now input n' effects)
    (hblank : n'.Blank id) : n.Blank id := by
  rcases hblank with hnext | ⟨port, hfresh⟩
  · exact Or.inl (Nat.le_trans h.nextId_le hnext)
  · cases h.became hfresh with
    | kept hsocket => exact Or.inr ⟨port, hsocket⟩
    | created hid => exact Or.inl (Nat.le_of_eq hid.symm)
    | bound hsocket => exact Or.inr ⟨none, hsocket⟩

theorem not_blank_of_connection (hnumbered : n.Numbered)
    (hsocket : n.socket? id = some (.connection c)) : ¬ n.Blank id := by
  rintro (hnext | ⟨port, hfresh⟩)
  · exact absurd (hnumbered id _ hsocket) (Nat.not_lt.mpr hnext)
  · rw [hsocket] at hfresh
    cases hfresh

/-! ### Nodes that only ask -/

/-- No socket listens, and every connection was asked for. -/
def Opens (n : Node) : Prop :=
  ∀ id s, n.socket? id = some s → (∀ port limit backlog, s ≠ .listener port limit backlog) ∧
    ∀ c, s = .connection c → c.origin = .opened

/-- A socket that is no listener takes the place of another. -/
theorem Opens.put {s : Socket} (h : n.Opens)
    (hsockets : ∀ id', n'.socket? id' = if id = id' then some s else n.socket? id')
    (hlistener : ∀ port limit backlog, s ≠ .listener port limit backlog)
    (horigin : ∀ c, s = .connection c → c.origin = .opened) : n'.Opens := by
  intro id' s' hs'
  rw [hsockets] at hs'
  split at hs'
  · cases hs'
    exact ⟨hlistener, horigin⟩
  · exact h id' s' hs'

/-- A node that only asks goes on so until it listens. -/
theorem Opens.change {effects : List Effect} (h : n.Opens)
    (hchange : n.Change now input n' effects)
    (hlisten : ∀ id limit, input ≠ .call (.listen id limit)) : n'.Opens := by
  cases hchange with
  | unmoved => exact h
  | reset => exact h
  | created => exact h.put (socket?_withSocket n _ · _) nofun (fun c hc => by cases hc)
  | bound => exact h.put (socket?_withSocket n _ · _) nofun (fun c hc => by cases hc)
  | listening => exact absurd rfl (hlisten _ _)
  | connecting _ hopened =>
    obtain ⟨⟨stats, rfl⟩, -, -⟩ := Connection.eq_of_request hopened
    refine h.put (socket?_withSocket n _ · _) nofun fun c hc => ?_
    cases hc
    rfl
  | accepted hsocket => exact absurd rfl ((h _ _ hsocket).1 _ _ _)
  | released => exact fun id s hs => h id s (socket?_of_release hs).1
  | spawned _ _ hsocket => exact absurd rfl ((h _ _ hsocket).1 _ _ _)
  | moved _ hsocket hrespond =>
    refine h.put (socket?_settle n _ · _ _) nofun fun c hc => ?_
    cases hc
    rw [(Connection.follows_of_respond hrespond).origin]
    exact (h _ _ hsocket).2 _ rfl

/-- Whoever holds an identity owns its port there, so nobody else asks for it. -/
theorem Opens.not_clashes (h : n.Opens) (horderly : n.Orderly) (input : Input) :
    ¬ n.Clashes input := by
  cases input with
  | call call =>
    cases call with
    | connect id remoteAddr remotePort =>
      rintro ⟨port, holder, hsocket, hheld⟩
      obtain ⟨c, hc, hlive, hidentity⟩ := held?_eq_some_iff.mp hheld
      have hown : n.owned? holder = some port := by
        rw [owned?_of_socket hc]
        simp [Socket.ownPort?, (h holder _ hc).2 c rfl, hlive, hidentity]
      have hsame := horderly.exclusive port holder id hown (owned?_of_socket hsocket)
      rw [hsame, hsocket] at hc
      cases hc
    | _ => exact id
  | _ => exact id

/-! ### What a node keeps -/

theorem addr_forget (n : Node) (id : SocketId) : (n.forget id).addr = n.addr := by
  unfold forget
  split <;> rfl

theorem addr_forgetAll (n : Node) (ids : List SocketId) :
    (ids.foldl forget n).addr = n.addr := by
  induction ids generalizing n with
  | nil => rfl
  | cons first rest ih => exact (ih (n.forget first)).trans (addr_forget n first)

theorem addr_release (n : Node) (id : SocketId) : (n.release id).addr = n.addr := by
  unfold release
  split
  · exact (addr_forgetAll _ _).trans (addr_forget n id)
  · rfl

theorem addr_settle (n : Node) (id : SocketId) (c c' : Connection) :
    (n.settle id c c').addr = n.addr := by
  unfold settle
  simp only
  split <;> rfl

/-- A node keeps its address. -/
theorem Change.addr {effects : List Effect} (h : n.Change now input n' effects) :
    n'.addr = n.addr := by
  cases h with
  | released => exact addr_release n _
  | moved => exact addr_settle n _ _ _
  | _ => rfl

end ReliableStream.Node
