import ReliableStream.Proofs.LifeCycle
/-! # Calls that fail

    A call that needs its socket either has what it takes or meets a reason to
    be **refused**, and it fails exactly if it is refused. What it takes to
    bind is said in terms of sockets: no socket may own the port. The node
    looks into its port table instead, which lists exactly the owned ports.

    A node that serves a call at once gives back either an error or the node
    after it. That a failed call leaves nothing behind is said here of **work
    in place**, where every step changes the node it finds and an error takes
    nothing back. Binding changes the port table in its last check: a claim
    that fails finds the port claimed already and leaves the table as it is,
    and after one that succeeds nothing can fail any more. -/

namespace ReliableStream

/-- What an answer means to the caller. -/
def Answer.result : Answer → Except SocketError Answer
  | .failed e => .error e
  | answer => .ok answer

namespace Socket

variable {s : Socket} {port : UInt16}

theorem usablePort_of_open (h : s.state ≠ .closed) :
    s.usablePort = .error (.invalidState s.state) := by
  cases s with
  | fresh => exact absurd rfl h
  | listener => rfl
  | connection c =>
    have hopen : ¬ c.phase.isClosed = true := fun hclosed =>
      h (Phase.isClosed_eq_true_iff.mp hclosed)
    exact if_neg hopen

/-- A closed socket that owns no port was never bound, or its connection is
    over. -/
theorem usablePort_of_unowned (h : s.state = .closed) (hport : s.ownPort? = none) :
    s.usablePort = .error .notBound := by
  cases s with
  | fresh own =>
    cases hport
    rfl
  | listener => cases h
  | connection c => exact if_pos (Phase.isClosed_eq_true_iff.mpr h)

/-- A closed socket that owns its port was bound and not used since. -/
theorem eq_fresh_of_owned (h : s.state = .closed) (hport : s.ownPort? = some port) :
    s = .fresh (some port) := by
  cases s with
  | fresh own =>
    cases hport
    rfl
  | listener => cases h
  | connection c =>
    rw [ownPort?_of_closed (Phase.isClosed_eq_true_iff.mpr h)] at hport
    cases hport

end Socket

namespace Node

variable {n : Node} {now : Duration} {call : Call} {id : SocketId} {e : SocketError}

/-! ### When a node refuses -/

/-- What a call takes to succeed. -/
inductive Permits (n : Node) : Call → Prop where
  | bind {id : SocketId} {port : UInt16} {s : Socket} (hsocket : n.socket? id = some s)
      (hunbound : s.localPort? = none) (hfree : ∀ owner, n.owned? owner ≠ some port) :
      Permits n (.bind id port)
  | opens {call : Call} {id : SocketId} {port : UInt16} {s : Socket} (hopens : call.Opens id)
      (hsocket : n.socket? id = some s) (hclosed : s.state = .closed)
      (howned : s.ownPort? = some port) : Permits n call
  | uses {call : Call} {id : SocketId} {s : Socket} (huses : call.Uses id)
      (hsocket : n.socket? id = some s) : Permits n call

/-- What stands against a call. Of several reasons the one that is checked
    first is told. -/
inductive Refuses (n : Node) : Call → SocketError → Prop where
  | unknown {call : Call} {id : SocketId} (hneeds : call.Needs id) (hnone : n.socket? id = none) :
      Refuses n call (.unknownSocket id)
  | bound {id : SocketId} {port bound : UInt16} {s : Socket} (hsocket : n.socket? id = some s)
      (hbound : s.localPort? = some bound) : Refuses n (.bind id port) (.alreadyBound bound)
  | owned {id owner : SocketId} {port : UInt16} {s : Socket} (hsocket : n.socket? id = some s)
      (hunbound : s.localPort? = none) (howned : n.owned? owner = some port) :
      Refuses n (.bind id port) (.portInUse port)
  | busy {call : Call} {id : SocketId} {s : Socket} (hopens : call.Opens id)
      (hsocket : n.socket? id = some s) (hopen : s.state ≠ .closed) :
      Refuses n call (.invalidState s.state)
  | unowned {call : Call} {id : SocketId} {s : Socket} (hopens : call.Opens id)
      (hsocket : n.socket? id = some s) (hclosed : s.state = .closed)
      (hunowned : s.ownPort? = none) : Refuses n call .notBound

/-- A call that does not have what it takes has a reason against it. -/
theorem permits_or_refuses (n : Node) (hneeds : call.Needs id) :
    n.Permits call ∨ ∃ e, n.Refuses call e := by
  -- The cases follow the order of the checks.
  cases hsocket : n.socket? id with
  | none => exact Or.inr ⟨_, .unknown hneeds hsocket⟩
  | some s =>
    cases hneeds with
    | @bind id port =>
      cases hport : s.localPort? with
      | some bound => exact Or.inr ⟨_, .bound hsocket hport⟩
      | none =>
        by_cases howned : ∃ owner, n.owned? owner = some port
        · obtain ⟨owner, howned⟩ := howned
          exact Or.inr ⟨_, .owned hsocket hport howned⟩
        · exact Or.inl (.bind hsocket hport (not_exists.mp howned))
    | opens hopens =>
      by_cases hclosed : s.state = .closed
      · cases hport : s.ownPort? with
        | some port => exact Or.inl (.opens hopens hsocket hclosed hport)
        | none => exact Or.inr ⟨_, .unowned hopens hsocket hclosed hport⟩
      · exact Or.inr ⟨_, .busy hopens hsocket hclosed⟩
    | uses huses => exact Or.inl (.uses huses hsocket)

/-- A refused call fails for the reason that stands against it, and changes
    nothing. -/
theorem Orderly.serve_of_refuses (h : n.Orderly) (hrefuses : n.Refuses call e) :
    n.serve now call = (.failed e, n, []) := by
  cases hrefuses with
  | unknown hneeds hnone => exact serve_of_none hneeds hnone
  | bound hsocket hbound => exact serve_bind_of_bound hsocket hbound
  | @owned id owner port s hsocket hunbound howned =>
    rw [Socket.localPort?_eq_none_iff] at hunbound
    subst hunbound
    exact serve_bind_of_claimed hsocket ((h.claimed port).mpr ⟨owner, howned⟩)
  | busy hopens hsocket hopen =>
    exact serve_of_unusable hopens hsocket (Socket.usablePort_of_open hopen)
  | unowned hopens hsocket hclosed hunowned =>
    exact serve_of_unusable hopens hsocket (Socket.usablePort_of_unowned hclosed hunowned)

theorem Orderly.serve_of_permits (h : n.Orderly) (hpermits : n.Permits call) :
    (n.serve now call).1 ≠ .failed e := by
  cases hpermits with
  | @bind id port s hsocket hunbound hfree =>
    rw [Socket.localPort?_eq_none_iff] at hunbound
    subst hunbound
    have hclaimed : n.ports.isClaimed port = false := by
      rw [← Bool.not_eq_true, h.claimed, not_exists]
      exact hfree
    rw [serve_bind_of_free hsocket hclaimed]
    nofun
  | opens hopens hsocket hclosed howned =>
    rw [Socket.eq_fresh_of_owned hclosed howned] at hsocket
    rw [serve_of_usable hopens hsocket]
    nofun
  | uses huses hsocket => exact serve_of_uses huses hsocket

/-- A call succeeds exactly if it has what it takes. -/
theorem Orderly.serve_succeeds_iff (h : n.Orderly) (hneeds : call.Needs id) :
    (∀ e, (n.serve now call).1 ≠ .failed e) ↔ n.Permits call := by
  constructor
  · intro hsucceeds
    rcases n.permits_or_refuses hneeds with hpermits | ⟨e, hrefuses⟩
    · exact hpermits
    · exact absurd (by rw [h.serve_of_refuses hrefuses]) (hsucceeds e)
  · exact fun hpermits e => h.serve_of_permits hpermits

/-- A call fails exactly for the reason that stands against it. -/
theorem Orderly.serve_fails_iff (h : n.Orderly) (hneeds : call.Needs id) :
    (n.serve now call).1 = .failed e ↔ n.Refuses call e := by
  constructor
  · intro hfailed
    rcases n.permits_or_refuses hneeds with hpermits | ⟨e', hrefuses⟩
    · exact absurd hfailed (h.serve_of_permits hpermits)
    · rw [h.serve_of_refuses hrefuses] at hfailed
      cases hfailed
      exact hrefuses
  · intro hrefuses
    rw [h.serve_of_refuses hrefuses]

end Node

/-! ### Work in place -/

/-- Work on a node, with what it has sent and armed so far. Work that stops with
    an error leaves both **as they stand**; nothing is taken back. -/
abbrev Work := ExceptT SocketError (StateM (Node × List Effect))

namespace Work

variable {α β : Type}

/-- What work comes to, and what it leaves behind. -/
def perform (work : Work α) (w : Node × List Effect) :
    Except SocketError α × Node × List Effect :=
  (ExceptT.run work).run w

/-- The socket of a handle. -/
def find (id : SocketId) : Work Socket := do
  match (← get).1.socket? id with
  | some s => return s
  | none => throw (.unknownSocket id)

/-- Changes the node. -/
def change (f : Node → Node) : Work Unit := modify fun w => (f w.1, w.2)

/-- Sends packets and arms timers. -/
def emit (effects : List Effect) : Work Unit := modify fun w => (w.1, w.2 ++ effects)

/-- Enters a port among the claimed ones, and says whether it is new there. -/
def claim (port : UInt16) : Work Bool := do
  let before := (← get).1.ports
  -- The entry is made even if the answer is no.
  change fun n => { n with ports := { n.ports with claimed := n.ports.claimed.insert port } }
  return !before.isClaimed port

/-- Stops unless a socket is closed. -/
def demandClosed (s : Socket) : Work Unit :=
  if s.state = .closed then pure () else throw (.invalidState s.state)

/-- The port that a socket owns; stops if there is none. -/
def demandPort (s : Socket) : Work UInt16 :=
  match s.ownPort? with
  | some port => pure port
  | none => throw .notBound

/-- Binds a socket. The last check claims the port. -/
def bind (id : SocketId) (s : Socket) (port : UInt16) : Work Answer := do
  match s.localPort? with
  | some bound => throw (.alreadyBound bound)
  | none =>
    demandClosed s
    match ← claim port with
    | false => throw (.portInUse port)
    | true =>
      change fun n => n.withSocket id (.fresh (some port))
      return .done

/-- Lets a socket listen. -/
def listen (id : SocketId) (s : Socket) (limit : Nat) : Work Answer := do
  demandClosed s
  let port ← demandPort s
  change fun n => { n with ports := n.ports.listen port id }
  change fun n => n.withSocket id (.listener port limit [])
  return .done

/-- Asks for a connection. -/
def connect (id : SocketId) (s : Socket) (remoteAddr : NodeAddr) (remotePort : UInt16)
    (now : Duration) : Work Answer := do
  demandClosed s
  let localPort ← demandPort s
  let identity : Identity := { localPort, remoteAddr, remotePort }
  change fun n => { n with ports := n.ports.connect identity id }
  let opened := Connection.request ((← get).1.context id now) identity
  change fun n => n.withSocket id (.connection opened.1)
  emit opened.2
  return .done

/-- Queues bytes, and says how many were taken. -/
def write (id : SocketId) (s : Socket) (bytes : List UInt8) (now : Duration) : Work Answer := do
  match s with
  | .connection c =>
    let written := c.write ((← get).1.context id now) bytes
    change fun n => n.withSocket id (.connection written.2.1)
    emit written.2.2
    return .written written.1
  | _ => return .written 0

/-- Takes out bytes that have arrived. -/
def read (id : SocketId) (s : Socket) (count : Nat) : Work Answer := do
  match s with
  | .connection c =>
    change fun n => n.withSocket id (.connection (c.read count).2)
    return .bytes (c.read count).1
  | _ => return .bytes []

/-- Closes a socket. -/
def close (id : SocketId) (s : Socket) (now : Duration) : Work Answer := do
  if s.state = .listen ∨ s.state = .synSent then
    change fun n => n.release id
    return .done
  else
    match s with
    | .connection c =>
      let closed := c.close ((← get).1.context id now)
      change fun n => n.withSocket id (.connection closed.1)
      emit closed.2
      return .done
    | _ => return .done

/-- Serves a call. Those that cannot fail are served at once. -/
def serve (now : Duration) : Call → Work Answer
  | .bind id port => do bind id (← find id) port
  | .listen id limit => do listen id (← find id) limit
  | .connect id remoteAddr remotePort => do connect id (← find id) remoteAddr remotePort now
  | .write id bytes => do write id (← find id) bytes now
  | .read id count => do read id (← find id) count
  | .close id => do close id (← find id) now
  | call => do
    let served := (← get).1.serve now call
    change fun _ => served.2.1
    emit served.2.2
    return served.1

variable {n : Node} {w : Node × List Effect} {id : SocketId} {now : Duration} {s : Socket}
  {call : Call}

@[simp]
theorem perform_pure (a : α) : perform (pure a) w = (.ok a, w) := rfl

@[simp]
theorem perform_throw (e : SocketError) : perform (throw e : Work α) w = (.error e, w) := rfl

@[simp]
theorem perform_get : perform (get : Work (Node × List Effect)) w = (.ok w, w) := rfl

@[simp]
theorem perform_change (f : Node → Node) : perform (change f) w = (.ok (), f w.1, w.2) := rfl

@[simp]
theorem perform_emit (effects : List Effect) :
    perform (emit effects) w = (.ok (), w.1, w.2 ++ effects) := rfl

/-- Work after work that stops is not done. -/
@[simp]
theorem perform_then (work : Work α) (rest : α → Work β) : perform (work >>= rest) w =
    match perform work w with
    | (.ok a, w') => perform (rest a) w'
    | (.error e, w') => (.error e, w') := by
  unfold perform
  simp only [ExceptT.run_bind, StateT.run_bind]
  rcases h : (ExceptT.run work).run w with ⟨_ | a, w'⟩
  · rfl
  · rfl

@[simp]
theorem perform_map (f : α → β) (work : Work α) : perform (f <$> work) w =
    match perform work w with
    | (.ok a, w') => (.ok (f a), w')
    | (.error e, w') => (.error e, w') := by
  rw [map_eq_pure_bind, perform_then]
  rfl

theorem perform_find_then (h : w.1.socket? id = some s) (rest : Socket → Work α) :
    perform (find id >>= rest) w = perform (rest s) w := by
  simp [find, h]

theorem perform_find_then_of_none (h : w.1.socket? id = none) (rest : Socket → Work α) :
    perform (find id >>= rest) w = (.error (.unknownSocket id), w) := by
  simp [find, h]

/-- A port that is claimed already stays so, and no entry is added. -/
theorem perform_claim_of_claimed {port : UInt16} (h : w.1.ports.isClaimed port = true) :
    perform (claim port) w = (.ok false, w) := by
  have hmem : port ∈ w.1.ports.claimed := List.contains_iff_mem.mp h
  simp [claim, h, List.insert_of_mem hmem]

theorem perform_claim_of_free {port : UInt16} (h : w.1.ports.isClaimed port = false) :
    perform (claim port) w = (.ok true,
      { w.1 with ports := { w.1.ports with claimed := port :: w.1.ports.claimed } }, w.2) := by
  have hmem : port ∉ w.1.ports.claimed := fun hmem => by
    rw [PortTable.isClaimed, List.contains_iff_mem.mpr hmem] at h
    cases h
  simp [claim, h, List.insert_of_not_mem hmem]

/-- The two checks of a socket whose port is to be used. -/
theorem perform_demand (rest : UInt16 → Work α) :
    perform (do demandClosed s; let port ← demandPort s; rest port) w =
      match s.usablePort with
      | .ok port => perform (rest port) w
      | .error e => (.error e, w) := by
  by_cases hclosed : s.state = .closed
  · cases hport : s.ownPort? with
    | none =>
      rw [Socket.usablePort_of_unowned hclosed hport]
      simp [demandClosed, demandPort, hclosed, hport]
    | some port =>
      obtain rfl := Socket.eq_fresh_of_owned hclosed hport
      simp [demandClosed, demandPort, hclosed, hport, Socket.usablePort]
  · rw [Socket.usablePort_of_open hclosed]
    simp [demandClosed, hclosed]

/-- Work in place comes to the same as a call that is served at once. -/
def Agrees (n : Node) (now : Duration) (call : Call) : Prop :=
  perform (serve now call) (n, []) = ((n.serve now call).1.result, (n.serve now call).2)

theorem agrees_of_none (hneeds : call.Needs id) (hnone : n.socket? id = none) :
    Agrees n now call := by
  unfold Agrees
  rw [Node.serve_of_none hneeds hnone]
  cases hneeds with
  | bind => exact perform_find_then_of_none hnone _
  | opens hopens =>
    cases hopens with
    | listen => exact perform_find_then_of_none hnone _
    | connect => exact perform_find_then_of_none hnone _
  | uses huses =>
    cases huses with
    | write => exact perform_find_then_of_none hnone _
    | read => exact perform_find_then_of_none hnone _
    | close => exact perform_find_then_of_none hnone _

theorem agrees_bind {port : UInt16} (hsocket : n.socket? id = some s) :
    Agrees n now (.bind id port) := by
  unfold Agrees serve bind
  rw [perform_find_then hsocket]
  cases hport : s.localPort? with
  | some bound =>
    rw [Node.serve_bind_of_bound hsocket hport]
    rfl
  | none =>
    obtain rfl := Socket.localPort?_eq_none_iff.mp hport
    have hclosed : (Socket.fresh none).state = .closed := rfl
    -- What is left to stop the work is the claim.
    cases hclaimed : n.ports.isClaimed port with
    | true =>
      rw [Node.serve_bind_of_claimed hsocket hclaimed]
      simp [demandClosed, hclosed, perform_claim_of_claimed, hclaimed, Answer.result]
    | false =>
      rw [Node.serve_bind_of_free hsocket hclaimed]
      simp [demandClosed, hclosed, perform_claim_of_free, hclaimed, Answer.result,
        Node.withSocket]

theorem agrees_opens (hopens : call.Opens id) (hsocket : n.socket? id = some s) :
    Agrees n now call := by
  unfold Agrees
  cases hport : s.usablePort with
  | error e =>
    rw [Node.serve_of_unusable hopens hsocket hport]
    -- Both calls stop at the same two checks.
    have hstops : ∀ rest : UInt16 → Work Answer,
        perform (do let s ← find id; demandClosed s; let port ← demandPort s; rest port) (n, []) =
          (.error e, n, []) := by
      intro rest
      rw [perform_find_then hsocket, perform_demand, hport]
    cases hopens with
    | listen => exact hstops _
    | connect => exact hstops _
  | ok port =>
    obtain rfl := Socket.usablePort_eq_ok_iff.mp hport
    cases hopens with
    | listen =>
      rw [Node.serve_listen hsocket]
      unfold serve listen
      rw [perform_find_then hsocket, perform_demand, hport]
      rfl
    | connect =>
      rw [Node.serve_connect hsocket]
      unfold serve connect
      rw [perform_find_then hsocket, perform_demand, hport]
      rfl

theorem agrees_uses (huses : call.Uses id) (hsocket : n.socket? id = some s) :
    Agrees n now call := by
  unfold Agrees serve
  cases huses with
  | write =>
    refine (perform_find_then hsocket _).trans ?_
    cases s with
    | connection c =>
      rw [Node.serve_write_of_connection hsocket]
      rfl
    | _ =>
      rw [Node.serve_write_of_other hsocket (fun _ => Socket.noConfusion)]
      rfl
  | read =>
    refine (perform_find_then hsocket _).trans ?_
    cases s with
    | connection c =>
      rw [Node.serve_read_of_connection hsocket]
      rfl
    | _ =>
      rw [Node.serve_read_of_other hsocket (fun _ => Socket.noConfusion)]
      rfl
  | close =>
    rw [Node.serve_close hsocket]
    refine (perform_find_then hsocket _).trans ?_
    unfold close
    split
    · rfl
    · cases s <;> rfl

/-- **A call that is made in place comes to the same as one that is served at
    once.** So its checks and changes stand in an order that leaves nothing to
    take back. -/
theorem agrees (n : Node) (now : Duration) (call : Call) : Agrees n now call := by
  have hneeds : ∀ {id}, call.Needs id → Agrees n now call := by
    intro id hneeds
    cases hsocket : n.socket? id with
    | none => exact agrees_of_none hneeds hsocket
    | some s =>
      cases hneeds with
      | bind => exact agrees_bind hsocket
      | opens hopens => exact agrees_opens hopens hsocket
      | uses huses => exact agrees_uses huses hsocket
  -- The calls that cannot fail are served at once either way.
  cases call with
  | bind => exact hneeds .bind
  | listen => exact hneeds (.opens .listen)
  | connect => exact hneeds (.opens .connect)
  | write => exact hneeds (.uses .write)
  | read => exact hneeds (.uses .read)
  | close => exact hneeds (.uses .close)
  | socket => rfl
  | accept => rfl
  | release => rfl

end Work

namespace Node

variable {n : Node}

/-- **Calls are all or nothing.** In every node that a run leads to, a call that
    needs its socket succeeds exactly if it has what it takes, and fails exactly
    for the reason that it is refused for. If it fails, then even the work done
    in place leaves all sockets, the port table and the next handle as they
    were, and sends and arms nothing. -/
theorem calls_all_or_nothing {addr : NodeAddr} {settings : Settings}
    (hcreate : Node.create addr settings = .ok n) (inputs : List (Duration × Input)) (m : Node)
    (hm : n.after inputs = some m) (now : Duration) (call : Call) (id : SocketId)
    (hneeds : call.Needs id) :
    ((∀ e, (m.serve now call).1 ≠ .failed e) ↔ m.Permits call) ∧
      (∀ e, (m.serve now call).1 = .failed e ↔ m.Refuses call e) ∧
      Work.perform (Work.serve now call) (m, []) =
        ((m.serve now call).1.result, (m.serve now call).2) ∧
      (∀ e, (m.serve now call).1 = .failed e → (m.serve now call).2 = (m, []) ∧
        Work.perform (Work.serve now call) (m, []) = (.error e, m, [])) ∧
      ∀ s, m.socket? id = some s → s.localPort? = none → s.state = .closed := by
  have horderly := (orderly_create hcreate).of_after hm
  have hagrees : Work.Agrees m now call := Work.agrees m now call
  refine ⟨horderly.serve_succeeds_iff hneeds, fun e => horderly.serve_fails_iff hneeds, hagrees,
    fun e hfailed => ?_, fun s _ hport => ?_⟩
  · have hserve : m.serve now call = (.failed e, m, []) :=
      horderly.serve_of_refuses ((horderly.serve_fails_iff hneeds).mp hfailed)
    unfold Work.Agrees at hagrees
    rw [hserve] at hagrees
    exact ⟨by rw [hserve], hagrees⟩
  · rw [Socket.localPort?_eq_none_iff.mp hport]
    rfl

/-- A socket asks for a connection and is refused, and another is created. -/
def refusal : List (Duration × Input) :=
  let fin : Segment := ⟨5000, 80, .fin, 0, 0, []⟩
  let packet : Packet :=
    { src := 9, dest := 1, ttl := 15, protocol := .transport, seq := 0
      payload := fin.header fin.frameChecksum }
  [.call .socket, .call (.bind 1 80), .call (.connect 1 9 5000), .packet packet,
    .call .socket].map (.zero, ·)

/-- The refused socket has a port number but no port. So it can neither be bound
    nor listen, and the other socket gets the port. -/
theorem calls_after_refusal : ∃ n, Node.create 1 { mss := 4, bufferSize := 8 } = .ok n ∧
    ∃ m ∈ n.after refusal, m.state 1 = .closed ∧ m.Permits (.bind 2 80) ∧
      m.Refuses (.listen 1 5) .notBound ∧ m.Refuses (.bind 1 81) (.alreadyBound 80) ∧
      Work.perform (Work.serve .zero (.bind 1 81)) (m, []) =
        (.error (.alreadyBound 80), m, []) := by
  have hcreate : Node.create 1 { mss := 4, bufferSize := 8 } = .ok _ := rfl
  refine ⟨_, hcreate, _, Option.get_mem (by decide +kernel), by decide +kernel, ?_⟩
  have hcalls := calls_all_or_nothing hcreate refusal _ (Option.get_mem (by decide +kernel)) .zero
  obtain ⟨hpermits, -⟩ := hcalls (.bind 2 80) 2 .bind
  obtain ⟨-, hlisten, -⟩ := hcalls (.listen 1 5) 1 (.opens .listen)
  obtain ⟨-, hbind, -, hkept, -⟩ := hcalls (.bind 1 81) 1 .bind
  refine ⟨hpermits.mp fun e hfailed => ?_, (hlisten _).mp (by decide +kernel),
    (hbind _).mp (by decide +kernel), (hkept _ (by decide +kernel)).2⟩
  have hdone : Answer.failed e = .done := hfailed.symm.trans (by decide +kernel)
  cases hdone

end Node

end ReliableStream
