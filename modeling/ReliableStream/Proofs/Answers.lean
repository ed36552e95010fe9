import ReliableStream.Proofs.Changes
/-! # What a node answers

    The answer to a call, case by case. A call that needs its socket fails if
    there is none. Binding needs a socket without a port and a port that nobody
    has claimed, listening and connecting need a port that can be used, and the
    other calls can be served by any socket. -/

namespace ReliableStream

/-- The calls that put the port of a closed socket to use. -/
inductive Call.Opens : Call → SocketId → Prop where
  | listen {id : SocketId} {limit : Nat} : Opens (.listen id limit) id
  | connect {id : SocketId} {remoteAddr : NodeAddr} {remotePort : UInt16} :
      Opens (.connect id remoteAddr remotePort) id

/-- The calls that any socket can serve. -/
inductive Call.Uses : Call → SocketId → Prop where
  | write {id : SocketId} {bytes : List UInt8} : Uses (.write id bytes) id
  | read {id : SocketId} {count : Nat} : Uses (.read id count) id
  | close {id : SocketId} : Uses (.close id) id

/-- The calls that need their socket to exist. -/
inductive Call.Needs : Call → SocketId → Prop where
  | bind {id : SocketId} {port : UInt16} : Needs (.bind id port) id
  | opens {call : Call} {id : SocketId} (hopens : call.Opens id) : Needs call id
  | uses {call : Call} {id : SocketId} (huses : call.Uses id) : Needs call id

namespace Node

variable {n : Node} {now : Duration} {call : Call} {id : SocketId} {s : Socket} {c : Connection}
  {port : UInt16} {e : SocketError}

theorem serve_of_none (hneeds : call.Needs id) (hnone : n.socket? id = none) :
    n.serve now call = (.failed (.unknownSocket id), n, []) := by
  have hfind : n.find id = .error (.unknownSocket id) := by simp [find, hnone]
  cases hneeds with
  | bind =>
    simp only [serve, Node.bind, hfind]
    rfl
  | opens hopens =>
    cases hopens with
    | listen =>
      simp only [serve, Node.listen, hfind]
      rfl
    | connect =>
      simp only [serve, Node.connect, hfind]
      rfl
  | uses huses =>
    cases huses with
    | write =>
      simp only [serve, Node.write, hfind]
      rfl
    | read =>
      simp only [serve, Node.read, hfind]
      rfl
    | close =>
      simp only [serve, Node.close, hfind]
      rfl

theorem serve_bind_of_bound {bound : UInt16} (hsocket : n.socket? id = some s)
    (hport : s.localPort? = some bound) :
    n.serve now (.bind id port) = (.failed (.alreadyBound bound), n, []) := by
  simp [serve, Node.bind, find_eq_ok_iff.mpr hsocket, hport, orFail, Except.map, Bind.bind,
    Except.bind]

theorem serve_bind_of_claimed (hsocket : n.socket? id = some (.fresh none))
    (hclaimed : n.ports.isClaimed port = true) :
    n.serve now (.bind id port) = (.failed (.portInUse port), n, []) := by
  simp [serve, Node.bind, find_eq_ok_iff.mpr hsocket, Socket.localPort?, PortTable.claim?, hclaimed,
    orFail, Except.map, Bind.bind, Except.bind]

theorem serve_bind_of_free (hsocket : n.socket? id = some (.fresh none))
    (hfree : n.ports.isClaimed port = false) :
    n.serve now (.bind id port) = (.done,
      { n.withSocket id (.fresh (some port)) with
        ports := { n.ports with claimed := port :: n.ports.claimed } }, []) := by
  simp [serve, Node.bind, find_eq_ok_iff.mpr hsocket, Socket.localPort?, PortTable.claim?, hfree,
    orFail, Except.map, Bind.bind, Except.bind]

theorem serve_of_unusable (hopens : call.Opens id) (hsocket : n.socket? id = some s)
    (hport : s.usablePort = .error e) : n.serve now call = (.failed e, n, []) := by
  cases hopens with
  | listen =>
    simp [serve, Node.listen, find_eq_ok_iff.mpr hsocket, hport, orFail, Except.map, Bind.bind,
      Except.bind]
  | connect =>
    simp [serve, Node.connect, find_eq_ok_iff.mpr hsocket, hport, orFail, Except.map, Bind.bind,
      Except.bind]

theorem serve_listen {limit : Nat} (hsocket : n.socket? id = some (.fresh (some port))) :
    n.serve now (.listen id limit) = (.done,
      { n.withSocket id (.listener port limit []) with ports := n.ports.listen port id }, []) := by
  simp only [serve, Node.listen, find_eq_ok_iff.mpr hsocket]
  rfl

theorem serve_connect {remoteAddr : NodeAddr} {remotePort : UInt16}
    (hsocket : n.socket? id = some (.fresh (some port))) :
    n.serve now (.connect id remoteAddr remotePort) =
      let opened := Connection.request (n.context id now) ⟨port, remoteAddr, remotePort⟩
      (.done, { n.withSocket id (.connection opened.1) with
        ports := n.ports.connect ⟨port, remoteAddr, remotePort⟩ id }, opened.2) := by
  simp only [serve, Node.connect, find_eq_ok_iff.mpr hsocket]
  rfl

theorem serve_write_of_connection (hsocket : n.socket? id = some (.connection c))
    (bytes : List UInt8) :
    n.serve now (.write id bytes) =
      (.written (c.write (n.context id now) bytes).1,
        n.withSocket id (.connection (c.write (n.context id now) bytes).2.1),
        (c.write (n.context id now) bytes).2.2) := by
  simp only [serve, write, find_eq_ok_iff.mpr hsocket]
  rfl

theorem serve_read_of_connection (hsocket : n.socket? id = some (.connection c)) (count : Nat) :
    n.serve now (.read id count) =
      (.bytes (c.read count).1, n.withSocket id (.connection (c.read count).2), []) := by
  simp only [serve, read, find_eq_ok_iff.mpr hsocket]
  rfl

/-- What is no connection takes no bytes. -/
theorem serve_write_of_other (hsocket : n.socket? id = some s) (hother : ∀ c, s ≠ .connection c)
    (bytes : List UInt8) : n.serve now (.write id bytes) = (.written 0, n, []) := by
  simp only [serve, write, find_eq_ok_iff.mpr hsocket]
  cases s with
  | connection c => exact absurd rfl (hother c)
  | _ => rfl

/-- What is no connection has no bytes. -/
theorem serve_read_of_other (hsocket : n.socket? id = some s) (hother : ∀ c, s ≠ .connection c)
    (count : Nat) : n.serve now (.read id count) = (.bytes [], n, []) := by
  simp only [serve, read, find_eq_ok_iff.mpr hsocket]
  cases s with
  | connection c => exact absurd rfl (hother c)
  | _ => rfl

theorem serve_close (hsocket : n.socket? id = some s) :
    n.serve now (.close id) =
      if s.state = .listen ∨ s.state = .synSent then (.done, n.release id, [])
      else
        match s with
        | .connection c =>
          let closed := c.close (n.context id now)
          (.done, n.withSocket id (.connection closed.1), closed.2)
        | _ => (.done, n, []) := by
  simp only [serve, Node.close, find_eq_ok_iff.mpr hsocket]
  cases s with
  | fresh => rfl
  | listener => rfl
  | connection c =>
    obtain ⟨_, _, _, phase⟩ := c
    cases phase <;> rfl

theorem serve_of_usable (hopens : call.Opens id)
    (hsocket : n.socket? id = some (.fresh (some port))) : (n.serve now call).1 = .done := by
  cases hopens with
  | listen => rw [serve_listen hsocket]
  | connect => rw [serve_connect hsocket]

theorem serve_of_uses (huses : call.Uses id) (hsocket : n.socket? id = some s) :
    (n.serve now call).1 ≠ .failed e := by
  cases huses with
  | write =>
    cases s with
    | connection c =>
      rw [serve_write_of_connection hsocket]
      nofun
    | _ =>
      rw [serve_write_of_other hsocket (fun _ => Socket.noConfusion)]
      nofun
  | read =>
    cases s with
    | connection c =>
      rw [serve_read_of_connection hsocket]
      nofun
    | _ =>
      rw [serve_read_of_other hsocket (fun _ => Socket.noConfusion)]
      nofun
  | close =>
    rw [serve_close hsocket]
    split
    · nofun
    · split <;> nofun

end Node

end ReliableStream
