import ReliableStream.Proofs.Ending
/-! # What sockets count

    A connection counts the segments it has sent. The count is right: on the
    ledger of its socket there are exactly as many packets. A segment is counted
    where it is sent and nowhere else, so one lemma for each handler carries the
    count through a step, and the run follows. -/

namespace ReliableStream

namespace Connection

variable {ctx : Context} {c : Connection}

/-- What a connection sends in one answer, it adds to its count. -/
def Tallies (c : Connection) (answer : Connection × List Effect) : Prop :=
  answer.1.stats.segmentsSent = c.stats.segmentsSent + (packetsOf answer.2).length

theorem tallies_transmit (c : Connection) (ctx : Context) (segments : List Segment) :
    c.Tallies (c.transmit ctx segments) := by
  unfold Tallies transmit
  dsimp only
  rw [packetsOf_map_send]

/-- Arming a timer sends nothing. -/
theorem Tallies.arm {c' : Connection} {effects : List Effect} (h : c.Tallies (c', effects))
    (ctx : Context) (delay : Duration) (event : TimerEvent) :
    c.Tallies (c', effects ++ [ctx.arm delay event]) := by
  unfold Tallies at h ⊢
  rw [packetsOf_append, packetsOf_arm, List.append_nil]
  exact h

theorem tallies_transmitFlight (c : Connection) (ctx : Context) (flight : Flight) :
    c.Tallies (c.transmitFlight ctx flight) := by
  -- Flights that are sent again are counted too, but in a count of their own.
  have hsent := tallies_transmit { c with
    stats := { c.stats with windowsRetransmitted :=
      c.stats.windowsRetransmitted + (if flight.retransmit then 1 else 0) } } ctx flight.segments
  exact (hsent : c.Tallies _).arm ctx flight.timeout (.windowTimeout flight.generation)

theorem tallies_sendWindow (c : Connection) (ctx : Context) :
    c.Tallies (c.sendWindow ctx) := by
  unfold sendWindow
  split
  · next flight sender _ => exact tallies_transmitFlight { c with sender } ctx flight
  · rfl

theorem tallies_write (c : Connection) (ctx : Context) (bytes : List UInt8) :
    c.Tallies (c.write ctx bytes).2 := by
  unfold write
  split
  · dsimp only
    split
    · exact tallies_sendWindow { c with sender := (c.sender.write bytes).2 } ctx
    · rfl
  · rfl

theorem tallies_read (c : Connection) (count : Nat) : c.Tallies ((c.read count).2, []) := by
  unfold read
  split
  · rfl
  · rfl

theorem tallies_close (c : Connection) (ctx : Context) : c.Tallies (c.close ctx) := by
  unfold close
  split
  · rfl
  · rfl

/-! ### Segments -/

theorem tallies_onSynAck (c : Connection) (ctx : Context) (s : Segment) :
    c.Tallies (c.onSynAck ctx s) := by
  unfold onSynAck
  split
  · next b3 b2 b1 b0 _ =>
    split
    · exact tallies_transmit { c with
        sender := c.sender.withReceiverWindow s.window
        phase := .established (.create ctx.profile.shape (Wire.word32 b3 b2 b1 b0))
        confirmed := true } ctx _
    · rfl
  · rfl

theorem tallies_afterAck (c : Connection) (ctx : Context) (outcome : AckOutcome) :
    c.Tallies (c.afterAck ctx outcome) := by
  cases outcome with
  | duplicate => rfl
  | ignored => rfl
  | advanced bytes complete =>
    unfold afterAck
    dsimp only
    split
    · exact tallies_sendWindow { c with
        stats := { c.stats with bytesAcked := c.stats.bytesAcked + bytes } } ctx
    · rfl

theorem tallies_onOpenAck {r : Receiver} {s : Segment} {answer : Connection × List Effect}
    (h : c.onOpenAck ctx r s = .ok answer) : c.Tallies answer := by
  unfold onOpenAck at h
  split at h
  · cases h
    exact tallies_transmit c ctx _
  · split at h
    · cases h
      rfl
    · obtain ⟨⟨outcome, sender⟩, -, rfl⟩ := exists_of_map_eq_ok h
      exact tallies_afterAck { c with confirmed := true, sender } ctx outcome

theorem tallies_onData (c : Connection) (ctx : Context) (s : Segment) :
    c.Tallies (c.onData ctx s) := by
  unfold onData
  split
  · rfl
  · next r _ =>
    dsimp only
    split
    · exact tallies_transmit { c with
        confirmed := true
        phase := c.phase.withReceiver (r.onSegment s).2
        stats := { c.stats with bytesDelivered := _ } } ctx _
    · exact tallies_transmit { c with
        confirmed := true, phase := c.phase.withReceiver (r.onSegment s).2 } ctx _
    · rfl

theorem tallies_onFin (c : Connection) (ctx : Context) : c.Tallies (c.onFin ctx) := by
  unfold onFin
  split <;> rfl

theorem tallies_onDuplicateSyn (c : Connection) (ctx : Context) :
    c.Tallies (c.onDuplicateSyn ctx) := by
  unfold onDuplicateSyn
  split
  · split
    · rfl
    · exact tallies_transmit c ctx _
  · rfl

theorem tallies_onSegment {s : Segment} {answer : Connection × List Effect}
    (h : c.onSegment ctx s = .ok answer) : c.Tallies answer := by
  unfold onSegment at h
  split at h
  · cases h
    exact tallies_onDuplicateSyn c ctx
  · cases h
    exact tallies_onData c ctx s
  · cases h
    exact tallies_onFin c ctx
  · split at h
    · cases h
      exact tallies_onSynAck c ctx s
    · exact tallies_onOpenAck h
    · exact tallies_onOpenAck h
    · cases h
      rfl

/-! ### Timers -/

theorem tallies_onTimer (c : Connection) (ctx : Context) (event : TimerEvent) :
    c.Tallies (c.onTimer ctx event) := by
  cases event with
  | retransmitSyn isn =>
    show c.Tallies (c.onRetransmitSyn ctx isn)
    unfold onRetransmitSyn
    split
    · split
      · exact (tallies_transmit c ctx _).arm ctx _ _
      · rfl
    · rfl
  | retransmitSynAck ack =>
    show c.Tallies (c.onRetransmitSynAck ctx ack)
    unfold onRetransmitSynAck
    split
    · split
      · exact (tallies_transmit c ctx _).arm ctx _ _
      · rfl
    · rfl
  | shutdownCheck finSeq =>
    show c.Tallies (c.onShutdownCheck ctx finSeq)
    unfold onShutdownCheck
    split
    · split
      · rfl
      · split
        · exact tallies_transmit c ctx [c.fin finSeq]
        · rfl
    · rfl
  | windowTimeout generation =>
    show c.Tallies (c.onWindowTimeout ctx generation)
    unfold onWindowTimeout
    split
    · rfl
    · split
      · rfl
      · next flight sender _ =>
        exact tallies_transmitFlight { c with
          sender, stats := { c.stats with timeouts := c.stats.timeouts + 1 } } ctx flight

/-- **Whatever a connection answers, it counts what it sends.** -/
theorem tallies_of_respond {stimulus : Stimulus} {answer : Connection × List Effect}
    (h : c.respond ctx stimulus = .ok answer) : c.Tallies answer := by
  cases stimulus with
  | write bytes =>
    cases h
    exact tallies_write c ctx bytes
  | read count =>
    cases h
    exact tallies_read c count
  | close =>
    cases h
    exact tallies_close c ctx
  | segment s => exact tallies_onSegment h
  | timer event =>
    cases h
    exact tallies_onTimer c ctx event

theorem sent_of_request (ctx : Context) (identity : Identity) :
    (request ctx identity).1.stats.segmentsSent =
      (packetsOf (request ctx identity).2).length := by
  have hsent := (tallies_transmit (asking ctx identity) ctx [(asking ctx identity).syn]).arm ctx
    ctx.profile.timers.synRetransmit (.retransmitSyn ctx.profile.initialSeq)
  exact (hsent : _ = 0 + _).trans (Nat.zero_add _)

theorem sent_of_answer (ctx : Context) (identity : Identity) (s : Segment) :
    (answer ctx identity s).1.stats.segmentsSent =
      (packetsOf (answer ctx identity s).2).length := by
  have hsent := (tallies_transmit (answering ctx identity s) ctx
    [(answering ctx identity s).synAck (.create ctx.profile.shape s.seq)]).arm ctx
    ctx.profile.timers.synRetransmit (.retransmitSynAck (Sequence.advance s.seq 1))
  exact (hsent : _ = 0 + _).trans (Nat.zero_add _)

end Connection

/-! ### Nodes with their ledgers -/

namespace Register

variable {ρ σ : Register} {n' : Node} {now : Duration} {input : Input} {effects : List Effect}
  {id : SocketId} {c : Connection}

/-- Every connection has counted what is entered as sent. -/
def Tallied (ρ : Register) : Prop :=
  ∀ id c, ρ.node.socket? id = some (.connection c) →
    c.stats.segmentsSent = (ρ.ledger id).sent.length

theorem tallied_start {addr : NodeAddr} {settings : Settings} {n : Node}
    (hcreate : Node.create addr settings = .ok n) : (start n).Tallied := by
  intro id c hsocket
  cases (Node.socket?_of_create hcreate id).symm.trans hsocket

theorem sent_after (ρ : Register) (now : Duration) (input : Input) (n' : Node)
    (effects : List Effect) (id : SocketId) :
    ((ρ.after now input n' effects).ledger id).sent =
      if ρ.node.actor? input = some id then (ρ.ledger id).sent ++ packetsOf effects
      else (ρ.ledger id).sent := by
  unfold after
  dsimp only
  split <;> rfl

/-- A connection that has no part in a step. -/
theorem Tallied.quiet (h : ρ.Tallied) (hsocket : ρ.node.socket? id = some (.connection c))
    (hquiet : ρ.node.actor? input = some id → packetsOf effects = []) :
    c.stats.segmentsSent = ((ρ.after now input n' effects).ledger id).sent.length := by
  rw [sent_after, h id c hsocket]
  split
  · next hactor => rw [hquiet hactor, List.append_nil]
  · rfl

/-- A step in which one connection acts, or becomes one, counts right if that
    one does. -/
theorem Tallied.acts (h : ρ.Tallied) {acting : SocketId} {c' : Connection} {before : Option Socket}
    (hactor : ρ.node.actor? input = some acting)
    (hcount : c'.stats.segmentsSent =
      (ρ.ledger acting).sent.length + (packetsOf effects).length)
    (hbefore : before = some (.connection c) → ρ.node.socket? id = some (.connection c))
    (hsocket : (if acting = id then some (.connection c') else before) = some (.connection c)) :
    c.stats.segmentsSent = ((ρ.after now input n' effects).ledger id).sent.length := by
  split at hsocket
  · next hid =>
    subst hid
    cases hsocket
    rw [sent_after, if_pos hactor, List.length_append]
    exact hcount
  · next hid =>
    refine h.quiet (hbefore hsocket) fun hself => ?_
    rw [hactor] at hself
    exact absurd (Option.some.inj hself) hid

/-- **The counts stay right.** -/
theorem Tallied.step (h : ρ.Tallied) (hkept : ρ.Kept)
    (hreact : ρ.node.react now input = .ok (n', effects)) :
    (ρ.after now input n' effects).Tallied := by
  intro id c hsocket
  have hafter : n'.socket? id = some (.connection c) := hsocket
  -- A socket that is no connection takes the place of another.
  have hother : ∀ {acting : SocketId} {new : Socket}, (∀ c, new ≠ .connection c) →
      (ρ.node.withSocket acting new).socket? id = some (.connection c) →
      ρ.node.socket? id = some (.connection c) := by
    intro acting new hnew hput
    rw [Node.socket?_withSocket] at hput
    split at hput
    · exact absurd (Option.some.inj hput) (hnew c)
    · exact hput
  have hfresh : ∀ {port : Option UInt16} (c : Connection), Socket.fresh port ≠ .connection c :=
    fun c hc => by cases hc
  have hlistener : ∀ {port : UInt16} {limit : Nat} {backlog : List SocketId} (c : Connection),
      Socket.listener port limit backlog ≠ .connection c := fun c hc => by cases hc
  cases Node.change_of_react hreact with
  | unmoved => exact h.quiet hafter fun _ => rfl
  | reset hsegment hroute =>
    refine h.quiet hafter fun hactor => ?_
    unfold Node.actor? at hactor
    simp only [hsegment, Option.map_some, hroute] at hactor
    cases hactor
  | created => exact h.quiet (hother hfresh hafter) fun _ => rfl
  | bound => exact h.quiet (hother hfresh hafter) fun _ => rfl
  | listening => exact h.quiet (hother hlistener hafter) fun _ => rfl
  | @connecting acting port remotePort remoteAddr c' _ hfree hopened =>
    have hsent := Connection.sent_of_request (ρ.node.context acting now)
      ⟨port, remoteAddr, remotePort⟩
    rw [hopened] at hsent
    refine h.acts rfl ?_ (fun hbefore => hbefore)
      ((Node.socket?_withSocket ρ.node acting id (.connection c')).symm.trans hafter)
    rw [((hkept.fits acting).idle _ hfree hfresh).2, List.length_nil, Nat.zero_add]
    exact hsent
  | accepted =>
    rw [Node.socket?_discard] at hafter
    split at hafter
    · cases hafter
    · exact h.quiet (hother hlistener hafter) fun _ => rfl
  | released => exact h.quiet (Node.socket?_of_release hafter).1 fun _ => rfl
  | @spawned packet s acting port limit backlog c' _ hsegment hroute _ _ hopened =>
    have hactor : ρ.node.actor? (.packet packet) = some ρ.node.nextId := by
      unfold Node.actor?
      simp only [hsegment, Option.map_some, hroute]
    have hsent := Connection.sent_of_answer (ρ.node.context ρ.node.nextId now)
      ⟨port, packet.src, s.srcPort⟩ s
    rw [hopened] at hsent
    refine h.acts hactor ?_ (hother hlistener)
      ((Node.socket?_withSocket _ ρ.node.nextId id (.connection c')).symm.trans hafter)
    -- The handle is new, and so nothing is on record under it.
    rw [((hkept.fits _).unused (Nat.le_refl _)).2, List.length_nil, Nat.zero_add]
    exact hsent
  | @moved _ acting stimulus before c' _ hreaches hbefore hrespond =>
    rw [Node.socket?_settle] at hafter
    refine h.acts hreaches.actor? ?_ (fun hbefore => hbefore) hafter
    rw [← h acting before hbefore]
    exact Connection.tallies_of_respond hrespond

theorem Tallied.run (h : ρ.Tallied) (hkept : ρ.Kept) {inputs : List (Duration × Input)}
    (hrun : ρ.run inputs = some σ) : σ.Tallied :=
  (Node.of_observed (P := fun ρ => ρ.Kept ∧ ρ.Tallied) hrun ⟨hkept, h⟩ (fun _ _ => rfl)
    fun hρ hreact => ⟨hρ.1.step hreact, hρ.2.step hρ.1 hreact⟩).2

end Register

end ReliableStream
