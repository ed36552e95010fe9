import ReliableStream.Proofs.LifeCycle
/-! # How a connection ends

    A connection announces its end once, and last of all. As long as the peer
    has not announced its own end, the **books** of a connection balance: every
    byte that a write took is either acknowledged or still in the buffer, and
    the buffer starts behind the acknowledged ones. So the end is announced only
    when every byte is acknowledged, and under the number behind the last one.

    Nothing is assumed of what arrives: segments may be forged, and timers may
    come back late, early, or twice. Beside the node a **ledger** is kept for
    each socket, which the node cannot read. -/

namespace ReliableStream

open Sequence

/-- A packet that announces an end. -/
def Packet.Ends (p : Packet) : Prop := ∃ s, p.segment? = some s ∧ s.kind = .fin

/-- No packet but the last announces an end. So at most one does, and nothing
    follows it. -/
def EndsLast (packets : List Packet) : Prop := ∀ p ∈ packets.dropLast, ¬ p.Ends

theorem endsLast_of_none {packets : List Packet} (h : ∀ p ∈ packets, ¬ p.Ends) :
    EndsLast packets := fun p hp => h p ((List.dropLast_sublist packets).subset hp)

theorem endsLast_append_singleton {packets : List Packet} (h : ∀ p ∈ packets, ¬ p.Ends)
    (last : Packet) : EndsLast (packets ++ [last]) := by
  unfold EndsLast
  rw [List.dropLast_concat]
  exact h

/-! ### Connections -/

/-- Every piece of a cut is data. -/
theorem StreamBuffer.kind_of_mem_cut {b : StreamBuffer} {srcPort dstPort : UInt16}
    {start window : UInt32} {s : Segment} (h : s ∈ b.cut srcPort dstPort start window) :
    s.kind = .data := by
  unfold cut at h
  split at h
  · cases h
  · obtain ⟨i, -, rfl⟩ := List.mem_map.mp h
    rfl

namespace Connection

variable {ctx : Context} {c c' : Connection} {stimulus : Stimulus} {effects : List Effect}
  {written : Nat}

theorem kind_of_window? {s sender : Sender} {flight : Flight}
    (h : c.window? ctx s = some (flight, sender)) : ∀ s ∈ flight.segments, s.kind = .data := by
  intro segment hsegment
  rw [(Sender.segments_of_nextWindow? h).1] at hsegment
  exact StreamBuffer.kind_of_mem_cut hsegment

theorem kind_of_overdue? {generation : Nat} {sender : Sender} {flight : Flight}
    (h : c.overdue? ctx generation = some (flight, sender)) :
    ∀ s ∈ flight.segments, s.kind = .data := by
  obtain ⟨-, -, cut, s'', hnext, hsegments, -⟩ := Sender.exists_of_onWindowTimeout? h
  rw [hsegments]
  exact kind_of_window? hnext

/-- The only end that a connection announces is the one that it waits for, in
    answer to the check for just this end. -/
theorem Responds.ends (h : c.Responds ctx stimulus c' effects) {s : Segment}
    (hs : s ∈ segmentsOf effects) (hkind : s.kind = .fin) :
    stimulus = .timer (.shutdownCheck s.seq) ∧ (∃ r, c.phase = .shutdown r s.seq) ∧
      c.sender.isDrained = true ∧ c'.phase.isClosed = true ∧ c'.sender = c.sender ∧
      c'.stats.bytesAcked = c.stats.bytesAcked ∧
      effects = ctx.sends c.identity.remoteAddr [c.fin s.seq] := by
  have hother : ∀ {s' : Segment}, s = s' → s'.kind ≠ .fin → False := fun heq hne =>
    hne (heq ▸ hkind)
  have hflies : ∀ {flight : Flight}, (∀ s ∈ flight.segments, s.kind = .data) →
      s ∈ segmentsOf (c.flies ctx flight) → False := by
    intro flight hdata hmem
    rw [hdata s (mem_of_mem_flies hmem)] at hkind
    cases hkind
  cases h with
  | wroteSent _ _ hwindow => exact (hflies (kind_of_window? hwindow) hs).elim
  | opened => exact (hother (eq_of_mem_sends hs) nofun).elim
  | regranted => exact (hother (eq_of_mem_sends hs) nofun).elim
  | reconfirmed => exact (hother (eq_of_mem_sends hs) nofun).elim
  | data => exact (hother (eq_of_mem_sends hs) nofun).elim
  | ackedSent _ _ _ _ hwindow => exact (hflies (kind_of_window? hwindow) hs).elim
  | requested => exact (hother (eq_of_mem_sends_arm hs) nofun).elim
  | granted => exact (hother (eq_of_mem_sends_arm hs) nofun).elim
  | finished hphase hdrained _ hstats =>
    rw [eq_of_mem_sends hs]
    exact ⟨rfl, ⟨_, hphase⟩, hdrained, rfl, rfl, hstats, rfl⟩
  | repeated _ hoverdue => exact (hflies (kind_of_overdue? hoverdue) hs).elim
  | _ => cases hs

/-- How many bytes a stimulus makes the connection take. -/
def granted (ctx : Context) (c : Connection) : Stimulus → Nat
  | .write bytes => (c.write ctx bytes).1
  | _ => 0

theorem granted_of_established {r : Receiver} (h : c.phase = .established r) (bytes : List UInt8) :
    c.granted ctx (.write bytes) = (c.sender.write bytes).1 := by
  unfold granted write
  rw [h]
  simp only
  split <;> rfl

theorem granted_of_unmoved (h : c.Unmoved ctx stimulus) : c.granted ctx stimulus = 0 := by
  cases stimulus with
  | write bytes =>
    show (c.write ctx bytes).1 = 0
    unfold write
    split
    · next r hphase => exact absurd hphase (h r)
    · rfl
  | _ => rfl

theorem granted_of_closed (h : c.phase.isClosed = true) : c.granted ctx stimulus = 0 := by
  cases stimulus with
  | write bytes =>
    refine granted_of_unmoved fun r hphase => ?_
    rw [hphase] at h
    cases h
  | _ => rfl

/-- The books of a connection balance after writes that took so many bytes. -/
structure Balanced (c : Connection) (written : Nat) : Prop where
  total : written = c.stats.bytesAcked + c.sender.buffered
  base : c.sender.buffer.baseSeq = advance c.sender.isn (1 + c.stats.bytesAcked)
  /-- The end that is waited for is that of all that was written. -/
  final : ∀ r finSeq, c.phase = .shutdown r finSeq → finSeq = advance c.sender.isn (1 + written)

/-- What the sender gives up is counted as acknowledged. -/
theorem Balanced.freed (h : c.Balanced written) {bytes : Nat} (hfreed : c.sender.Freed bytes c'.sender)
    (hstats : c'.stats.bytesAcked = c.stats.bytesAcked + bytes)
    (hphase : ∀ r finSeq, c'.phase = .shutdown r finSeq → ∃ r', c.phase = .shutdown r' finSeq) :
    c'.Balanced written where
  total := by
    have hbuffered := hfreed.buffered
    have htotal := h.total
    omega
  base := by
    rw [hfreed.base, h.base, hfreed.isn, hstats, ← advance_add, Nat.add_assoc]
  final r finSeq hshutdown := by
    obtain ⟨r', hbefore⟩ := hphase r finSeq hshutdown
    rw [hfreed.isn]
    exact h.final r' finSeq hbefore

/-- Nothing that the books show has changed. -/
theorem Balanced.same (h : c.Balanced written) (hisn : c'.sender.isn = c.sender.isn)
    (hbuffer : c'.sender.buffer = c.sender.buffer)
    (hstats : c'.stats.bytesAcked = c.stats.bytesAcked)
    (hphase : ∀ r finSeq, c'.phase = .shutdown r finSeq → ∃ r', c.phase = .shutdown r' finSeq) :
    c'.Balanced written := by
  have hfreed : c.sender.Freed 0 c'.sender := by
    refine ⟨hisn, ?_, ?_⟩
    · show c'.sender.buffer.used + 0 = c.sender.buffer.used
      rw [hbuffer, Nat.add_zero]
    · rw [hbuffer, advance_zero]
  exact h.freed hfreed hstats hphase

/-- What is written waits in the buffer. -/
theorem Balanced.write (h : c.Balanced written) {r : Receiver} (hphase : c.phase = .established r)
    (bytes : List UInt8) :
    { c with sender := (c.sender.write bytes).2 }.Balanced
      (written + (c.sender.write bytes).1) where
  total := by
    have htotal : written = c.stats.bytesAcked + c.sender.buffer.used := h.total
    have hused := c.sender.buffer.used_write bytes
    show written + (c.sender.buffer.write bytes).1 =
      c.stats.bytesAcked + (c.sender.buffer.write bytes).2.used
    omega
  base := h.base
  final r' finSeq hshutdown := by
    rw [hphase] at hshutdown
    cases hshutdown

/-- **The books stay balanced** until the peer announces its end. -/
theorem Balanced.responds (h : c.Balanced written) (hresponds : c.Responds ctx stimulus c' effects)
    (hend : ∀ s, stimulus = .segment s → s.kind ≠ .fin) :
    c'.Balanced (written + c.granted ctx stimulus) := by
  have hshutdown : ∀ {r' : Receiver} {r finSeq},
      c.phase.withReceiver r' = .shutdown r finSeq → ∃ r₀, c.phase = .shutdown r₀ finSeq :=
    fun hphase => Phase.eq_shutdown_of_withReceiver hphase
  cases hresponds with
  | ignored hunmoved =>
    rw [granted_of_unmoved hunmoved]
    exact h
  | wrote hphase =>
    rw [granted_of_established hphase]
    exact h.write hphase _
  | wroteSent hphase _ hwindow hstats =>
    rw [granted_of_established hphase]
    exact (h.write hphase _).freed (Sender.freed_of_nextWindow? hwindow) hstats
      fun r finSeq hsame => ⟨r, hsame⟩
  | read => exact h.same rfl rfl rfl fun _ _ => hshutdown
  | closing hphase =>
    refine ⟨h.total, h.base, fun r' finSeq hsame => ?_⟩
    cases hsame
    show advance c.sender.buffer.baseSeq c.sender.buffer.used = _
    rw [h.base, ← advance_add, Nat.add_assoc]
    exact congrArg (fun n => advance c.sender.isn (1 + n)) h.total.symm
  | opened _ _ _ _ hstats => exact h.same rfl rfl hstats fun _ _ hphase => by cases hphase
  | regranted _ _ hstats => exact h.same rfl rfl hstats fun r _ hsame => ⟨r, hsame⟩
  | reconfirmed _ _ _ hstats => exact h.same rfl rfl hstats fun r _ hsame => ⟨r, hsame⟩
  | data _ _ hstats => exact h.same rfl rfl hstats fun _ _ => hshutdown
  | dropped => exact h.same rfl rfl rfl fun _ _ => hshutdown
  | confirmed => exact h.same rfl rfl rfl fun r _ hsame => ⟨r, hsame⟩
  | acked _ _ _ hack _ hstats =>
    exact h.freed (Sender.noted_of_onAck hack).freed hstats fun r _ hsame => ⟨r, hsame⟩
  | @ackedSent s _ bytes freed sender _ stats _ _ _ hack hwindow hstats =>
    have hcounted : { c with
        sender := freed
        stats := { c.stats with bytesAcked := c.stats.bytesAcked + bytes } }.Balanced written :=
      h.freed (Sender.noted_of_onAck hack).freed rfl fun r _ hsame => ⟨r, hsame⟩
    exact hcounted.freed (Sender.freed_of_nextWindow? hwindow) hstats fun r _ hsame => ⟨r, hsame⟩
  | ended _ hkind => exact absurd hkind (hend _ rfl)
  | refused _ hkind => exact absurd hkind (hend _ rfl)
  | requested _ hstats => exact h.same rfl rfl hstats fun r _ hsame => ⟨r, hsame⟩
  | granted _ _ hstats => exact h.same rfl rfl hstats fun r _ hsame => ⟨r, hsame⟩
  | waited => exact h
  | finished _ _ _ hstats => exact h.same rfl rfl hstats fun _ _ hphase => by cases hphase
  | repeated _ hoverdue hstats =>
    exact h.freed (Sender.freed_of_onWindowTimeout? hoverdue) hstats fun r _ hsame => ⟨r, hsame⟩

end Connection

/-! ### The ledger of a socket -/

/-- What is on record of a socket. -/
structure Ledger where
  /-- How many bytes its writes were told are taken. -/
  written : Nat := 0
  /-- The packets that it sent, in order. -/
  sent : List Packet := []
  /-- The peer has announced its end to it. -/
  heardEnd : Bool := false

namespace Node

variable {n n' : Node} {now : Duration} {input : Input} {effects : List Effect}
  {id : SocketId} {stimulus : Stimulus} {c : Connection}

/-- How many bytes the application is told are taken. -/
def granted (n : Node) (now : Duration) : Input → Nat
  | .call (.write id bytes) =>
    match (n.serve now (.write id bytes)).1 with
    | .written count => count
    | _ => 0
  | _ => 0

/-- An input brings a socket the end of its peer. -/
def hearsEnd (n : Node) (id : SocketId) : Input → Bool
  | .packet packet =>
    match packet.segment? with
    | some s => packet.ttl ≠ 0 && s.kind = .fin && n.ports.route s packet.src = .connection id
    | none => false
  | _ => false

/-- The node tells its application what the connection grants. -/
theorem Reaches.granted (h : n.Reaches input id stimulus)
    (hsocket : n.socket? id = some (.connection c)) (now : Duration) :
    n.granted now input = c.granted (n.context id now) stimulus := by
  cases h with
  | write =>
    unfold Node.granted
    simp only [serve_write_of_connection hsocket]
    rfl
  | _ => rfl

/-- Where there is no connection, nothing is granted. -/
theorem granted_of_not_connection
    (h : ∀ id bytes c, input = .call (.write id bytes) → n.socket? id ≠ some (.connection c)) :
    n.granted now input = 0 := by
  cases input with
  | call call =>
    cases call with
    | write id bytes =>
      unfold granted
      cases hsocket : n.socket? id with
      | none =>
        simp only [serve, write, find, hsocket]
        rfl
      | some s =>
        cases s with
        | connection c => exact absurd hsocket (h id bytes c rfl)
        | _ =>
          simp only [serve, write, find, hsocket]
          rfl
    | _ => rfl
  | _ => rfl

end Node

namespace Ledger

/-- What a socket did in answer to an input is entered. -/
def enter (l : Ledger) (granted : Nat) (packets : List Packet) (heard : Bool) : Ledger where
  written := l.written + granted
  sent := l.sent ++ packets
  heardEnd := l.heardEnd || heard

/-- What the ledger of a socket says of it. -/
structure Fits (n : Node) (id : SocketId) (l : Ledger) : Prop where
  last : EndsLast l.sent
  /-- Only connections write and send. -/
  unused : n.nextId ≤ id → l.written = 0 ∧ l.sent = []
  idle : ∀ s, n.socket? id = some s → (∀ c, s ≠ .connection c) → l.written = 0 ∧ l.sent = []
  live : ∀ c, n.socket? id = some (.connection c) → c.phase.isClosed = false →
    ∀ p ∈ l.sent, ¬ p.Ends
  balanced : ∀ c, n.socket? id = some (.connection c) → l.heardEnd = false →
    c.Balanced l.written
  final : ∀ c, n.socket? id = some (.connection c) → l.heardEnd = false →
    ∀ p ∈ l.sent, ∀ s, p.segment? = some s → s.kind = .fin →
      c.stats.bytesAcked = l.written ∧ s.seq = advance c.sender.isn (1 + l.written)

variable {n n' : Node} {now : Duration} {input : Input} {effects : List Effect}
  {id : SocketId} {l l' : Ledger} {c c' : Connection}

/-- A socket that has no part in a step, and may only become another that is no
    connection, or go. -/
theorem Fits.quiet (h : l.Fits n id) (hnext : n.nextId ≤ n'.nextId)
    (hwritten : l'.written = l.written) (hsent : l'.sent = l.sent)
    (hheard : l'.heardEnd = false → l.heardEnd = false)
    (hsocket : ∀ s, n'.socket? id = some s → n.socket? id = some s ∨
      (∀ c, s ≠ .connection c) ∧
        (n.nextId ≤ id ∨ ∃ s', n.socket? id = some s' ∧ ∀ c, s' ≠ .connection c)) :
    l'.Fits n' id := by
  have hconnection : ∀ c, n'.socket? id = some (.connection c) →
      n.socket? id = some (.connection c) := fun c hc =>
    (hsocket _ hc).resolve_right fun hother => hother.1 c rfl
  refine ⟨?_, fun hid => ?_, fun s hs hother => ?_, fun c hc => ?_, fun c hc hl => ?_,
    fun c hc hl => ?_⟩
  · rw [hsent]
    exact h.last
  · rw [hwritten, hsent]
    exact h.unused (Nat.le_trans hnext hid)
  · rw [hwritten, hsent]
    rcases hsocket s hs with hsame | ⟨-, hid | ⟨s', hs', hbefore⟩⟩
    · exact h.idle s hsame hother
    · exact h.unused hid
    · exact h.idle s' hs' hbefore
  · rw [hsent]
    exact h.live c (hconnection c hc)
  · rw [hwritten]
    exact h.balanced c (hconnection c hc) (hheard hl)
  · rw [hwritten, hsent]
    exact h.final c (hconnection c hc) (hheard hl)

/-- A new connection sends no end, and its books are empty. -/
theorem Fits.opened (hempty : l.written = 0 ∧ l.sent = []) {granted : Nat} (hgranted : granted = 0)
    {heard : Bool} (hsocket : n'.socket? id = some (.connection c)) (hid : id < n'.nextId)
    (hbalanced : c.Balanced 0) (hsent : ∀ s ∈ segmentsOf effects, s.kind ≠ .fin) :
    (l.enter granted (packetsOf effects) heard).Fits n' id := by
  have hnone : ∀ p ∈ (l.enter granted (packetsOf effects) heard).sent, ¬ p.Ends := by
    rintro p hp ⟨s, hsegment, hkind⟩
    unfold enter at hp
    simp only [hempty.2, List.nil_append] at hp
    exact hsent s (mem_segmentsOf hp hsegment) hkind
  have hwritten : (l.enter granted (packetsOf effects) heard).written = 0 := by
    unfold enter
    rw [hempty.1, hgranted]
  refine ⟨endsLast_of_none hnone, fun hnew => ?_, fun s hs hother => ?_, fun _ _ _ => hnone, ?_, ?_⟩
  · exact absurd hid (Nat.not_lt.mpr hnew)
  · rw [hsocket, Option.some.injEq] at hs
    exact absurd hs.symm (hother c)
  · intro c' hc' _
    rw [hsocket] at hc'
    cases hc'
    rw [hwritten]
    exact hbalanced
  · intro c' _ _ p hp s hsegment hkind
    exact absurd ⟨s, hsegment, hkind⟩ (hnone p hp)

/-- A connection that moves keeps its ledger true. -/
theorem Fits.moved (h : l.Fits n id) {ctx : Context} {stimulus : Stimulus}
    (hsocket : n.socket? id = some (.connection c))
    (hresponds : c.Responds ctx stimulus c' effects)
    (hsocket' : n'.socket? id = some (.connection c')) (hid : id < n'.nextId) {heard : Bool}
    (hend : heard = false → ∀ s, stimulus = .segment s → s.kind ≠ .fin) :
    (l.enter (c.granted ctx stimulus) (packetsOf effects) heard).Fits n' id := by
  generalize hl' : l.enter (c.granted ctx stimulus) (packetsOf effects) heard = l'
  have hwritten : l'.written = l.written + c.granted ctx stimulus := by rw [← hl']; rfl
  have hsent : l'.sent = l.sent ++ packetsOf effects := by rw [← hl']; rfl
  have hheard : l'.heardEnd = false → l.heardEnd = false ∧ heard = false := by
    rw [← hl']
    exact fun h => Bool.or_eq_false_iff.mp h
  have hbalanced : l'.heardEnd = false → c'.Balanced l'.written := by
    intro hl
    rw [hwritten]
    exact (h.balanced c hsocket (hheard hl).1).responds hresponds (hend (hheard hl).2)
  -- What is left to show is about the packets that were sent.
  have hfits : EndsLast l'.sent → (c'.phase.isClosed = false → ∀ p ∈ l'.sent, ¬ p.Ends) →
      (l'.heardEnd = false → ∀ p ∈ l'.sent, ∀ s, p.segment? = some s → s.kind = .fin →
        c'.stats.bytesAcked = l'.written ∧ s.seq = advance c'.sender.isn (1 + l'.written)) →
      l'.Fits n' id := by
    intro hlast hlive hfinal
    have hsame : ∀ {c₀}, n'.socket? id = some (.connection c₀) → c₀ = c' := fun hc₀ =>
      Socket.connection.inj (Option.some.inj (hc₀.symm.trans hsocket'))
    refine ⟨hlast, fun hnew => absurd hid (Nat.not_lt.mpr hnew), fun s hs hother => ?_,
      fun c₀ hc₀ => hsame hc₀ ▸ hlive, fun c₀ hc₀ => hsame hc₀ ▸ hbalanced,
      fun c₀ hc₀ => hsame hc₀ ▸ hfinal⟩
    exact absurd (Option.some.inj (hs.symm.trans hsocket')) (hother c')
  cases hclosed : c.phase.isClosed with
  | true =>
    obtain ⟨heffects, hstays, hsender, hstats, -⟩ := hresponds.closed hclosed
    have hgranted : c.granted ctx stimulus = 0 := Connection.granted_of_closed hclosed
    have hsame : l'.sent = l.sent := by
      rw [hsent, heffects]
      exact List.append_nil _
    rw [hgranted, Nat.add_zero] at hwritten
    rw [hsame, hwritten, hsender, hstats] at hfits
    refine hfits h.last (fun hopen => ?_) fun hl => h.final c hsocket (hheard hl).1
    rw [hstays] at hopen
    cases hopen
  | false =>
    have hbefore := h.live c hsocket hclosed
    by_cases hends : ∃ p ∈ packetsOf effects, p.Ends
    · obtain ⟨p, hp, s, hsegment, hkind⟩ := hends
      obtain ⟨rfl, ⟨r, hphase⟩, hdrained, hstays, hsender, hstats, heffects⟩ :=
        hresponds.ends (mem_segmentsOf hp hsegment) hkind
      obtain ⟨packet, hone, hcarries⟩ :=
        packetsOf_sends_one ctx c.identity.remoteAddr (c.fin s.seq) (Nat.zero_le _)
      rw [heffects, hone] at hsent
      have hlast : EndsLast l'.sent := by
        rw [hsent]
        exact endsLast_append_singleton hbefore packet
      refine hfits hlast (fun hopen => ?_) fun hl q hq s' hs' hkind' => ?_
      · rw [hstays] at hopen
        cases hopen
      · -- It is the only end, announced when nothing was left in the buffer.
        obtain ⟨htotal, -, hfinal⟩ := h.balanced c hsocket (hheard hl).1
        have hempty := c.sender.isDrained_iff.mp hdrained
        have hq' : q = packet := by
          rw [hsent] at hq
          rcases List.mem_append.mp hq with hold | hnew
          · exact absurd ⟨s', hs', hkind'⟩ (hbefore q hold)
          · exact List.mem_singleton.mp hnew
        rw [hq', hcarries, Option.some.injEq] at hs'
        rw [← hs', hstats, hsender, hwritten]
        refine ⟨?_, hfinal r s.seq hphase⟩
        show c.stats.bytesAcked = l.written + 0
        omega
    · have hnone : ∀ p ∈ l'.sent, ¬ p.Ends := by
        intro p hp
        rw [hsent] at hp
        rcases List.mem_append.mp hp with hold | hnew
        · exact hbefore p hold
        · exact fun hp => hends ⟨p, hnew, hp⟩
      exact hfits (endsLast_of_none hnone) (fun _ => hnone)
        fun _ p hp s hsegment hkind => absurd ⟨s, hsegment, hkind⟩ (hnone p hp)

end Ledger

namespace Connection

/-- Nothing is written to a new connection yet. -/
theorem balanced_of_create {c : Connection} {shape : BufferShape} {timers : Timers}
    {isn rwnd : UInt32} (hsender : c.sender = .create shape timers isn rwnd)
    (hstats : c.stats.bytesAcked = 0) (hphase : ∀ r finSeq, c.phase ≠ .shutdown r finSeq) :
    c.Balanced 0 where
  total := by
    rw [hstats, hsender, (Sender.isDrained_iff _).mp (isDrained_create _ _ _ _)]
  base := by
    rw [hstats, hsender]
    rfl
  final r finSeq h := absurd h (hphase r finSeq)

end Connection

namespace Node

variable {n n' : Node} {now : Duration} {input : Input} {effects : List Effect}

/-- Either a connection moves, or the application is granted nothing. -/
theorem moved_or_granted (hreact : n.react now input = .ok (n', effects)) :
    (∃ id stimulus c c', n.Reaches input id stimulus ∧ n.socket? id = some (.connection c) ∧
      c.respond (n.context id now) stimulus = .ok (c', effects) ∧ n'.nextId = n.nextId ∧
      ∀ id', n'.socket? id' = if id = id' then some (.connection c') else n.socket? id') ∨
    n.granted now input = 0 := by
  by_cases hwrite : ∃ id bytes c, input = .call (.write id bytes) ∧
      n.socket? id = some (.connection c)
  · obtain ⟨id, bytes, c, rfl, hsocket⟩ := hwrite
    have hserved := Except.ok.inj hreact
    rw [serve_write_of_connection hsocket] at hserved
    cases hserved
    exact Or.inl ⟨id, _, c, _, .write, hsocket, rfl, rfl, (socket?_withSocket n id · _)⟩
  · exact Or.inr (granted_of_not_connection fun id bytes c hinput hsocket =>
      hwrite ⟨id, bytes, c, hinput, hsocket⟩)

/-- A packet without hops left does nothing. -/
theorem react_of_spent {packet : Packet} (hspent : packet.ttl = 0)
    (hreact : n.react now (.packet packet) = .ok (n', effects)) : n' = n ∧ effects = [] := by
  have hdone : n.react now (.packet packet) = .ok (n, []) := if_pos hspent
  rw [hreact] at hdone
  cases hdone
  exact ⟨rfl, rfl⟩

end Node

/-! ### Nodes with their ledgers -/

/-- A node with a ledger for each socket. -/
structure Register where
  node : Node
  ledger : SocketId → Ledger

namespace Register

variable {addr : NodeAddr} {settings : Settings} {ρ : Register} {n' : Node} {now : Duration}
  {input : Input} {effects : List Effect} {id : SocketId}

/-- What the node did is entered for the socket that acted. -/
def after (ρ : Register) (now : Duration) (input : Input) (n' : Node) (effects : List Effect) :
    Register where
  node := n'
  ledger id :=
    if ρ.node.actor? input = some id then
      (ρ.ledger id).enter (ρ.node.granted now input) (packetsOf effects)
        (ρ.node.hearsEnd id input)
    else ρ.ledger id

/-- A step of the node is entered. -/
def enter (ρ : Register) (step : Node.Step) : Register :=
  ρ.after step.input.1 step.input.2 step.answer.1 step.answer.2

/-- A new node, of whose sockets nothing is on record. -/
def start (n : Node) : Register := ⟨n, fun _ => {}⟩

/-- The register after a run, if no input faults. -/
def run (ρ : Register) (inputs : List (Duration × Input)) : Option Register :=
  Node.observed node enter ρ inputs

/-- The ledgers are true. -/
structure Kept (ρ : Register) : Prop where
  numbered : ρ.node.Numbered
  fits : ∀ id, (ρ.ledger id).Fits ρ.node id

/-- A socket that has no part in a step. -/
theorem Kept.quiet (h : ρ.Kept) (hnext : ρ.node.nextId ≤ n'.nextId)
    (hquiet : ρ.node.actor? input = some id →
      ρ.node.granted now input = 0 ∧ packetsOf effects = [])
    (hsocket : ∀ s, n'.socket? id = some s → ρ.node.socket? id = some s ∨
      (∀ c, s ≠ .connection c) ∧ (ρ.node.nextId ≤ id ∨
        ∃ s', ρ.node.socket? id = some s' ∧ ∀ c, s' ≠ .connection c)) :
    ((ρ.after now input n' effects).ledger id).Fits n' id := by
  unfold after
  simp only
  split
  · next hactor =>
    obtain ⟨hgranted, hpackets⟩ := hquiet hactor
    refine (h.fits id).quiet hnext ?_ ?_ (fun hheard => (Bool.or_eq_false_iff.mp hheard).1) hsocket
    · rw [hgranted]
      rfl
    · rw [hpackets]
      exact List.append_nil _
  · exact (h.fits id).quiet hnext rfl rfl (fun hheard => hheard) hsocket

theorem Kept.moved (h : ρ.Kept) {acting : SocketId} {stimulus : Stimulus} {c c' : Connection}
    (hlive : ∀ packet, input = .packet packet → packet.ttl ≠ 0)
    (hreaches : ρ.node.Reaches input acting stimulus)
    (hsocket : ρ.node.socket? acting = some (.connection c))
    (hrespond : c.respond (ρ.node.context acting now) stimulus = .ok (c', effects))
    (hnext : n'.nextId = ρ.node.nextId)
    (hsockets : ∀ id, n'.socket? id =
      if acting = id then some (.connection c') else ρ.node.socket? id) (id : SocketId) :
    ((ρ.after now input n' effects).ledger id).Fits n' id := by
  by_cases hid : acting = id
  · subst hid
    have hend : ρ.node.hearsEnd acting input = false →
        ∀ s, stimulus = .segment s → s.kind ≠ .fin := by
      rintro hheard s rfl hkind
      cases hreaches with
      | @segment packet _ _ hsegment hroute =>
        unfold Node.hearsEnd at hheard
        simp [hsegment, hkind, hroute, hlive packet rfl] at hheard
    have hfits := (h.fits acting).moved hsocket (Connection.responds_of_respond hrespond)
      ((hsockets acting).trans (if_pos rfl)) (hnext ▸ h.numbered acting _ hsocket) hend
    unfold after
    simp only [hreaches.actor?, if_true]
    rw [hreaches.granted hsocket now]
    exact hfits
  · refine h.quiet (Nat.le_of_eq hnext.symm) (fun hactor => ?_) fun s hs => ?_
    · rw [hreaches.actor?] at hactor
      exact absurd (Option.some.inj hactor) hid
    · rw [hsockets, if_neg hid] at hs
      exact Or.inl hs

/-- A socket becomes a connection, and says so. -/
theorem fits_of_opened {c : Connection} (hactor : ρ.node.actor? input = some id)
    (hempty : (ρ.ledger id).written = 0 ∧ (ρ.ledger id).sent = [])
    (hgranted : ρ.node.granted now input = 0) (hsocket : n'.socket? id = some (.connection c))
    (hid : id < n'.nextId) (hbalanced : c.Balanced 0)
    (hsent : ∀ s ∈ segmentsOf effects, s.kind ≠ .fin) :
    ((ρ.after now input n' effects).ledger id).Fits n' id := by
  unfold after
  simp only [hactor, if_true]
  exact Ledger.Fits.opened hempty hgranted hsocket hid hbalanced hsent

theorem Kept.step (h : ρ.Kept) (hreact : ρ.node.react now input = .ok (n', effects)) :
    (ρ.after now input n' effects).Kept := by
  have hchange := Node.change_of_react hreact
  refine ⟨fun id s hs => (hchange.became hs).lt_nextId h.numbered hchange.nextId_le, fun id => ?_⟩
  show ((ρ.after now input n' effects).ledger id).Fits n' id
  by_cases hspent : ∃ packet, input = .packet packet ∧ packet.ttl = 0
  · obtain ⟨packet, rfl, hspent⟩ := hspent
    obtain ⟨rfl, rfl⟩ := Node.react_of_spent hspent hreact
    exact h.quiet (Nat.le_refl _) (fun _ => ⟨rfl, rfl⟩) fun s hs => Or.inl hs
  have hlive : ∀ packet, input = .packet packet → packet.ttl ≠ 0 :=
    fun packet hinput hzero => hspent ⟨packet, hinput, hzero⟩
  rcases Node.moved_or_granted hreact with
    ⟨acting, stimulus, c, c', hreaches, hsocket, hrespond, hnext, hsockets⟩ | hgranted
  · exact h.moved hlive hreaches hsocket hrespond hnext hsockets id
  -- A socket that is no connection takes the place of another.
  have hput : ∀ {acting : SocketId} {s new : Socket}, ρ.node.socket? acting = some s →
      (∀ c, s ≠ .connection c) → (∀ c, new ≠ .connection c) → ∀ s',
      (ρ.node.withSocket acting new).socket? id = some s' → ρ.node.socket? id = some s' ∨
        (∀ c, s' ≠ .connection c) ∧ (ρ.node.nextId ≤ id ∨
          ∃ s, ρ.node.socket? id = some s ∧ ∀ c, s ≠ .connection c) := by
    intro acting s new hs hold hnew s' hs'
    rw [Node.socket?_withSocket] at hs'
    split at hs'
    · next hid =>
      cases hs'
      exact Or.inr ⟨hnew, Or.inr ⟨s, hid ▸ hs, hold⟩⟩
    · exact Or.inl hs'
  have hfresh : ∀ {port : Option UInt16} (c : Connection), Socket.fresh port ≠ .connection c :=
    fun c hc => by cases hc
  have hlistener : ∀ {port : UInt16} {limit : Nat} {backlog : List SocketId} (c : Connection),
      Socket.listener port limit backlog ≠ .connection c := fun c hc => by cases hc
  have hsilent : ρ.node.actor? input = some id →
      ρ.node.granted now input = 0 ∧ packetsOf [] = [] := fun _ => ⟨hgranted, rfl⟩
  cases hchange with
  | unmoved => exact h.quiet (Nat.le_refl _) hsilent fun s hs => Or.inl hs
  | reset hsegment hroute =>
    refine h.quiet (Nat.le_refl _) (fun hactor => ?_) fun s hs => Or.inl hs
    unfold Node.actor? at hactor
    simp only [hsegment, Option.map_some, hroute] at hactor
    cases hactor
  | created =>
    refine h.quiet (Nat.le_succ _) hsilent fun s hs => ?_
    have hs' := (Node.socket?_withSocket ρ.node _ id _).symm.trans hs
    split at hs'
    · next hid =>
      cases hs'
      exact Or.inr ⟨hfresh, Or.inl (Nat.le_of_eq hid)⟩
    · exact Or.inl hs'
  | bound hsocket => exact h.quiet (Nat.le_refl _) hsilent (hput hsocket hfresh hfresh)
  | listening hsocket => exact h.quiet (Nat.le_refl _) hsilent (hput hsocket hfresh hlistener)
  | @connecting acting port remotePort remoteAddr c _ hsocket hopened =>
    by_cases hid : acting = id
    · subst hid
      have hself := Node.socket?_withSocket ρ.node acting acting (.connection c)
      rw [if_pos rfl] at hself
      have hkinds := (Connection.eq_of_request hopened).2.2
      obtain ⟨stats, hstats, hrequest⟩ := Connection.request_eq (ρ.node.context acting now)
        ⟨port, remoteAddr, remotePort⟩
      rw [hopened] at hrequest
      obtain ⟨rfl, -⟩ := Prod.mk.inj hrequest
      refine fits_of_opened rfl ((h.fits acting).idle _ hsocket hfresh) rfl hself
        (h.numbered acting _ hsocket) (Connection.balanced_of_create rfl hstats nofun) ?_
      intro s hs
      rw [hkinds s hs]
      exact nofun
    · refine h.quiet (Nat.le_refl _) (fun hactor => absurd (Option.some.inj hactor) hid) ?_
      intro s hs
      have hs' := (Node.socket?_withSocket ρ.node acting id _).symm.trans hs
      rw [if_neg hid] at hs'
      exact Or.inl hs'
  | accepted hsocket =>
    refine h.quiet (Nat.le_refl _) hsilent fun s hs => ?_
    rw [Node.socket?_discard] at hs
    split at hs
    · cases hs
    · exact hput hsocket hlistener hlistener s hs
  | released =>
    exact h.quiet (Nat.le_of_eq (Node.nextId_profile_release ρ.node _).1.symm) hsilent
      fun s hs => Or.inl (Node.socket?_of_release hs).1
  | @spawned packet s acting port limit backlog c _ hsegment hroute hsocket _ hopened =>
    have hactor : ρ.node.actor? (.packet packet) = some ρ.node.nextId := by
      unfold Node.actor?
      simp only [hsegment, Option.map_some, hroute]
    by_cases hid : ρ.node.nextId = id
    · subst hid
      have hkinds := (Connection.eq_of_answer hopened).2.2
      obtain ⟨stats, hstats, hanswer⟩ := Connection.answer_eq
        (ρ.node.context ρ.node.nextId now) ⟨port, packet.src, s.srcPort⟩ s
      rw [hopened] at hanswer
      obtain ⟨rfl, -⟩ := Prod.mk.inj hanswer
      refine fits_of_opened hactor ((h.fits _).unused (Nat.le_refl _)) rfl
        ((Node.socket?_withSocket _ _ _ _).trans (if_pos rfl)) (Nat.lt_succ_self _)
        (Connection.balanced_of_create rfl hstats nofun) ?_
      intro s' hs'
      rw [hkinds s' hs']
      exact nofun
    · refine h.quiet (Nat.le_succ _) (fun hself => ?_) fun s' hs' => ?_
      · rw [hactor] at hself
        exact absurd (Option.some.inj hself) hid
      · have hput' := (Node.socket?_withSocket _ ρ.node.nextId id _).symm.trans hs'
        rw [if_neg hid] at hput'
        exact hput hsocket hlistener hlistener s' hput'
  | @moved _ acting stimulus c c' _ hreaches hsocket hrespond =>
    exact h.moved hlive hreaches hsocket hrespond (Node.nextId_profile_settle _ _ _ _).1
      (Node.socket?_settle ρ.node acting · c c') id

theorem kept_start {n : Node} (hcreate : Node.create addr settings = .ok n) : (start n).Kept := by
  have hno : ∀ {id s}, ¬ (start n).node.socket? id = some s := fun hs => by
    cases (Node.socket?_of_create hcreate _).symm.trans hs
  exact ⟨fun id s hs => absurd hs hno, fun id => ⟨endsLast_of_none nofun, fun _ => ⟨rfl, rfl⟩,
    fun s hs => absurd hs hno, fun c hc => absurd hc hno, fun c hc => absurd hc hno,
    fun c hc => absurd hc hno⟩⟩

theorem Kept.run (h : ρ.Kept) {inputs : List (Duration × Input)} {σ : Register}
    (hrun : ρ.run inputs = some σ) : σ.Kept :=
  Node.of_observed hrun h (fun _ _ => rfl) fun hρ hreact => hρ.step hreact

end Register

/-! ### The end of a connection is gated -/

/-- How many bytes of a socket are written and not acknowledged. -/
def Socket.buffered (s : Socket) : Nat := (s.sender?.map Sender.buffered).getD 0

/-- A socket announces an end only when the check for just this end comes
    back to it. -/
theorem Node.Change.ends {n n' : Node} {now : Duration} {input : Input} {effects : List Effect}
    {id : SocketId} {s : Segment} (h : n.Change now input n' effects)
    (hactor : n.actor? input = some id) (hs : s ∈ segmentsOf effects) (hkind : s.kind = .fin) :
    input = .timer ⟨id, .shutdownCheck s.seq⟩ ∧
      ∃ c r, n.socket? id = some (.connection c) ∧ c.phase = .shutdown r s.seq := by
  cases h with
  | reset hsegment hroute =>
    unfold Node.actor? at hactor
    simp only [hsegment, Option.map_some, hroute] at hactor
    cases hactor
  | connecting _ hopened =>
    rw [(Connection.eq_of_request hopened).2.2 s hs] at hkind
    cases hkind
  | spawned _ _ _ _ hopened =>
    rw [(Connection.eq_of_answer hopened).2.2 s hs] at hkind
    cases hkind
  | moved hreaches hsocket hrespond =>
    obtain ⟨hstimulus, ⟨r, hphase⟩, -⟩ :=
      (Connection.responds_of_respond hrespond).ends hs hkind
    obtain rfl := Option.some.inj (hreaches.actor?.symm.trans hactor)
    refine ⟨?_, _, r, hsocket, hphase⟩
    cases hreaches with
    | @timer timer =>
      rw [← Stimulus.timer.inj hstimulus]
    | _ => cases hstimulus
  | _ => cases hs

/-- A check for an end that is not waited for does nothing. -/
theorem Node.onTimer_of_superseded {n : Node} {id : SocketId} {c : Connection} {r : Receiver}
    {pending finSeq : UInt32} (hsocket : n.socket? id = some (.connection c))
    (hphase : c.phase = .shutdown r pending) (hother : finSeq ≠ pending) (now : Duration) :
    (n.onTimer ⟨id, .shutdownCheck finSeq⟩ now).2 = [] := by
  unfold onTimer
  simp only [hsocket]
  show (c.onShutdownCheck (n.context id now) finSeq).2 = []
  unfold Connection.onShutdownCheck
  simp only [hphase, if_pos (Ne.symm hother)]

namespace Register

/-- The end of a connection is gated. -/
structure Gated (ρ : Register) : Prop where
  /-- A socket announces one end at most, and sends nothing after it. -/
  once : ∀ id, EndsLast (ρ.ledger id).sent
  /-- Until the peer announces its end, every byte that was taken is either
      acknowledged or still in the buffer. -/
  books : ∀ id s, ρ.node.socket? id = some s → (ρ.ledger id).heardEnd = false →
    (ρ.ledger id).written = s.stats.bytesAcked + s.buffered
  /-- An end that is announced before that is the end of all that was taken,
      and all of it is acknowledged. -/
  gate : ∀ id c, ρ.node.socket? id = some (.connection c) → (ρ.ledger id).heardEnd = false →
    ∀ p ∈ (ρ.ledger id).sent, ∀ s, p.segment? = some s → s.kind = .fin →
      c.stats.bytesAcked = (ρ.ledger id).written ∧
        s.seq = advance c.sender.isn (1 + (ρ.ledger id).written)
  /-- Only the check for the end that is waited for announces it. -/
  checked : ∀ now input n' effects, ρ.node.react now input = .ok (n', effects) →
    ∀ id, ρ.node.actor? input = some id →
      ∀ p ∈ packetsOf effects, ∀ s, p.segment? = some s → s.kind = .fin →
        input = .timer ⟨id, .shutdownCheck s.seq⟩ ∧
          ∃ c r, ρ.node.socket? id = some (.connection c) ∧ c.phase = .shutdown r s.seq
  /-- A check for an end that was superseded does nothing. -/
  superseded : ∀ id c r pending finSeq, ρ.node.socket? id = some (.connection c) →
    c.phase = .shutdown r pending → finSeq ≠ pending →
    ∀ now, (ρ.node.onTimer ⟨id, .shutdownCheck finSeq⟩ now).2 = []

theorem Kept.gated {ρ : Register} (h : ρ.Kept) : ρ.Gated where
  once id := (h.fits id).last
  books id s hs hheard := by
    cases s with
    | fresh => exact ((h.fits id).idle _ hs (fun c hc => by cases hc)).1
    | listener => exact ((h.fits id).idle _ hs (fun c hc => by cases hc)).1
    | connection c => exact ((h.fits id).balanced c hs hheard).total
  gate id := (h.fits id).final
  checked now input n' effects hreact id hactor p hp s hsegment hkind :=
    (Node.change_of_react hreact).ends hactor (mem_segmentsOf hp hsegment) hkind
  superseded _ _ _ _ _ hsocket hphase hother := Node.onTimer_of_superseded hsocket hphase hother

/-- **The end of a connection is gated.** In every run of a node, whatever
    arrives and whenever its timers come back, each socket announces its end
    once and last of all; and unless its peer has announced an end before, only
    when every byte that was taken from its application is acknowledged. -/
theorem end_is_gated {addr : NodeAddr} {settings : Settings} {n : Node}
    (hcreate : Node.create addr settings = .ok n) (inputs : List (Duration × Input))
    (ρ : Register) (hrun : (start n).run inputs = some ρ) : ρ.Gated :=
  ((kept_start hcreate).run hrun).gated

/-- A spawned connection sends two bytes, which are acknowledged, and closes. -/
def leaving : List (Duration × Input) :=
  let packet (s : Segment) : Packet :=
    { src := 9, dest := 1, ttl := 15, protocol := .transport, seq := s.seq
      payload := s.header s.frameChecksum ++ s.payload }
  [.call .socket, .call (.bind 1 80), .call (.listen 1 5),
    .packet (packet ⟨5000, 80, .syn, 4, 100, []⟩), .packet (packet ⟨5000, 80, .ack, 8, 1, []⟩),
    .call (.write 2 [7, 8]), .packet (packet ⟨5000, 80, .ack, 8, 3, []⟩), .call (.close 2),
    .timer ⟨2, .shutdownCheck 3⟩].map (.zero, ·)

/-- It announces the end behind its two bytes. -/
theorem gated_of_leaving : ∃ n, Node.create 1 { mss := 4, bufferSize := 8 } = .ok n ∧
    ∃ ρ ∈ (start n).run leaving, (ρ.ledger 2).written = 2 ∧ (ρ.ledger 2).heardEnd = false ∧
      ((ρ.ledger 2).sent.filterMap Packet.segment?).map (fun s => (s.kind, s.seq)) =
        [(.ack, 101), (.data, 1), (.fin, 3)] ∧ ρ.Gated := by
  have hcreate : Node.create 1 { mss := 4, bufferSize := 8 } = .ok _ := rfl
  refine ⟨_, hcreate, _, Option.get_mem (by decide +kernel), by decide +kernel,
    by decide +kernel, by decide +kernel, ?_⟩
  exact end_is_gated hcreate leaving _ (Option.get_mem _)

end Register

end ReliableStream
