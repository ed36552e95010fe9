import ReliableStream.Node.Ports
import ReliableStream.Proofs.Pacing
/-! # The handshake

    The answering end of a session is established before it knows whether its
    answer arrived, and it may write and send at once. Nothing of that can
    spoil the handshake: as long as the opening end still asks, it has taken
    nothing in, so the answering end has nothing acknowledged, and every copy
    of its answer says the same. Whichever copy arrives first, both ends then
    agree on where either stream begins.

    If any part of the handshake was lost, the opening end asks once more, and
    **one round** completes it. -/

namespace ReliableStream

open Sequence

theorem Phase.eq_established_of_state {p : Phase} (h : p.state = .established) :
    ∃ r, p = .established r := by
  cases p with
  | established r => exact ⟨r, rfl⟩
  | _ => cases h

namespace Connection

variable {ctx : Context} {c c' : Connection} {stimulus : Stimulus} {effects : List Effect}

/-! ### The parts of a handshake -/

theorem segmentsOf_transmit_one (ctx : Context) (c : Connection) {s : Segment}
    (h : s.payload.length ≤ 4) : segmentsOf (c.transmit ctx [s]).2 = [s] := by
  apply segmentsOf_transmit
  intro s' hs'
  rw [List.mem_singleton.mp hs']
  exact Nat.le_trans h (by decide)

/-- A connection that waits for its answer asks once more. -/
theorem respond_retransmitSyn (ctx : Context) (hphase : c.phase = .synSent) :
    ∃ stats effects, c.respond ctx (.timer (.retransmitSyn c.sender.isn)) =
      .ok ({ c with stats }, effects) ∧ segmentsOf effects = [c.syn] := by
  refine ⟨(c.transmit ctx [c.syn]).1.stats, (c.transmit ctx [c.syn]).2 ++
    [ctx.arm ctx.profile.timers.synRetransmit (.retransmitSyn c.sender.isn)], ?_, ?_⟩
  · have hasks : c.onRetransmitSyn ctx c.sender.isn = ((c.transmit ctx [c.syn]).1,
        (c.transmit ctx [c.syn]).2 ++
          [ctx.arm ctx.profile.timers.synRetransmit (.retransmitSyn c.sender.isn)]) := by
      unfold onRetransmitSyn
      rw [hphase]
      exact if_pos rfl
    show Except.ok (c.onRetransmitSyn ctx c.sender.isn) = _
    rw [hasks]
    rfl
  · rw [segmentsOf_append, segmentsOf_arm, List.append_nil]
    exact segmentsOf_transmit_one ctx c (Nat.zero_le _)

/-- A request for an open connection is answered once more. -/
theorem respond_syn (ctx : Context) {s : Segment} {r : Receiver} (hkind : s.kind = .syn)
    (hopen : c.phase.openReceiver? = some r) (hpeer : c.peerClosed = false) :
    ∃ stats effects, c.respond ctx (.segment s) = .ok ({ c with stats }, effects) ∧
      segmentsOf effects = [c.synAck r] := by
  refine ⟨(c.transmit ctx [c.synAck r]).1.stats, (c.transmit ctx [c.synAck r]).2, ?_, ?_⟩
  · have hanswers : c.onDuplicateSyn ctx = c.transmit ctx [c.synAck r] := by
      unfold onDuplicateSyn
      rw [hopen, hpeer]
      rfl
    show c.onSegment ctx s = _
    unfold onSegment
    rw [hkind, hanswers]
    rfl
  · exact segmentsOf_transmit_one ctx c (Nat.le_refl _)

/-- The answer that names the request establishes the connection, and is
    confirmed. -/
theorem respond_synAck (ctx : Context) {s : Segment} (peerIsn : UInt32)
    (hphase : c.phase = .synSent) (hkind : s.kind = .ack) (hseq : s.seq = advance c.sender.isn 1)
    (hpayload : s.payload = Wire.bytesOf32 peerIsn) :
    ∃ c' effects, c.respond ctx (.segment s) = .ok (c', effects) ∧
      c'.phase = .established (.create ctx.profile.shape peerIsn) ∧
      c'.identity = c.identity ∧ c'.sender.sndUna = c.sender.sndUna ∧
      segmentsOf effects = [c.ack (.create ctx.profile.shape peerIsn)] := by
  let opened : Connection :=
    { c with
      sender := c.sender.withReceiverWindow s.window
      phase := .established (.create ctx.profile.shape peerIsn)
      confirmed := true }
  let confirmation := c.ack (.create ctx.profile.shape peerIsn)
  refine ⟨(opened.transmit ctx [confirmation]).1, (opened.transmit ctx [confirmation]).2, ?_, rfl,
    rfl, rfl, segmentsOf_transmit_one ctx opened (Nat.zero_le _)⟩
  show c.onSegment ctx s = _
  unfold onSegment
  rw [hkind, hphase]
  simp only
  unfold onSynAck
  rw [hpayload]
  unfold Wire.bytesOf32
  simp only [if_pos hseq]
  rw [Wire.word32_bytesOf32]
  rfl

/-- The confirmation of a handshake is taken in. -/
theorem respond_confirmation (ctx : Context) {s : Segment} {r : Receiver}
    (hphase : c.phase = .established r) (hconfirmed : c.confirmed = false) (hkind : s.kind = .ack)
    (hpayload : s.payload = []) (hseq : s.seq = c.sender.sndUna) :
    c.respond ctx (.segment s) =
      .ok ({ c with confirmed := true, sender := c.sender.withReceiverWindow s.window }, []) := by
  have htakes : c.onOpenAck ctx r s =
      .ok ({ c with confirmed := true, sender := c.sender.withReceiverWindow s.window }, []) := by
    unfold onOpenAck
    rw [hpayload, hconfirmed, hseq, beq_self_eq_true]
    rfl
  show c.onSegment ctx s = _
  rw [← htakes]
  unfold onSegment
  rw [hkind, hphase]

/-- A move does not change whose connection it is. -/
theorem Moved.identity (hmoved : c.Moved ctx stimulus c' effects) : c'.identity = c.identity := by
  cases hmoved <;> rfl

/-- A receiver does not go away. -/
theorem Received.receiver (hreceived : c.Received ctx stimulus c')
    (h : ∃ r, c.phase.receiver? = some r) : ∃ r, c'.phase.receiver? = some r := by
  cases hreceived with
  | absent hbefore =>
    obtain ⟨r, hr⟩ := h
    exact absurd (hbefore.symm.trans hr) nofun
  | created _ _ _ hafter => exact ⟨_, hafter⟩
  | kept _ hafter => exact ⟨_, hafter⟩
  | appended _ hafter => exact ⟨_, hafter⟩

/-- A connection that still waits for its answer sends nothing but its
    request. -/
theorem Moved.asks (hmoved : c.Moved ctx stimulus c' effects) (hasked : c'.phase = .synSent) :
    ∀ s ∈ segmentsOf effects, s.kind = .syn := by
  intro s hs
  have hbefore := (hmoved.sender_of_asked hasked).1
  have hclosed : ∀ {r}, c.phase.openReceiver? ≠ some r := by
    intro r hopen
    rw [hbefore] at hopen
    cases hopen
  cases hmoved with
  | wroteSent hphase => exact absurd (hphase.symm.trans hbefore) nofun
  | answered hopen => exact absurd hopen hclosed
  | data hopen => exact absurd hopen hclosed
  | ackedSent hopen => exact absurd hopen hclosed
  | requested _ _ hsent =>
    rw [hsent s hs]
    rfl
  | granted hopen => exact absurd hopen hclosed
  | repeated hopen => exact absurd hopen hclosed
  | opened => cases hasked
  | finished => cases hasked
  | _ => exact absurd hs List.not_mem_nil

/-- Only the answer establishes a connection that was asked for. -/
theorem Moved.opened_of_asked {s : Segment} {r : Receiver}
    (hmoved : c.Moved ctx (.segment s) c' effects) (hasked : c.phase = .synSent)
    (hafter : c'.phase = .established r) :
    s.kind = .ack ∧ c'.sender.sndUna = c.sender.sndUna ∧
      ∃ peerIsn, s.payload = Wire.bytesOf32 peerIsn ∧ r = .create ctx.profile.shape peerIsn := by
  have hclosed : ∀ {r}, c.phase.openReceiver? ≠ some r := by
    intro r hopen
    rw [hasked] at hopen
    cases hopen
  cases hmoved with
  | opened _ hkind _ hpayload =>
    cases hafter
    exact ⟨hkind, rfl, _, hpayload, rfl⟩
  | ignored => exact absurd (hafter.symm.trans hasked) nofun
  | answered hopen => exact absurd hopen hclosed
  | data hopen => exact absurd hopen hclosed
  | confirmed hopen => exact absurd hopen hclosed
  | acked hopen => exact absurd hopen hclosed
  | ackedSent hopen => exact absurd hopen hclosed
  | ended => cases hafter
  | refused => cases hafter

end Connection

namespace Session

variable {w : Session} {σ σ' : State}

/-! ### While the opening end asks -/

/-- The ends are those of the session, and an opening end that asks has sent
    nothing but requests. Before the answering end is there it has sent nothing,
    and from then on it has a receiver. -/
structure Introduced (w : Session) (σ : State) : Prop where
  identity : ∀ side e, σ.ends side = some e → e.connection.identity = w.identity side
  asked : ∀ e, σ.ends .opening = some e → e.connection.phase = .synSent →
    ∀ p ∈ σ.sent .opening, p.segment.kind = .syn
  unspawned : σ.ends .answering = none → σ.sent .answering = []
  receives : ∀ p, σ.ends .answering = some p → ∃ r, p.connection.phase.receiver? = some r

theorem introduced_start (w : Session) (now : Duration) : w.Introduced (w.start now) := by
  unfold start
  rcases hopened : Connection.request (w.context .opening now) (w.identity .opening)
    with ⟨c, effects⟩
  obtain ⟨⟨stats, rfl⟩, -, hsent⟩ := Connection.eq_of_request hopened
  refine ⟨?_, ?_, fun _ => rfl, fun _ hnone => by cases hnone⟩
  · rintro (_ | _) e he
    · cases he
      rfl
    · cases he
  · intro e _ _ p hp
    obtain ⟨s, hs, rfl⟩ := List.mem_map.mp hp
    rw [hsent s hs]
    rfl

theorem Introduced.step (h : w.Introduced σ) (hcoherent : w.Coherent σ) (hstep : w.Step σ σ') :
    w.Introduced σ' := by
  cases hstep with
  | @respond e answer side now stimulus hend hallowed hrespond =>
    obtain ⟨c, effects⟩ := answer
    have hmoved := Connection.moved_of_respond (hcoherent.valid side e hend).sound
      (hcoherent.not_opposite hend hallowed) hrespond
    refine ⟨?_, ?_, ?_, ?_⟩
    · intro side' e' he'
      by_cases hside : side' = side
      · subst hside
        rw [State.ends_update_self] at he'
        cases he'
        exact hmoved.identity.trans (h.identity side' e hend)
      · rw [State.ends_update_of_ne hside] at he'
        exact h.identity side' e' he'
    · intro e' he' hasked p hp
      cases side with
      | opening =>
        rw [State.ends_update_self] at he'
        cases he'
        rw [State.sent_update_self] at hp
        rcases List.mem_append.mp hp with hp | hp
        · exact h.asked e hend (hmoved.sender_of_asked hasked).1 p hp
        · obtain ⟨s, hs, rfl⟩ := List.mem_map.mp hp
          exact hmoved.asks hasked s hs
      | answering => exact h.asked e' he' hasked p hp
    · intro hnone
      cases side with
      | opening => exact h.unspawned hnone
      | answering => cases hnone
    · intro p hp
      cases side with
      | opening => exact h.receives p hp
      | answering =>
        rw [State.ends_update_self] at hp
        cases hp
        exact hmoved.received.receiver (h.receives e hend)
  | @spawn now p hnone hmem hkind =>
    rcases hopened : Connection.answer (w.context .answering now) (w.identity .answering) p.segment
      with ⟨c, effects⟩
    obtain ⟨⟨stats, rfl⟩, -, -⟩ := Connection.eq_of_answer hopened
    refine ⟨?_, h.asked, nofun, ?_⟩
    · rintro (_ | _) e he
      · exact h.identity .opening e he
      · cases he
        rfl
    · intro q hq
      cases hq
      exact ⟨_, rfl⟩
  | withdraw hend hphase =>
    refine ⟨?_, ?_, h.unspawned, h.receives⟩
    · rintro (_ | _) e he
      · cases he
      · exact h.identity .answering e he
    · intro e he
      cases he

theorem introduced_of_reachable (h : w.Reachable σ) : w.Introduced σ := by
  induction h with
  | start now => exact introduced_start w now
  | step hreachable hstep ih => exact ih.step (coherent_of_reachable hreachable) hstep

/-- What an end sends between its ports is for the other end. -/
theorem Introduced.addressed {side : Side} {e : Endpoint} (h : w.Introduced σ)
    (he : σ.ends side = some e) :
    Identity.mk e.connection.identity.remotePort (w.addr side) e.connection.identity.localPort =
      w.identity side.other := by
  rw [h.identity side e he]
  unfold Session.identity
  rw [Side.other_other]

/-- An end that was told of the end of the other is not established. -/
theorem peerOpen_of_established {side : Side} {e : Endpoint} {r : Receiver} (h : w.Reachable σ)
    (he : σ.ends side = some e) (hphase : e.connection.phase = .established r) :
    e.connection.peerClosed = false := by
  rw [← Bool.not_eq_true]
  intro hclosed
  have hover := (((paced_of_reachable h).fitted side e he).abandoned hclosed).ended
  rw [hphase] at hover
  rcases hover with hover | hover <;> cases hover

/-- While the opening end asks, it has sent nothing that could arrive. -/
theorem accepted_of_asked {e : Endpoint} (h : w.Reachable σ) (he : σ.ends .opening = some e)
    (hasked : e.connection.phase = .synSent) : (σ.accepted .answering).length = 0 := by
  have hsentEnd := (((coherent_of_reachable h).valid .opening e he).blank_of_asked hasked).2.2
  have harrived : (σ.accepted .answering).length ≤ σ.sentEnd .opening :=
    (paced_of_reachable h).arrived .opening
  rw [State.sentEnd_of_end he, hsentEnd] at harrived
  exact Nat.le_zero.mp harrived

/-- So the answering end has taken nothing in; and unless it gave up its stream,
    it has nothing acknowledged. -/
theorem numbers_of_asked {e p : Endpoint} (h : w.Reachable σ) (he : σ.ends .opening = some e)
    (hp : σ.ends .answering = some p) (hasked : e.connection.phase = .synSent) :
    e.connection.sender.sndUna = numberAt (w.isn .opening) 0 ∧
    (∀ r, p.connection.phase.receiver? = some r → r.rcvNxt = numberAt (w.isn .opening) 0) ∧
    (p.connection.peerClosed = false →
      p.connection.sender.sndUna = numberAt (w.isn .answering) 0) := by
  have hcoherent := coherent_of_reachable h
  have hopening := hcoherent.valid .opening e he
  have hanswering := hcoherent.valid .answering p hp
  obtain ⟨-, haccepted, -⟩ := hopening.blank_of_asked hasked
  refine ⟨?_, ?_, ?_⟩
  · rw [hopening.holds.sndUna, hopening.isn, hopening.acked_of_asked hasked]
  · intro r hr
    have hnothing := accepted_of_asked h he hasked
    rw [State.accepted_of_end hp] at hnothing
    rw [hanswering.rcvNxt r hr, hnothing]
    rfl
  · intro hopen
    have htrails : p.acked ≤ (σ.accepted .opening).length :=
      ((paced_of_reachable h).trails .answering p hp hopen).1
    rw [State.accepted_of_end he, haccepted] at htrails
    rw [hanswering.holds.sndUna, hanswering.isn, Nat.le_zero.mp htrails]

/-! ### Announcements -/

/-- The runs in which the end of a connection is only announced by that end, or
    by its node once the connection is gone. -/
inductive Genuine (w : Session) : State → Prop where
  | start (now : Duration) : Genuine w (w.start now)
  | step {σ σ' : State} (h : Genuine w σ) (hstep : w.Step σ σ')
      (hannounced : ∀ side e e', σ.ends side = some e → σ'.ends side = some e' →
        e.connection.peerClosed = false → e'.connection.peerClosed = true →
        (∃ p ∈ σ.sent side.other, p.segment.kind = .fin) ∨
          ∀ peer, σ.ends side.other = some peer → peer.connection.phase.isClosed = true) :
      Genuine w σ'

theorem Genuine.reachable (h : w.Genuine σ) : w.Reachable σ := by
  induction h with
  | start now => exact .start now
  | step _ hstep _ ih => exact ih.step hstep

/-- In such runs the answering end hears of no end while the opening end asks. -/
theorem Genuine.peerOpen {e p : Endpoint} (h : w.Genuine σ) (he : σ.ends .opening = some e)
    (hasked : e.connection.phase = .synSent) (hp : σ.ends .answering = some p) :
    p.connection.peerClosed = false := by
  induction h generalizing e p with
  | start now => cases hp
  | @step σ σ' h hstep hannounced ih =>
    have hcoherent := coherent_of_reachable h.reachable
    cases hstep with
    | @respond end' answer side now stimulus hend hallowed hrespond =>
      obtain ⟨c, effects⟩ := answer
      cases side with
      | opening =>
        have hmoved := Connection.moved_of_respond (hcoherent.valid .opening end' hend).sound
          (hcoherent.not_opposite hend hallowed) hrespond
        cases he
        exact ih hend (hmoved.sender_of_asked hasked).1 hp
      | answering =>
        rw [← Bool.not_eq_true]
        intro hclosed
        rcases hannounced .answering end' p hend hp (ih he hasked hend) hclosed with
          ⟨q, hq, hfin⟩ | hgone
        · have hsyn := (introduced_of_reachable h.reachable).asked e he hasked q hq
          rw [hfin] at hsyn
          cases hsyn
        · have hdead := hgone e he
          rw [hasked] at hdead
          cases hdead
    | @spawn now q hnone hmem hkind =>
      rcases hopened :
        Connection.answer (w.context .answering now) (w.identity .answering) q.segment with
        ⟨c, effects⟩
      obtain ⟨⟨stats, hc⟩, -, -⟩ := Connection.eq_of_answer hopened
      cases hp
      rw [hopened, hc]
      rfl
    | withdraw => cases he

/-! ### One round -/

/-- An end responds to a stimulus with exactly one segment, which belongs to the
    connection at the other end. -/
structure Leg (w : Session) (side : Side) (now : Duration) (c : Connection) (stimulus : Stimulus)
    (c' : Connection) (sent : Segment) : Prop where
  responds : ∃ effects, c.respond (w.context side now) stimulus = .ok (c', effects) ∧
    segmentsOf effects = [sent]
  addressed : PortTable.identityOf sent (w.addr side) = w.identity side.other

/-- Both ends are established, the answering end knows it, each is the mirror
    image of the other, and each expects the byte that the other holds as its
    oldest. -/
structure Agreed (w : Session) (c p : Connection) : Prop where
  opening : ∃ r, c.phase = .established r ∧ r.rcvNxt = p.sender.sndUna
  answering : ∃ r, p.phase = .established r ∧ r.rcvNxt = c.sender.sndUna
  confirmed : p.confirmed = true
  localPort : c.identity.localPort = p.identity.remotePort
  remotePort : c.identity.remotePort = p.identity.localPort
  remoteAddr : c.identity.remoteAddr = w.addr .answering ∧ p.identity.remoteAddr = w.addr .opening

/-- If the opening end asks once more and nothing is lost, the handshake is
    completed. -/
theorem completes_of_asked {e p : Endpoint} {r : Receiver} (h : w.Reachable σ)
    (he : σ.ends .opening = some e) (hp : σ.ends .answering = some p)
    (hasked : e.connection.phase = .synSent) (hphase : p.connection.phase = .established r)
    (hconfirmed : p.connection.confirmed = false) (now₁ now₂ now₃ now₄ : Duration) :
    ∃ syn synAck ack c₁ c₂ p₁ p₂,
      Leg w .opening now₁ e.connection (.timer (.retransmitSyn e.connection.sender.isn)) c₁ syn ∧
      Leg w .answering now₂ p.connection (.segment syn) p₁ synAck ∧
      Leg w .opening now₃ c₁ (.segment synAck) c₂ ack ∧
      p₁.respond (w.context .answering now₄) (.segment ack) = .ok (p₂, []) ∧ w.Agreed c₂ p₂ := by
  have hintroduced := introduced_of_reachable h
  have hopen : p.connection.phase.openReceiver? = some r := by
    rw [hphase]
    rfl
  have hpeer := peerOpen_of_established h hp hphase
  obtain ⟨hsndUna, hrcvNxt, hunacked⟩ := numbers_of_asked h he hp hasked
  have hnext := hrcvNxt r (by rw [hphase]; rfl)
  have hisn := ((coherent_of_reachable h).valid .opening e he).isn
  have hisn' := ((coherent_of_reachable h).valid .answering p hp).isn
  obtain ⟨stats₁, effects₁, hasks, hsyn⟩ :=
    Connection.respond_retransmitSyn (w.context .opening now₁) hasked
  obtain ⟨stats₂, effects₂, hanswers, hsynAck⟩ :=
    Connection.respond_syn (w.context .answering now₂) (s := e.connection.syn) rfl hopen hpeer
  obtain ⟨c₂, effects₃, hopens, hphase₂, hidentity₂, hsndUna₂, hack⟩ :=
    Connection.respond_synAck (w.context .opening now₃)
      (c := { e.connection with stats := stats₁ }) (s := p.connection.synAck r)
      p.connection.sender.isn hasked rfl (by
        show r.rcvNxt = advance e.connection.sender.isn 1
        rw [hnext, hisn]
        rfl) rfl
  have hconfirms := Connection.respond_confirmation (w.context .answering now₄)
    (c := { p.connection with stats := stats₂ })
    (s := { e.connection with stats := stats₁ }.ack
      (.create (w.profile .opening).shape p.connection.sender.isn)) hphase hconfirmed rfl rfl (by
        show advance p.connection.sender.isn 1 = p.connection.sender.sndUna
        rw [hunacked hpeer, hisn']
        rfl)
  have haddressed := hintroduced.addressed he
  have hidentity := hintroduced.identity .answering p hp
  have hmirror : c₂.identity = w.identity .opening :=
    hidentity₂.trans (hintroduced.identity .opening e he)
  refine ⟨_, _, _, _, c₂, _, _, ⟨⟨effects₁, hasks, hsyn⟩, haddressed⟩,
    ⟨⟨effects₂, hanswers, hsynAck⟩, hintroduced.addressed hp⟩,
    ⟨⟨effects₃, hopens, hack⟩, haddressed⟩, hconfirms, ?_⟩
  refine ⟨⟨_, hphase₂, ?_⟩, ⟨r, hphase, ?_⟩, rfl, ?_, ?_, ?_, congrArg Identity.remoteAddr hidentity⟩
  · show advance p.connection.sender.isn 1 = p.connection.sender.sndUna
    rw [hunacked hpeer, hisn']
    rfl
  · rw [hsndUna₂, hnext]
    exact hsndUna.symm
  · rw [hmirror]
    exact (congrArg Identity.remotePort hidentity).symm
  · rw [hmirror]
    exact (congrArg Identity.localPort hidentity).symm
  · rw [hmirror]
    rfl

/-- **Agreement.** Suppose the opening end still asks.

    * If the answering end is established and was not confirmed, one round in
      which nothing is lost completes the handshake.
    * Whichever copy of an answer establishes the opening end, at that moment
      each end expects the byte that the other holds as its oldest, whatever
      the answering end has written and sent, unless it was told of an end and
      gave up its stream.
    * It was not told of one unless somebody else announced it. -/
theorem handshake_agrees (h : w.Reachable σ) {e : Endpoint} (he : σ.ends .opening = some e)
    (hasked : e.connection.phase = .synSent) :
    (∀ p, σ.ends .answering = some p → p.connection.phase.state = .established →
      p.connection.confirmed = false → ∀ now₁ now₂ now₃ now₄,
      ∃ syn synAck ack c₁ c₂ p₁ p₂,
        Leg w .opening now₁ e.connection (.timer (.retransmitSyn e.connection.sender.isn)) c₁ syn ∧
        Leg w .answering now₂ p.connection (.segment syn) p₁ synAck ∧
        Leg w .opening now₃ c₁ (.segment synAck) c₂ ack ∧
        p₁.respond (w.context .answering now₄) (.segment ack) = .ok (p₂, []) ∧ w.Agreed c₂ p₂) ∧
    (∀ now parcel c effects r, parcel ∈ σ.sent .answering →
      e.connection.respond (w.context .opening now) (.segment parcel.segment) = .ok (c, effects) →
      c.phase = .established r →
      ∃ p r', σ.ends .answering = some p ∧ p.connection.phase.receiver? = some r' ∧
        r'.rcvNxt = c.sender.sndUna ∧
        (p.connection.peerClosed = false → r.rcvNxt = p.connection.sender.sndUna)) ∧
    (w.Genuine σ → ∀ p, σ.ends .answering = some p → p.connection.peerClosed = false) := by
  have hcoherent := coherent_of_reachable h
  refine ⟨?_, ?_, fun hgenuine p hp => hgenuine.peerOpen he hasked hp⟩
  · intro p hp hstate hconfirmed now₁ now₂ now₃ now₄
    obtain ⟨r, hphase⟩ := Phase.eq_established_of_state hstate
    exact completes_of_asked h he hp hasked hphase hconfirmed now₁ now₂ now₃ now₄
  · intro now parcel c effects r hmem hrespond hafter
    obtain ⟨p, hp⟩ : ∃ p, σ.ends .answering = some p := by
      cases hp : σ.ends .answering with
      | some p => exact ⟨p, rfl⟩
      | none =>
        rw [(introduced_of_reachable h).unspawned hp] at hmem
        cases hmem
    obtain ⟨hsndUna, hrcvNxt, hunacked⟩ := numbers_of_asked h he hp hasked
    have hfits := hcoherent.fits .answering parcel hmem
    have hopening := hcoherent.valid .opening e he
    -- The opening end has nothing acknowledged, so nothing is opposite to it.
    have hfacing : ¬ e.connection.Opposite (.segment parcel.segment) := by
      rintro ⟨hkind, hopposite⟩
      have hposition := (((paced_of_reachable h).bounded .answering parcel hmem).tells
        (Or.inl hkind)).1
      rw [accepted_of_asked h he hasked, Nat.le_zero] at hposition
      rw [hsndUna, (hfits.ack hkind).1, hposition] at hopposite
      exact absurd (steps_self _ ▸ hopposite) (by decide)
    have hmoved := Connection.moved_of_respond hopening.sound hfacing hrespond
    obtain ⟨hkind, hsame, peerIsn, hpayload, rfl⟩ := hmoved.opened_of_asked hasked hafter
    obtain ⟨r', hr'⟩ := (introduced_of_reachable h).receives p hp
    refine ⟨p, r', hp, hr', ?_, ?_⟩
    · rw [hrcvNxt r' hr', hsame]
      exact hsndUna.symm
    · intro hopen
      rw [hunacked hopen]
      rcases (hfits.ack hkind).2 with hnil | hisn
      · rw [hnil] at hpayload
        cases hpayload
      · rw [Wire.bytesOf32_inj (hpayload.symm.trans hisn)]
        rfl

/-- In the small session the answer is lost, and the answering end writes three
    bytes and sends them all the same. One round completes the handshake, and
    the opening end expects the first of the three. -/
theorem small_handshake_agrees : ∃ σ e p, small.Reachable σ ∧ σ.ends .opening = some e ∧
    e.connection.phase = .synSent ∧ σ.ends .answering = some p ∧
    p.connection.phase.state = .established ∧ p.connection.confirmed = false ∧
    p.connection.sender.isIdle = false ∧
    ∃ syn synAck ack c₁ c₂ p₁ p₂,
      Leg small .opening .zero e.connection (.timer (.retransmitSyn 4_294_967_294)) c₁ syn ∧
      Leg small .answering .zero p.connection (.segment syn) p₁ synAck ∧
      Leg small .opening .zero c₁ (.segment synAck) c₂ ack ∧
      p₁.respond (small.context .answering .zero) (.segment ack) = .ok (p₂, []) ∧
      small.Agreed c₂ p₂ := by
  let syn : Segment := ⟨5000, 80, .syn, 4, 4_294_967_294, []⟩
  have asked := Reachable.start (w := small) .zero
  have spawned := asked.step (.spawn .zero ⟨syn, 0⟩ rfl (by decide +kernel) rfl)
  have wrote := spawned.step (.respond .answering .zero (.write [7, 8, 9]) rfl trivial rfl)
  have hround := (handshake_agrees wrote (rfl : State.ends _ .opening = _) rfl).1 _ rfl
    (by decide +kernel) (by decide +kernel) .zero .zero .zero .zero
  exact ⟨_, _, _, wrote, rfl, rfl, rfl, by decide +kernel, by decide +kernel, by decide +kernel,
    hround⟩

end Session

end ReliableStream
