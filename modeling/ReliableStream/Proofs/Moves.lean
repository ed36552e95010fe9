import ReliableStream.Proofs.Responses
/-! # The moves of a connection

    A connection whose sender is **sound** responds in one of its moves, given
    by the relation `Moved`: every flight is a launch, every acknowledgment is
    accounted for, and nothing is left unsent that could be sent. Every
    invariant of sound connections is a case analysis of this relation. -/

namespace ReliableStream

open Sequence

namespace Connection

/-- A timer came back too late: what it was armed for is not pending. -/
def Stale (c : Connection) : TimerEvent → Prop
  | .retransmitSyn isn => c.phase = .synSent → c.sender.isn ≠ isn
  | .retransmitSynAck ack =>
    ∀ r, c.phase.openReceiver? = some r → c.confirmed = true ∨ r.rcvNxt ≠ ack
  | .shutdownCheck finSeq => ∀ r, c.phase ≠ .shutdown r finSeq
  | .windowTimeout generation =>
    c.phase.openReceiver? = none ∨ generation ≠ c.sender.generation ∨ c.sender.isIdle = true

/-- A stimulus that a connection may leave without an answer. A plain
    acknowledgment is never left so while the connection is open. -/
def Moot (c : Connection) : Stimulus → Prop
  | .write _ => ∀ r, c.phase ≠ .established r
  | .read _ => c.phase.receiver? = none
  | .close => ∀ r, c.phase ≠ .established r
  | .segment s => s.kind = .ack → s.payload = [] → c.phase.openReceiver? = none
  | .timer event => c.Stale event

/-- What a connection can do in answer to a stimulus. -/
inductive Moved (ctx : Context) (c : Connection) : Stimulus → Connection → List Effect → Prop where
  | ignored {stimulus : Stimulus} (hmoot : c.Moot stimulus) : Moved ctx c stimulus c []
  /-- A window under way picks up what was written, or nothing was. -/
  | wrote {bytes : List UInt8} {r : Receiver} (hphase : c.phase = .established r)
      (hrest : ¬ (c.sender.write bytes).2.Stalled) :
      Moved ctx c (.write bytes) { c with sender := (c.sender.write bytes).2 } []
  | wroteSent {bytes : List UInt8} {r : Receiver} {flight : Flight} {sender : Sender}
      {stats : Stats} {effects : List Effect} (hphase : c.phase = .established r)
      (hidle : (c.sender.write bytes).2.isIdle = true)
      (hlaunch : (c.sender.write bytes).2.Launch flight sender)
      (htimers : timersOf effects = [⟨ctx.id, .windowTimeout sender.generation⟩])
      (hsent : ∀ s ∈ segmentsOf effects, s ∈ flight.segments) :
      Moved ctx c (.write bytes) { c with sender, stats } effects
  | read {count : Nat} {r : Receiver} (hreceiver : c.phase.receiver? = some r) :
      Moved ctx c (.read count) { c with phase := c.phase.withReceiver (r.read count).2 } []
  | closing {r : Receiver} (hphase : c.phase = .established r) :
      Moved ctx c .close { c with phase := .shutdown r c.sender.endSeq }
        [ctx.arm ctx.profile.timers.shutdownCheck (.shutdownCheck c.sender.endSeq)]
  /-- The answer to the own request arrived. -/
  | opened {s : Segment} {peerIsn : UInt32} {stats : Stats} {effects : List Effect}
      (hphase : c.phase = .synSent) (hkind : s.kind = .ack)
      (hseq : s.seq = advance c.sender.isn 1) (hpayload : s.payload = Wire.bytesOf32 peerIsn)
      (htimers : timersOf effects = [])
      (hsent : ∀ s' ∈ segmentsOf effects, s' = c.ack (.create ctx.profile.shape peerIsn)) :
      Moved ctx c (.segment s)
        { c with
          sender := c.sender.withReceiverWindow s.window
          phase := .established (.create ctx.profile.shape peerIsn)
          confirmed := true
          stats }
        effects
  /-- A part of the handshake arrived once more. -/
  | answered {s : Segment} {r : Receiver} {stats : Stats} {effects : List Effect}
      (hopen : c.phase.openReceiver? = some r) (hcarrier : s.kind = .ack → s.payload ≠ [])
      (htimers : timersOf effects = [])
      (hsent : ∀ s' ∈ segmentsOf effects, s' = c.ack r ∨ s' = c.synAck r) :
      Moved ctx c (.segment s) { c with stats } effects
  | data {s : Segment} {r : Receiver} {stats : Stats} {effects : List Effect}
      (hopen : c.phase.openReceiver? = some r) (hkind : s.kind = .data)
      (htimers : timersOf effects = [])
      (hsent : ∀ s' ∈ segmentsOf effects, s' = c.ack (r.onSegment s).2) :
      Moved ctx c (.segment s)
        { c with phase := c.phase.withReceiver (r.onSegment s).2, confirmed := true, stats } effects
  /-- The first acknowledgment of a spawned connection acknowledged nothing
      but the handshake. -/
  | confirmed {s : Segment} {r : Receiver} (hopen : c.phase.openReceiver? = some r)
      (hkind : s.kind = .ack) (hseq : s.seq = c.sender.sndUna) :
      Moved ctx c (.segment s)
        { c with sender := c.sender.withReceiverWindow s.window, confirmed := true } []
  | acked {s : Segment} {r : Receiver} {outcome : AckOutcome} {sender : Sender} {stats : Stats}
      (hopen : c.phase.openReceiver? = some r) (hkind : s.kind = .ack) (hpayload : s.payload = [])
      (hacked : c.sender.Acked s.seq s.window outcome sender)
      (hrest : ¬ c.sender.Stalled → ¬ sender.Stalled) :
      Moved ctx c (.segment s) { c with sender, confirmed := true, stats } []
  /-- The acknowledgment completed a window, and the next one was sent. -/
  | ackedSent {s : Segment} {r : Receiver} {outcome : AckOutcome} {freed sender : Sender}
      {flight : Flight} {stats : Stats} {effects : List Effect}
      (hopen : c.phase.openReceiver? = some r) (hkind : s.kind = .ack) (hpayload : s.payload = [])
      (hacked : c.sender.Acked s.seq s.window outcome freed) (hidle : freed.isIdle = true)
      (hlaunch : freed.Launch flight sender)
      (htimers : timersOf effects = [⟨ctx.id, .windowTimeout sender.generation⟩])
      (hsent : ∀ s' ∈ segmentsOf effects, s' ∈ flight.segments) :
      Moved ctx c (.segment s) { c with sender, confirmed := true, stats } effects
  | ended {s : Segment} {r : Receiver} (hopen : c.phase.openReceiver? = some r)
      (hkind : s.kind = .fin) :
      Moved ctx c (.segment s)
        { c with
          sender := c.sender.abandon
          phase := .shutdown r c.sender.abandon.sndUna
          peerClosed := true
          confirmed := true }
        [ctx.arm ctx.profile.timers.shutdownCheck (.shutdownCheck c.sender.abandon.sndUna)]
  | refused {s : Segment} (hphase : c.phase = .synSent) (hkind : s.kind = .fin) :
      Moved ctx c (.segment s) { c with phase := .closed none, peerClosed := true } []
  | requested {stats : Stats} {effects : List Effect} (hphase : c.phase = .synSent)
      (htimers : timersOf effects = [⟨ctx.id, .retransmitSyn c.sender.isn⟩])
      (hsent : ∀ s ∈ segmentsOf effects, s = c.syn) :
      Moved ctx c (.timer (.retransmitSyn c.sender.isn)) { c with stats } effects
  | granted {r : Receiver} {stats : Stats} {effects : List Effect}
      (hopen : c.phase.openReceiver? = some r) (hconfirmed : c.confirmed = false)
      (htimers : timersOf effects = [⟨ctx.id, .retransmitSynAck r.rcvNxt⟩])
      (hsent : ∀ s ∈ segmentsOf effects, s = c.synAck r) :
      Moved ctx c (.timer (.retransmitSynAck r.rcvNxt)) { c with stats } effects
  | waited {r : Receiver} {finSeq : UInt32} (hphase : c.phase = .shutdown r finSeq) :
      Moved ctx c (.timer (.shutdownCheck finSeq)) c
        [ctx.arm ctx.profile.timers.shutdownCheck (.shutdownCheck finSeq)]
  | finished {r : Receiver} {finSeq : UInt32} {stats : Stats} {effects : List Effect}
      (hphase : c.phase = .shutdown r finSeq) (hdrained : c.sender.isDrained = true)
      (hend : c.sender.sndUna = finSeq) (htimers : timersOf effects = [])
      (hsent : ∀ s ∈ segmentsOf effects, s = c.fin finSeq) :
      Moved ctx c (.timer (.shutdownCheck finSeq)) { c with phase := .closed (some r), stats }
        effects
  | repeated {r : Receiver} {flight : Flight} {sender : Sender} {stats : Stats}
      {effects : List Effect} (hopen : c.phase.openReceiver? = some r)
      (hbusy : c.sender.isIdle = false) (hlaunch : c.sender.Launch flight sender)
      (htimers : timersOf effects = [⟨ctx.id, .windowTimeout sender.generation⟩])
      (hsent : ∀ s ∈ segmentsOf effects, s ∈ flight.segments) :
      Moved ctx c (.timer (.windowTimeout c.sender.generation)) { c with sender, stats } effects

/-! ### Opening -/

theorem eq_of_request {ctx : Context} {identity : Identity} {c : Connection}
    {effects : List Effect} (h : request ctx identity = (c, effects)) :
    (∃ stats, c = { asking ctx identity with stats }) ∧
      timersOf effects = [⟨ctx.id, .retransmitSyn ctx.profile.initialSeq⟩] ∧
      ∀ s ∈ segmentsOf effects, s = (asking ctx identity).syn := by
  obtain ⟨stats, -, hrequest⟩ := request_eq ctx identity
  rw [h] at hrequest
  cases hrequest
  exact ⟨⟨stats, rfl⟩, timersOf_sends_arm _ _ _, fun s hs => eq_of_mem_sends_arm hs⟩

theorem eq_of_answer {ctx : Context} {identity : Identity} {request : Segment} {c : Connection}
    {effects : List Effect} (h : answer ctx identity request = (c, effects)) :
    (∃ stats, c = { answering ctx identity request with stats }) ∧
      timersOf effects = [⟨ctx.id, .retransmitSynAck (advance request.seq 1)⟩] ∧
      ∀ s ∈ segmentsOf effects,
        s = (answering ctx identity request).synAck (.create ctx.profile.shape request.seq) := by
  obtain ⟨stats, -, hanswer⟩ := answer_eq ctx identity request
  rw [h] at hanswer
  cases hanswer
  exact ⟨⟨stats, rfl⟩, timersOf_sends_arm _ _ _, fun s hs => eq_of_mem_sends_arm hs⟩

/-! ### Responses of a connection with a sound sender -/

variable {ctx : Context} {c : Connection}

/-- An acknowledgment from exactly the opposite side of the turn has no
    place: it is neither before nor behind the sender. -/
def Opposite (c : Connection) : Stimulus → Prop
  | .segment s => s.kind = .ack ∧ steps c.sender.sndUna s.seq = 2_147_483_648
  | _ => False

/-- A sound sender that stalls has a window to send. -/
theorem not_stalled_of_window? {s : Sender} (h : s.Sound)
    (hrest : s.Stalled → c.window? ctx s = none) : ¬ s.Stalled := by
  intro hstalled
  obtain ⟨flight, sender, hwindow⟩ := h.exists_nextWindow? hstalled.2 c.identity.localPort
    c.identity.remotePort ctx.now
  have hnone := hrest hstalled
  unfold window? at hnone
  rw [hwindow] at hnone
  cases hnone

theorem moot_of_unmoved {stimulus : Stimulus} (h : c.sender.Sound)
    (hunmoved : c.Unmoved ctx stimulus) : c.Moot stimulus := by
  cases stimulus with
  | timer event =>
    cases event with
    | windowTimeout generation =>
      exact Or.imp_right (h.onWindowTimeout?_eq_none_iff generation _ _ _).mp hunmoved
    | _ => exact hunmoved
  | _ => exact hunmoved

/-- **Every answer of a connection with a sound sender is one of its moves.** -/
theorem moved_of_respond {stimulus : Stimulus} {c' : Connection} {effects : List Effect}
    (h : c.sender.Sound) (hfacing : ¬ c.Opposite stimulus)
    (e : c.respond ctx stimulus = .ok (c', effects)) : c.Moved ctx stimulus c' effects := by
  have hacked : ∀ {s outcome sender}, stimulus = .segment s → s.kind = .ack →
      c.sender.onAck s.seq s.window ctx.now = .ok (outcome, sender) →
      c.sender.Acked s.seq s.window outcome sender := by
    rintro s outcome sender rfl hkind hack
    exact Sender.acked_of_onAck h (fun heq => hfacing ⟨hkind, heq⟩) hack
  cases responds_of_respond e with
  | ignored hunmoved => exact .ignored (moot_of_unmoved h hunmoved)
  | wrote hphase hrest => exact .wrote hphase (not_stalled_of_window? (h.write _) hrest)
  | wroteSent hphase hidle hwindow =>
    have hlaunch := (h.write _).launch_of_nextWindow? hwindow
    exact .wroteSent hphase hidle hlaunch
      ((timersOf_flies ctx c _).trans (by rw [hlaunch.flight_generation]))
      fun s hs => mem_of_mem_flies hs
  | read hreceiver => exact .read hreceiver
  | closing hphase => exact .closing hphase
  | opened hphase hkind hseq hpayload =>
    exact .opened hphase hkind hseq hpayload (timersOf_sends ..) fun s hs =>
      eq_of_mem_sends hs
  | regranted hopen hkind =>
    exact .answered hopen (fun hack => absurd hack (by rw [hkind]; decide)) (timersOf_sends ..)
      fun s hs => Or.inr (eq_of_mem_sends hs)
  | reconfirmed hopen hkind hpayload =>
    exact .answered hopen (fun _ => hpayload) (timersOf_sends ..)
      fun s hs => Or.inl (eq_of_mem_sends hs)
  | data hopen hkind =>
    exact .data hopen hkind (timersOf_sends ..) fun s hs => eq_of_mem_sends hs
  | dropped hopen hkind =>
    exact .data hopen hkind rfl fun s hs => absurd hs List.not_mem_nil
  | confirmed hopen hkind _ hseq => exact .confirmed hopen hkind hseq
  | @acked s r outcome sender stats hopen hkind hpayload hack hrest =>
    have hacked := hacked rfl hkind hack
    refine .acked hopen hkind hpayload hacked ?_
    cases hacked with
    | duplicate => exact fun hrest => hrest
    | ignored => exact fun hrest => hrest
    | advanced =>
      have hacked := Sender.acked_of_onAck h (fun heq => hfacing ⟨hkind, heq⟩) hack
      refine fun _ => not_stalled_of_window? (h.acked hacked) fun hstalled =>
        hrest (steps c.sender.sndUna s.seq) ?_ hstalled.2
      rw [h.windowComplete hacked, hstalled.1]
  | ackedSent hopen hkind hpayload hack hwindow =>
    have hacked := hacked rfl hkind hack
    have hlaunch := (h.acked hacked).launch_of_nextWindow? hwindow
    exact .ackedSent hopen hkind hpayload hacked (h.windowComplete hacked).symm hlaunch
      ((timersOf_flies ctx c _).trans (by rw [hlaunch.flight_generation]))
      fun s hs => mem_of_mem_flies hs
  | ended hopen hkind => exact .ended hopen hkind
  | refused hphase hkind => exact .refused hphase hkind
  | requested hphase =>
    exact .requested hphase (timersOf_sends_arm _ _ _)
      fun s hs => eq_of_mem_sends_arm hs
  | granted hopen hconfirmed =>
    exact .granted hopen hconfirmed (timersOf_sends_arm _ _ _)
      fun s hs => eq_of_mem_sends_arm hs
  | waited hphase => exact .waited hphase
  | finished hphase hdrained hend =>
    exact .finished hphase hdrained hend (timersOf_sends ..) fun s hs => eq_of_mem_sends hs
  | @repeated r generation flight sender stats hopen hoverdue =>
    have hlaunch := h.launch_of_onWindowTimeout? hoverdue
    have hlive : ¬ (generation ≠ c.sender.generation ∨ c.sender.isIdle = true) := fun hstale => by
      unfold overdue? at hoverdue
      rw [(h.onWindowTimeout?_eq_none_iff generation _ _ _).mpr hstale] at hoverdue
      cases hoverdue
    obtain ⟨hgeneration, hbusy⟩ := not_or.mp hlive
    obtain rfl : generation = c.sender.generation := Decidable.not_not.mp hgeneration
    exact .repeated hopen (Bool.not_eq_true _ ▸ hbusy) hlaunch
      ((timersOf_flies ctx c _).trans (by rw [hlaunch.flight_generation]))
      fun s hs => mem_of_mem_flies hs

/-- A move keeps the sender sound. -/
theorem Moved.sound {stimulus : Stimulus} {c' : Connection} {effects : List Effect}
    (hmoved : c.Moved ctx stimulus c' effects) (h : c.sender.Sound) : c'.sender.Sound := by
  cases hmoved with
  | wrote => exact h.write _
  | wroteSent _ _ hlaunch => exact hlaunch.sound
  | opened => exact h.withReceiverWindow _
  | confirmed => exact h.withReceiverWindow _
  | acked _ _ _ hacked => exact h.acked hacked
  | ackedSent _ _ _ _ _ hlaunch => exact hlaunch.sound
  | ended => exact h.abandon.1
  | repeated _ _ hlaunch => exact hlaunch.sound
  | _ => exact h

/-- The initial number of a connection never changes. -/
theorem Moved.isn {stimulus : Stimulus} {c' : Connection} {effects : List Effect}
    (hmoved : c.Moved ctx stimulus c' effects) : c'.sender.isn = c.sender.isn := by
  cases hmoved with
  | wroteSent _ _ hlaunch => exact hlaunch.isn
  | acked _ _ _ hacked => exact hacked.isn
  | ackedSent _ _ _ hacked _ hlaunch => exact hlaunch.isn.trans hacked.isn
  | repeated _ _ hlaunch => exact hlaunch.isn
  | _ => rfl

end Connection

end ReliableStream
