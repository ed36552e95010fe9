import ReliableStream.Proofs.Moves
/-! # What a connection waits for

    No timer can be called off, and none is repeated by itself: whoever needs
    a reminder has to arm it. A connection **awaits** a timer if nothing else
    would make it go on. Whatever a connection awaits after a move, it awaited
    before and did not just get back, or the move armed it. -/

namespace ReliableStream

open Sequence

namespace Phase

/-- Another receiver leaves a phase as open as it was. -/
theorem openReceiver?_withReceiver (p : Phase) (r : Receiver) :
    (p.withReceiver r).openReceiver? = p.openReceiver?.map fun _ => r := by
  cases p with
  | closed r => cases r <;> rfl
  | _ => rfl

theorem state_withReceiver (p : Phase) (r : Receiver) : (p.withReceiver r).state = p.state := by
  cases p with
  | closed r => cases r <;> rfl
  | _ => rfl

theorem eq_synSent_of_withReceiver {p : Phase} {r : Receiver} (h : p.withReceiver r = .synSent) :
    p = .synSent := by
  cases p with
  | synSent => rfl
  | established => cases h
  | shutdown => cases h
  | closed r => cases r <;> cases h

theorem eq_shutdown_of_withReceiver {p : Phase} {r r' : Receiver} {finSeq : UInt32}
    (h : p.withReceiver r = .shutdown r' finSeq) : ∃ before, p = .shutdown before finSeq := by
  cases p with
  | synSent => cases h
  | established => cases h
  | shutdown before _ =>
    cases h
    exact ⟨before, rfl⟩
  | closed r => cases r <;> cases h

end Phase

namespace Sender

variable {s s' : Sender} {ack window : UInt32} {outcome : AckOutcome}

/-- A sender with nothing left has nothing under way. -/
theorem Sound.isIdle_of_isDrained (h : s.Sound) (hdrained : s.isDrained = true) :
    s.isIdle = true := by
  cases hidle : s.isIdle with
  | true => rfl
  | false =>
    rw [h.not_drained_of_busy hidle] at hdrained
    cases hdrained

theorem not_stalled_of_busy (h : s.isIdle = false) : ¬ s.Stalled := by
  rintro ⟨hidle, -⟩
  rw [h] at hidle
  cases hidle

theorem not_stalled_of_isDrained (h : s.isDrained = true) : ¬ s.Stalled := by
  rintro ⟨-, hleft⟩
  rw [h] at hleft
  cases hleft

theorem Acked.generation (h : s.Acked ack window outcome s') : s'.generation = s.generation := by
  cases h <;> rfl

/-- An acknowledgment leaves nothing where nothing was left. -/
theorem Acked.isDrained (h : s.Acked ack window outcome s') (hsound : s.Sound)
    (hdrained : s.isDrained = true) : s'.isDrained = true := by
  rw [isDrained_iff] at hdrained ⊢
  cases h with
  | duplicate => exact hdrained
  | ignored => exact hdrained
  | advanced roundTrip probe hle =>
    show (s.buffer.release ack).2.used = 0
    have hused : s.buffer.used = 0 := hdrained
    rw [StreamBuffer.used_release _ (by rw [hsound.base]; exact Nat.le_trans hle hsound.sent_le),
      hused, Nat.zero_sub]

end Sender

namespace Connection

variable {ctx : Context} {c c' : Connection} {stimulus : Stimulus} {effects : List Effect}

/-- The connection can go on: what is left to send is under way, and what is
    not open has nothing left. -/
structure Steady (c : Connection) : Prop where
  sound : c.sender.Sound
  moving : ¬ c.sender.Stalled
  parked : c.phase.openReceiver? = none → c.sender.isDrained = true

/-- A new sender has nothing left. -/
theorem isDrained_create (shape : BufferShape) (timers : Timers) (isn rwnd : UInt32) :
    (Sender.create shape timers isn rwnd).isDrained = true := by
  rw [Sender.isDrained_iff]
  show (StreamBuffer.create shape _ _).used = 0
  rw [← StreamBuffer.contents_eq_nil_iff, StreamBuffer.contents_create]

/-- A connection with a new sender can go on. -/
theorem steady_of_create {ctx : Context} {isn rwnd : UInt32}
    (h : ctx.profile.shape.capacity ≤ 2_147_483_648)
    (hsender : c.sender = .create ctx.profile.shape ctx.profile.timers isn rwnd) : c.Steady where
  sound := by
    rw [hsender]
    exact Sender.sound_create h _ _ _
  moving := by
    rw [hsender]
    exact Sender.not_stalled_of_isDrained (isDrained_create _ _ _ _)
  parked := by
    intro _
    rw [hsender]
    exact isDrained_create _ _ _ _

theorem steady_of_request {identity : Identity} (h : ctx.profile.shape.capacity ≤ 2_147_483_648)
    (hopened : request ctx identity = (c, effects)) : c.Steady := by
  obtain ⟨⟨stats, rfl⟩, -, -⟩ := eq_of_request hopened
  exact steady_of_create h rfl

theorem steady_of_answer {identity : Identity} {request : Segment}
    (h : ctx.profile.shape.capacity ≤ 2_147_483_648)
    (hopened : answer ctx identity request = (c, effects)) : c.Steady := by
  obtain ⟨⟨stats, rfl⟩, -, -⟩ := eq_of_answer hopened
  exact steady_of_create h rfl

theorem Moved.moving (hmoved : c.Moved ctx stimulus c' effects) (h : c.Steady) :
    ¬ c'.sender.Stalled := by
  cases hmoved with
  | wrote _ hrest => exact hrest
  | wroteSent _ _ hlaunch => exact Sender.not_stalled_of_busy hlaunch.busy
  | acked _ _ _ _ hrest => exact hrest h.moving
  | ackedSent _ _ _ _ _ hlaunch => exact Sender.not_stalled_of_busy hlaunch.busy
  | ended => exact Sender.not_stalled_of_isDrained h.sound.abandon.2.1
  | repeated _ _ hlaunch => exact Sender.not_stalled_of_busy hlaunch.busy
  | _ => exact h.moving

theorem Moved.parked (hmoved : c.Moved ctx stimulus c' effects) (h : c.Steady)
    (hclosed : c'.phase.openReceiver? = none) : c'.sender.isDrained = true := by
  -- Most moves need an open connection and leave it open.
  have hopened : ∀ {p : Phase} {r : Receiver}, p.openReceiver? = some r → p.openReceiver? ≠ none :=
    fun hopen => by rw [hopen]; exact Option.some_ne_none _
  cases hmoved with
  | ignored => exact h.parked hclosed
  | read =>
    rw [Phase.openReceiver?_withReceiver, Option.map_eq_none_iff] at hclosed
    exact h.parked hclosed
  | wrote hphase => exact absurd hclosed (hopened (by rw [hphase]; rfl))
  | wroteSent hphase => exact absurd hclosed (hopened (by rw [hphase]; rfl))
  | closing => cases hclosed
  | opened => cases hclosed
  | answered hopen => exact absurd hclosed (hopened hopen)
  | data hopen =>
    rw [Phase.openReceiver?_withReceiver, Option.map_eq_none_iff] at hclosed
    exact absurd hclosed (hopened hopen)
  | confirmed hopen => exact absurd hclosed (hopened hopen)
  | acked hopen => exact absurd hclosed (hopened hopen)
  | ackedSent hopen => exact absurd hclosed (hopened hopen)
  | ended => cases hclosed
  | refused hphase => exact h.parked (by rw [hphase]; rfl)
  | requested => exact h.parked hclosed
  | granted hopen => exact absurd hclosed (hopened hopen)
  | waited hphase => exact h.parked hclosed
  | finished _ hdrained => exact hdrained
  | repeated hopen => exact absurd hclosed (hopened hopen)

theorem Moved.steady (hmoved : c.Moved ctx stimulus c' effects) (h : c.Steady) : c'.Steady where
  sound := hmoved.sound h.sound
  moving := hmoved.moving h
  parked := hmoved.parked h

/-! ### Timers -/

/-- What the connection is to be reminded of. -/
inductive Awaits (c : Connection) : TimerEvent → Prop where
  | request (hphase : c.phase = .synSent) : Awaits c (.retransmitSyn c.sender.isn)
  | answer {r : Receiver} (hopen : c.phase.openReceiver? = some r)
      (hconfirmed : c.confirmed = false) : Awaits c (.retransmitSynAck r.rcvNxt)
  | shutdown {r : Receiver} {finSeq : UInt32} (hphase : c.phase = .shutdown r finSeq) :
      Awaits c (.shutdownCheck finSeq)
  | window (hleft : c.sender.isDrained = false) : Awaits c (.windowTimeout c.sender.generation)

/-- A timer that is awaited is never stale. -/
theorem not_stale_of_awaits {event : TimerEvent} (h : c.Steady) (hawaits : c.Awaits event) :
    ¬ c.Stale event := by
  intro hstale
  cases hawaits with
  | request hphase => exact hstale hphase rfl
  | answer hopen hconfirmed =>
    rcases hstale _ hopen with hyes | hne
    · rw [hconfirmed] at hyes
      cases hyes
    · exact hne rfl
  | shutdown hphase => exact hstale _ hphase
  | window hleft =>
    rcases hstale with hclosed | hne | hidle
    · rw [h.parked hclosed] at hleft
      cases hleft
    · exact hne rfl
    · exact h.moving ⟨hidle, hleft⟩

/-- In the same phase, nothing but the window can be awaited anew. -/
theorem awaits_of_phase_eq {event : TimerEvent} (hawaits : c'.Awaits event)
    (hphase : c'.phase = c.phase) (hconfirmed : c'.confirmed = false → c.confirmed = false)
    (hisn : c'.sender.isn = c.sender.isn) :
    c.Awaits event ∧ (∀ generation, event ≠ .windowTimeout generation) ∨
      event = .windowTimeout c'.sender.generation ∧ c'.sender.isDrained = false := by
  cases hawaits with
  | request hsyn =>
    left
    rw [hisn]
    exact ⟨.request (hphase.symm.trans hsyn), nofun⟩
  | answer hopen hunconfirmed =>
    rw [hphase] at hopen
    exact Or.inl ⟨.answer hopen (hconfirmed hunconfirmed), nofun⟩
  | shutdown hshutdown => exact Or.inl ⟨.shutdown (hphase.symm.trans hshutdown), nofun⟩
  | window hleft => exact Or.inr ⟨rfl, hleft⟩

/-- In the same phase and generation, nothing is awaited anew unless bytes are
    left where none were. -/
theorem awaits_of_generation_eq {event : TimerEvent} (hawaits : c'.Awaits event)
    (hphase : c'.phase = c.phase) (hconfirmed : c'.confirmed = false → c.confirmed = false)
    (hisn : c'.sender.isn = c.sender.isn) (hgeneration : c'.sender.generation = c.sender.generation)
    (hdrained : c.sender.isDrained = true → c'.sender.isDrained = true) : c.Awaits event := by
  rcases awaits_of_phase_eq hawaits hphase hconfirmed hisn with ⟨hbefore, -⟩ | ⟨rfl, hleft⟩
  · exact hbefore
  · rw [hgeneration]
    refine .window ?_
    rw [← Bool.not_eq_true] at hleft ⊢
    exact fun h => hleft (hdrained h)

/-- With another receiver nothing is awaited anew, if the receiver expects the
    same or the handshake is over. -/
theorem awaits_of_withReceiver {event : TimerEvent} {r' : Receiver} (hawaits : c'.Awaits event)
    (hphase : c'.phase = c.phase.withReceiver r') (hsender : c'.sender = c.sender)
    (hanswer : c'.confirmed = false → c.confirmed = false ∧
      ∀ r, c.phase.openReceiver? = some r → r'.rcvNxt = r.rcvNxt) : c.Awaits event := by
  cases hawaits with
  | request hsyn =>
    rw [hsender]
    exact .request (Phase.eq_synSent_of_withReceiver (hphase.symm.trans hsyn))
  | answer hopen hconfirmed =>
    rw [hphase, Phase.openReceiver?_withReceiver, Option.map_eq_some_iff] at hopen
    obtain ⟨r, hbefore, rfl⟩ := hopen
    obtain ⟨hunconfirmed, hnext⟩ := hanswer hconfirmed
    rw [hnext r hbefore]
    exact .answer hbefore hunconfirmed
  | shutdown hshutdown =>
    obtain ⟨before, hbefore⟩ := Phase.eq_shutdown_of_withReceiver (hphase.symm.trans hshutdown)
    exact .shutdown hbefore
  | window hleft =>
    rw [hsender] at hleft ⊢
    exact .window hleft

/-- A launch arms the window timer that is awaited after it. -/
theorem awaits_of_launch {event : TimerEvent}
    (hawaits : c'.Awaits event) (hphase : c'.phase = c.phase)
    (hconfirmed : c'.confirmed = false → c.confirmed = false) (hisn : c'.sender.isn = c.sender.isn)
    (htimers : timersOf effects = [⟨ctx.id, .windowTimeout c'.sender.generation⟩])
    (hstimulus : ∀ event, stimulus = .timer event →
      ∃ generation, event = .windowTimeout generation) :
    c.Awaits event ∧ stimulus ≠ .timer event ∨ ⟨ctx.id, event⟩ ∈ timersOf effects := by
  rcases awaits_of_phase_eq hawaits hphase hconfirmed hisn with ⟨hbefore, hother⟩ | ⟨rfl, -⟩
  · refine Or.inl ⟨hbefore, fun heq => ?_⟩
    obtain ⟨generation, rfl⟩ := hstimulus event heq
    exact hother generation rfl
  · right
    rw [htimers]
    exact List.mem_singleton_self _

/-- **Nothing is awaited in vain.** Whatever a connection awaits after a move,
    it awaited before and did not just get back, or the move armed it. -/
theorem Moved.awaits {event : TimerEvent} (hmoved : c.Moved ctx stimulus c' effects)
    (h : c.Steady) (hawaits : c'.Awaits event) :
    c.Awaits event ∧ stimulus ≠ .timer event ∨ ⟨ctx.id, event⟩ ∈ timersOf effects := by
  have hisn := hmoved.isn
  cases hmoved with
  | ignored hmoot =>
    refine Or.inl ⟨hawaits, ?_⟩
    rintro rfl
    exact not_stale_of_awaits h hawaits hmoot
  | wrote hphase hrest =>
    refine Or.inl ⟨awaits_of_generation_eq hawaits rfl id rfl rfl fun hdrained => ?_, nofun⟩
    -- Had nothing been left before, what is left now would stand idle.
    have hidle := h.sound.isIdle_of_isDrained hdrained
    cases hleft : (c.sender.write _).2.isDrained with
    | true => rfl
    | false => exact absurd ⟨hidle, hleft⟩ hrest
  | wroteSent _ _ _ htimers => exact awaits_of_launch hawaits rfl id hisn htimers nofun
  | read hreceiver =>
    refine Or.inl ⟨awaits_of_withReceiver hawaits rfl rfl fun hconfirmed => ⟨hconfirmed, ?_⟩, nofun⟩
    intro r hopen
    rw [Phase.receiver?_of_openReceiver? hopen] at hreceiver
    cases hreceiver
    rfl
  | closing hphase =>
    cases hawaits with
    | request hsyn => cases hsyn
    | answer hopen hconfirmed =>
      cases hopen
      exact Or.inl ⟨.answer (by rw [hphase]; rfl) hconfirmed, nofun⟩
    | shutdown hshutdown =>
      cases hshutdown
      exact Or.inr (List.mem_singleton_self _)
    | window hleft => exact Or.inl ⟨.window hleft, nofun⟩
  | opened hphase =>
    cases hawaits with
    | request hsyn => cases hsyn
    | answer _ hconfirmed => cases hconfirmed
    | shutdown hshutdown => cases hshutdown
    | window hleft => exact Or.inl ⟨.window hleft, nofun⟩
  | answered => exact Or.inl ⟨awaits_of_generation_eq hawaits rfl id rfl rfl id, nofun⟩
  | data => exact Or.inl ⟨awaits_of_withReceiver hawaits rfl rfl nofun, nofun⟩
  | confirmed =>
    exact Or.inl ⟨awaits_of_generation_eq hawaits rfl nofun rfl rfl id, nofun⟩
  | acked _ _ _ hacked =>
    exact Or.inl ⟨awaits_of_generation_eq hawaits rfl nofun hisn hacked.generation
      (hacked.isDrained h.sound), nofun⟩
  | ackedSent _ _ _ _ _ _ htimers => exact awaits_of_launch hawaits rfl nofun hisn htimers nofun
  | ended =>
    cases hawaits with
    | request hsyn => cases hsyn
    | answer _ hconfirmed => cases hconfirmed
    | shutdown hshutdown =>
      cases hshutdown
      exact Or.inr (List.mem_singleton_self _)
    | window hleft => exact absurd (h.sound.abandon.2.1.symm.trans hleft) (by decide)
  | refused hphase =>
    cases hawaits with
    | request hsyn => cases hsyn
    | answer hopen => cases hopen
    | shutdown hshutdown => cases hshutdown
    | window hleft => exact Or.inl ⟨.window hleft, nofun⟩
  | requested hphase htimers =>
    cases hawaits with
    | request =>
      right
      rw [htimers]
      exact List.mem_singleton_self _
    | answer hopen => exact absurd (hphase ▸ hopen) nofun
    | shutdown hshutdown => exact absurd (hphase.symm.trans hshutdown) nofun
    | window hleft => exact Or.inl ⟨.window hleft, nofun⟩
  | granted hopen hconfirmed htimers =>
    cases hawaits with
    | request hsyn => exact absurd (hsyn ▸ hopen) nofun
    | answer hopen' =>
      cases hopen.symm.trans hopen'
      right
      rw [htimers]
      exact List.mem_singleton_self _
    | shutdown hshutdown => exact Or.inl ⟨.shutdown hshutdown, nofun⟩
    | window hleft => exact Or.inl ⟨.window hleft, nofun⟩
  | waited hphase =>
    cases hawaits with
    | request hsyn => exact absurd (hphase.symm.trans hsyn) nofun
    | answer hopen hconfirmed => exact Or.inl ⟨.answer hopen hconfirmed, nofun⟩
    | shutdown hshutdown =>
      cases hphase.symm.trans hshutdown
      exact Or.inr (List.mem_singleton_self _)
    | window hleft => exact Or.inl ⟨.window hleft, nofun⟩
  | finished hphase hdrained =>
    cases hawaits with
    | request hsyn => cases hsyn
    | answer hopen => cases hopen
    | shutdown hshutdown => cases hshutdown
    | window hleft => exact absurd (hdrained.symm.trans hleft) (by decide)
  | repeated _ _ _ htimers =>
    refine awaits_of_launch hawaits rfl id hisn htimers fun event heq => ?_
    cases heq
    exact ⟨_, rfl⟩

/-- The timers that a move arms: none, the one that came back, or a new one. A
    new window timer has a new generation. -/
inductive Arms (ctx : Context) (c : Connection) : Stimulus → Connection → List Timer → Prop where
  | none {stimulus : Stimulus} {c' : Connection}
      (hgeneration : c'.sender.generation = c.sender.generation) : Arms ctx c stimulus c' []
  | again {event : TimerEvent} {c' : Connection}
      (hgeneration : c'.sender.generation = c.sender.generation) :
      Arms ctx c (.timer event) c' [⟨ctx.id, event⟩]
  | shutdown {stimulus : Stimulus} {c' : Connection} (finSeq : UInt32)
      (hgeneration : c'.sender.generation = c.sender.generation) :
      Arms ctx c stimulus c' [⟨ctx.id, .shutdownCheck finSeq⟩]
  | window {stimulus : Stimulus} {c' : Connection}
      (hgeneration : c'.sender.generation = c.sender.generation + 1) :
      Arms ctx c stimulus c' [⟨ctx.id, .windowTimeout c'.sender.generation⟩]

theorem Moved.arms (hmoved : c.Moved ctx stimulus c' effects) :
    c.Arms ctx stimulus c' (timersOf effects) := by
  cases hmoved with
  | wroteSent _ _ hlaunch htimers =>
    rw [htimers]
    exact .window hlaunch.generation
  | closing => exact .shutdown _ rfl
  | opened _ _ _ _ htimers =>
    rw [htimers]
    exact .none rfl
  | answered _ _ htimers =>
    rw [htimers]
    exact .none rfl
  | data _ _ htimers =>
    rw [htimers]
    exact .none rfl
  | acked _ _ _ hacked => exact .none hacked.generation
  | ackedSent _ _ _ hacked _ hlaunch htimers =>
    rw [htimers]
    exact .window (hlaunch.generation.trans (congrArg (· + 1) hacked.generation))
  | ended => exact .shutdown _ rfl
  | requested _ htimers =>
    rw [htimers]
    exact .again rfl
  | granted _ _ htimers =>
    rw [htimers]
    exact .again rfl
  | waited => exact .again rfl
  | finished _ _ _ htimers =>
    rw [htimers]
    exact .none rfl
  | repeated _ _ hlaunch htimers =>
    rw [htimers]
    exact .window hlaunch.generation
  | _ => exact .none rfl

/-- A connection arms timers for its own socket only. -/
theorem Arms.socket {timers : List Timer} (h : c.Arms ctx stimulus c' timers) :
    ∀ t ∈ timers, t.socket = ctx.id := by
  intro t ht
  cases h with
  | none => cases ht
  | again => rw [List.mem_singleton.mp ht]
  | shutdown => rw [List.mem_singleton.mp ht]
  | window => rw [List.mem_singleton.mp ht]

/-- A connection that was just asked for awaits an answer, and nothing else. -/
theorem timersOf_request {identity : Identity} {event : TimerEvent}
    (hopened : request ctx identity = (c, effects)) (hawaits : c.Awaits event) :
    timersOf effects = [⟨ctx.id, event⟩] := by
  obtain ⟨⟨stats, rfl⟩, htimers, -⟩ := eq_of_request hopened
  cases hawaits with
  | request => exact htimers
  | answer hopen => cases hopen
  | shutdown hphase => cases hphase
  | window hleft => exact absurd ((isDrained_create _ _ _ _).symm.trans hleft) (by decide)

/-- A connection that was just spawned awaits its confirmation, and nothing
    else. -/
theorem timersOf_answer {identity : Identity} {request : Segment} {event : TimerEvent}
    (hopened : answer ctx identity request = (c, effects)) (hawaits : c.Awaits event) :
    timersOf effects = [⟨ctx.id, event⟩] := by
  obtain ⟨⟨stats, rfl⟩, htimers, -⟩ := eq_of_answer hopened
  cases hawaits with
  | request hphase => cases hphase
  | answer hopen =>
    cases hopen
    exact htimers
  | shutdown hphase => cases hphase
  | window hleft => exact absurd ((isDrained_create _ _ _ _).symm.trans hleft) (by decide)

end Connection

end ReliableStream
