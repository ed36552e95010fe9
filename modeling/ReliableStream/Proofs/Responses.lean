import ReliableStream.Connection.Segments
import ReliableStream.Connection.Timers
import ReliableStream.Proofs.Effects
/-! # The responses of a connection

    A **stimulus** is whatever can happen to a connection: a call of the
    application, a segment, or a timer. How a connection can respond is said
    once, by the relation `Responds`: it has one constructor for each way a
    connection changes, and each of them names what is sent and what is armed.
    Nothing is assumed of the connection, so the relation also holds of
    segments that make no sense and of what they leave behind. The functions
    of a connection are opened here and nowhere else. -/

namespace ReliableStream

open Sequence

theorem exists_of_map_eq_ok {ε α β : Type} {f : α → β} {x : Except ε α} {b : β}
    (h : x.map f = .ok b) : ∃ a, x = .ok a ∧ f a = b := by
  cases x with
  | error e => cases h
  | ok a =>
    cases h
    exact ⟨a, rfl, rfl⟩

theorem exists_of_bind_eq_ok {ε α β : Type} {x : Except ε α} {f : α → Except ε β} {b : β}
    (h : x >>= f = .ok b) : ∃ a, x = .ok a ∧ f a = .ok b := by
  cases x with
  | error e => cases h
  | ok a => exact ⟨a, rfl, h⟩

/-- What can happen to a connection. -/
inductive Stimulus where
  | write (bytes : List UInt8)
  | read (count : Nat)
  | close
  | segment (s : Segment)
  | timer (event : TimerEvent)

/-- Nothing is under way, and yet there are bytes left. -/
def Sender.Stalled (s : Sender) : Prop := s.isIdle = true ∧ s.isDrained = false

namespace Phase

theorem receiver?_of_openReceiver? {p : Phase} {r : Receiver} (h : p.openReceiver? = some r) :
    p.receiver? = some r := by
  cases p with
  | synSent => cases h
  | established => exact h
  | shutdown => exact h
  | closed => cases h

/-- A connection that takes in segments is not closed. -/
theorem isClosed_of_openReceiver? {p : Phase} {r : Receiver} (h : p.openReceiver? = some r) :
    p.isClosed = false := by
  cases p with
  | closed => cases h
  | _ => rfl

/-- Another receiver takes the place of the one that is there. -/
theorem receiver?_withReceiver {p : Phase} {r : Receiver} (h : p.receiver? = some r)
    (r' : Receiver) : (p.withReceiver r').receiver? = some r' := by
  cases p with
  | synSent => cases h
  | established => rfl
  | shutdown => rfl
  | closed r =>
    cases r with
    | none => cases h
    | some => rfl

/-- Another receiver neither ends a connection nor brings one back. -/
theorem isClosed_withReceiver (p : Phase) (r : Receiver) :
    (p.withReceiver r).isClosed = p.isClosed := by
  cases p with
  | closed r' => cases r' <;> rfl
  | _ => rfl

end Phase

namespace Connection

/-- The answer of a connection to a stimulus. -/
def respond (ctx : Context) (c : Connection) : Stimulus → Except Fault (Connection × List Effect)
  | .write bytes => .ok (c.write ctx bytes).2
  | .read count => .ok ((c.read count).2, [])
  | .close => .ok (c.close ctx)
  | .segment s => c.onSegment ctx s
  | .timer event => .ok (c.onTimer ctx event)

/-- The window that a sender of this connection would send next. -/
def window? (ctx : Context) (c : Connection) (s : Sender) : Option (Flight × Sender) :=
  s.nextWindow? c.identity.localPort c.identity.remotePort ctx.now

/-- The window that a timer makes the connection send again. -/
def overdue? (ctx : Context) (c : Connection) (generation : Nat) : Option (Flight × Sender) :=
  c.sender.onWindowTimeout? generation c.identity.localPort c.identity.remotePort ctx.now

/-- The effects of sending a flight: its segments, and then its timer. -/
def flies (ctx : Context) (c : Connection) (flight : Flight) : List Effect :=
  ctx.sends c.identity.remoteAddr flight.segments ++
    [ctx.arm flight.timeout (.windowTimeout flight.generation)]

theorem timersOf_flies (ctx : Context) (c : Connection) (flight : Flight) :
    timersOf (c.flies ctx flight) = [⟨ctx.id, .windowTimeout flight.generation⟩] :=
  timersOf_sends_arm _ _ _

theorem mem_of_mem_flies {ctx : Context} {c : Connection} {flight : Flight} {s : Segment}
    (h : s ∈ segmentsOf (c.flies ctx flight)) : s ∈ flight.segments := by
  unfold flies at h
  rw [segmentsOf_append, segmentsOf_arm, List.append_nil] at h
  exact mem_of_mem_sends h

/-! ### Opening -/

/-- A connection that has just been asked for. -/
def asking (ctx : Context) (identity : Identity) : Connection where
  identity := identity
  origin := .opened
  sender := .create ctx.profile.shape ctx.profile.timers ctx.profile.initialSeq 0
  phase := .synSent

/-- A connection that has just been spawned for a request. -/
def answering (ctx : Context) (identity : Identity) (request : Segment) : Connection where
  identity := identity
  origin := .spawned
  sender := .create ctx.profile.shape ctx.profile.timers ctx.profile.initialSeq request.window
  phase := .established (.create ctx.profile.shape request.seq)

/-- A connection that was asked for has sent its request, and is reminded of
    it. -/
theorem request_eq (ctx : Context) (identity : Identity) :
    ∃ stats, stats.bytesAcked = 0 ∧ request ctx identity =
      ({ asking ctx identity with stats },
        ctx.sends identity.remoteAddr [(asking ctx identity).syn] ++
          [ctx.arm ctx.profile.timers.synRetransmit (.retransmitSyn ctx.profile.initialSeq)]) :=
  ⟨_, rfl, rfl⟩

/-- A connection that was spawned has sent its answer, and is reminded of it. -/
theorem answer_eq (ctx : Context) (identity : Identity) (request : Segment) :
    ∃ stats, stats.bytesAcked = 0 ∧ answer ctx identity request =
      ({ answering ctx identity request with stats },
        ctx.sends identity.remoteAddr
          [(answering ctx identity request).synAck (.create ctx.profile.shape request.seq)] ++
          [ctx.arm ctx.profile.timers.synRetransmit
            (.retransmitSynAck (advance request.seq 1))]) :=
  ⟨_, rfl, rfl⟩

/-! ### Answers to a stimulus -/

/-- A stimulus that a connection may leave without an answer. -/
def Unmoved (ctx : Context) (c : Connection) : Stimulus → Prop
  | .write _ => ∀ r, c.phase ≠ .established r
  | .read _ => c.phase.receiver? = none
  | .close => ∀ r, c.phase ≠ .established r
  | .segment s => s.kind = .ack → s.payload = [] → c.phase.openReceiver? = none
  | .timer (.retransmitSyn isn) => c.phase = .synSent → c.sender.isn ≠ isn
  | .timer (.retransmitSynAck ack) =>
    ∀ r, c.phase.openReceiver? = some r → c.confirmed = true ∨ r.rcvNxt ≠ ack
  | .timer (.shutdownCheck finSeq) => ∀ r, c.phase ≠ .shutdown r finSeq
  | .timer (.windowTimeout generation) =>
    c.phase.openReceiver? = none ∨ c.overdue? ctx generation = none

/-- How a connection can respond to a stimulus. Of what a connection counts,
    only the acknowledged bytes are kept track of. -/
inductive Responds (ctx : Context) (c : Connection) :
    Stimulus → Connection → List Effect → Prop where
  | ignored {stimulus : Stimulus} (hunmoved : c.Unmoved ctx stimulus) :
      Responds ctx c stimulus c []
  | wrote {bytes : List UInt8} {r : Receiver} (hphase : c.phase = .established r)
      (hrest : (c.sender.write bytes).2.Stalled → c.window? ctx (c.sender.write bytes).2 = none) :
      Responds ctx c (.write bytes) { c with sender := (c.sender.write bytes).2 } []
  | wroteSent {bytes : List UInt8} {r : Receiver} {flight : Flight} {sender : Sender}
      {stats : Stats} (hphase : c.phase = .established r)
      (hidle : (c.sender.write bytes).2.isIdle = true)
      (hwindow : c.window? ctx (c.sender.write bytes).2 = some (flight, sender))
      (hstats : stats.bytesAcked = c.stats.bytesAcked) :
      Responds ctx c (.write bytes) { c with sender, stats } (c.flies ctx flight)
  | read {count : Nat} {r : Receiver} (hreceiver : c.phase.receiver? = some r) :
      Responds ctx c (.read count) { c with phase := c.phase.withReceiver (r.read count).2 } []
  | closing {r : Receiver} (hphase : c.phase = .established r) :
      Responds ctx c .close { c with phase := .shutdown r c.sender.endSeq }
        [ctx.arm ctx.profile.timers.shutdownCheck (.shutdownCheck c.sender.endSeq)]
  /-- The answer to the own request arrived. -/
  | opened {s : Segment} {peerIsn : UInt32} {stats : Stats} (hphase : c.phase = .synSent)
      (hkind : s.kind = .ack) (hseq : s.seq = advance c.sender.isn 1)
      (hpayload : s.payload = Wire.bytesOf32 peerIsn)
      (hstats : stats.bytesAcked = c.stats.bytesAcked) :
      Responds ctx c (.segment s)
        { c with
          sender := c.sender.withReceiverWindow s.window
          phase := .established (.create ctx.profile.shape peerIsn)
          confirmed := true
          stats }
        (ctx.sends c.identity.remoteAddr [c.ack (.create ctx.profile.shape peerIsn)])
  /-- The request arrived once more. -/
  | regranted {s : Segment} {r : Receiver} {stats : Stats}
      (hopen : c.phase.openReceiver? = some r) (hkind : s.kind = .syn)
      (hstats : stats.bytesAcked = c.stats.bytesAcked) :
      Responds ctx c (.segment s) { c with stats }
        (ctx.sends c.identity.remoteAddr [c.synAck r])
  /-- The answer to the request arrived once more. -/
  | reconfirmed {s : Segment} {r : Receiver} {stats : Stats}
      (hopen : c.phase.openReceiver? = some r) (hkind : s.kind = .ack) (hpayload : s.payload ≠ [])
      (hstats : stats.bytesAcked = c.stats.bytesAcked) :
      Responds ctx c (.segment s) { c with stats } (ctx.sends c.identity.remoteAddr [c.ack r])
  | data {s : Segment} {r : Receiver} {stats : Stats} (hopen : c.phase.openReceiver? = some r)
      (hkind : s.kind = .data) (hstats : stats.bytesAcked = c.stats.bytesAcked) :
      Responds ctx c (.segment s)
        { c with phase := c.phase.withReceiver (r.onSegment s).2, confirmed := true, stats }
        (ctx.sends c.identity.remoteAddr [c.ack (r.onSegment s).2])
  | dropped {s : Segment} {r : Receiver} (hopen : c.phase.openReceiver? = some r)
      (hkind : s.kind = .data) :
      Responds ctx c (.segment s)
        { c with phase := c.phase.withReceiver (r.onSegment s).2, confirmed := true } []
  /-- The first acknowledgment of a spawned connection acknowledged nothing
      but the handshake. -/
  | confirmed {s : Segment} {r : Receiver} (hopen : c.phase.openReceiver? = some r)
      (hkind : s.kind = .ack) (hpayload : s.payload = []) (hseq : s.seq = c.sender.sndUna) :
      Responds ctx c (.segment s)
        { c with sender := c.sender.withReceiverWindow s.window, confirmed := true } []
  | acked {s : Segment} {r : Receiver} {outcome : AckOutcome} {sender : Sender} {stats : Stats}
      (hopen : c.phase.openReceiver? = some r) (hkind : s.kind = .ack) (hpayload : s.payload = [])
      (hack : c.sender.onAck s.seq s.window ctx.now = .ok (outcome, sender))
      (hrest : ∀ bytes, outcome = .advanced bytes true → sender.isDrained = false →
        c.window? ctx sender = none)
      (hstats : stats.bytesAcked = c.stats.bytesAcked + outcome.freed) :
      Responds ctx c (.segment s) { c with sender, confirmed := true, stats } []
  /-- The acknowledgment completed a window, and the next one was sent. -/
  | ackedSent {s : Segment} {r : Receiver} {bytes : Nat} {freed sender : Sender}
      {flight : Flight} {stats : Stats} (hopen : c.phase.openReceiver? = some r)
      (hkind : s.kind = .ack) (hpayload : s.payload = [])
      (hack : c.sender.onAck s.seq s.window ctx.now = .ok (.advanced bytes true, freed))
      (hwindow : c.window? ctx freed = some (flight, sender))
      (hstats : stats.bytesAcked = c.stats.bytesAcked + bytes) :
      Responds ctx c (.segment s) { c with sender, confirmed := true, stats } (c.flies ctx flight)
  | ended {s : Segment} {r : Receiver} (hopen : c.phase.openReceiver? = some r)
      (hkind : s.kind = .fin) :
      Responds ctx c (.segment s)
        { c with
          sender := c.sender.abandon
          phase := .shutdown r c.sender.abandon.sndUna
          peerClosed := true
          confirmed := true }
        [ctx.arm ctx.profile.timers.shutdownCheck (.shutdownCheck c.sender.abandon.sndUna)]
  | refused {s : Segment} (hphase : c.phase = .synSent) (hkind : s.kind = .fin) :
      Responds ctx c (.segment s) { c with phase := .closed none, peerClosed := true } []
  | requested {stats : Stats} (hphase : c.phase = .synSent)
      (hstats : stats.bytesAcked = c.stats.bytesAcked) :
      Responds ctx c (.timer (.retransmitSyn c.sender.isn)) { c with stats }
        (ctx.sends c.identity.remoteAddr [c.syn] ++
          [ctx.arm ctx.profile.timers.synRetransmit (.retransmitSyn c.sender.isn)])
  | granted {r : Receiver} {stats : Stats} (hopen : c.phase.openReceiver? = some r)
      (hconfirmed : c.confirmed = false) (hstats : stats.bytesAcked = c.stats.bytesAcked) :
      Responds ctx c (.timer (.retransmitSynAck r.rcvNxt)) { c with stats }
        (ctx.sends c.identity.remoteAddr [c.synAck r] ++
          [ctx.arm ctx.profile.timers.synRetransmit (.retransmitSynAck r.rcvNxt)])
  | waited {r : Receiver} {finSeq : UInt32} (hphase : c.phase = .shutdown r finSeq) :
      Responds ctx c (.timer (.shutdownCheck finSeq)) c
        [ctx.arm ctx.profile.timers.shutdownCheck (.shutdownCheck finSeq)]
  | finished {r : Receiver} {finSeq : UInt32} {stats : Stats}
      (hphase : c.phase = .shutdown r finSeq) (hdrained : c.sender.isDrained = true)
      (hend : c.sender.sndUna = finSeq) (hstats : stats.bytesAcked = c.stats.bytesAcked) :
      Responds ctx c (.timer (.shutdownCheck finSeq)) { c with phase := .closed (some r), stats }
        (ctx.sends c.identity.remoteAddr [c.fin finSeq])
  | repeated {r : Receiver} {generation : Nat} {flight : Flight} {sender : Sender} {stats : Stats}
      (hopen : c.phase.openReceiver? = some r)
      (hoverdue : c.overdue? ctx generation = some (flight, sender))
      (hstats : stats.bytesAcked = c.stats.bytesAcked) :
      Responds ctx c (.timer (.windowTimeout generation)) { c with sender, stats }
        (c.flies ctx flight)

variable {ctx : Context} {c : Connection}

theorem responds_of_ok {stimulus : Stimulus} {answer : Connection × List Effect} {c' : Connection}
    {effects : List Effect} (h : c.Responds ctx stimulus answer.1 answer.2)
    (e : (.ok answer : Except Fault (Connection × List Effect)) = .ok (c', effects)) :
    c.Responds ctx stimulus c' effects := by
  cases e
  exact h

/-! ### Calls -/

theorem responds_write (c : Connection) (ctx : Context) (bytes : List UInt8) :
    c.Responds ctx (.write bytes) (c.write ctx bytes).2.1 (c.write ctx bytes).2.2 := by
  unfold write
  split
  · next r hphase =>
    simp only
    split
    · next hgo =>
      rw [Bool.and_eq_true, Bool.not_eq_true'] at hgo
      unfold sendWindow
      split
      · next flight sender hwindow => exact .wroteSent hphase hgo.1 hwindow rfl
      · next hnone => exact .wrote hphase fun _ => hnone
    · next hstay =>
      refine .wrote hphase ?_
      rintro ⟨hidle, hleft⟩
      exact absurd (by rw [hidle, hleft]; rfl) hstay
  · next hphase => exact .ignored hphase

theorem responds_read (c : Connection) (ctx : Context) (count : Nat) :
    c.Responds ctx (.read count) (c.read count).2 [] := by
  unfold read
  split
  · next r hreceiver => exact .read hreceiver
  · next hreceiver => exact .ignored hreceiver

theorem responds_close (c : Connection) (ctx : Context) :
    c.Responds ctx .close (c.close ctx).1 (c.close ctx).2 := by
  unfold close
  split
  · next r hphase => exact .closing hphase
  · next hphase => exact .ignored hphase

/-! ### Segments -/

theorem responds_onSynAck {s : Segment} (hphase : c.phase = .synSent) (hkind : s.kind = .ack) :
    c.Responds ctx (.segment s) (c.onSynAck ctx s).1 (c.onSynAck ctx s).2 := by
  unfold onSynAck
  split
  · next b3 b2 b1 b0 hpayload =>
    split
    · next hseq =>
      rw [← Wire.bytesOf32_word32] at hpayload
      exact .opened hphase hkind hseq hpayload rfl
    · exact .ignored fun _ _ => by rw [hphase]; rfl
  · exact .ignored fun _ _ => by rw [hphase]; rfl

/-- Counting what an acknowledgment did, and sending the next window if it
    completed one. -/
theorem responds_afterAck {s : Segment} {r : Receiver} {outcome : AckOutcome} {sender : Sender}
    (hopen : c.phase.openReceiver? = some r) (hkind : s.kind = .ack) (hpayload : s.payload = [])
    (hack : c.sender.onAck s.seq s.window ctx.now = .ok (outcome, sender)) :
    c.Responds ctx (.segment s)
      ({ c with confirmed := true, sender }.afterAck ctx outcome).1
      ({ c with confirmed := true, sender }.afterAck ctx outcome).2 := by
  cases outcome with
  | duplicate => exact .acked hopen hkind hpayload hack nofun rfl
  | ignored => exact .acked hopen hkind hpayload hack nofun rfl
  | advanced bytes complete =>
    unfold afterAck
    simp only
    split
    · next hgo =>
      rw [Bool.and_eq_true, Bool.not_eq_true'] at hgo
      obtain ⟨rfl, hleft⟩ := hgo
      unfold sendWindow
      split
      · next flight sender' hwindow => exact .ackedSent hopen hkind hpayload hack hwindow rfl
      · next hnone => exact .acked hopen hkind hpayload hack (fun _ _ _ => hnone) rfl
    · next hstay =>
      refine .acked hopen hkind hpayload hack (fun bytes' heq hleft => ?_) rfl
      cases heq
      exact absurd (by rw [hleft]; rfl) hstay

theorem responds_onOpenAck {c' : Connection} {s : Segment} {r : Receiver} {effects : List Effect}
    (hopen : c.phase.openReceiver? = some r) (hkind : s.kind = .ack)
    (e : c.onOpenAck ctx r s = .ok (c', effects)) : c.Responds ctx (.segment s) c' effects := by
  unfold onOpenAck at e
  split at e
  · next hpayload =>
    cases e
    exact .reconfirmed hopen hkind (fun hnil => by simp [hnil] at hpayload) rfl
  · next hpayload =>
    have hnil : s.payload = [] := by simpa using hpayload
    split at e
    · next hfirst =>
      cases e
      rw [Bool.and_eq_true, beq_iff_eq] at hfirst
      exact .confirmed hopen hkind hnil hfirst.2
    · obtain ⟨⟨outcome, sender⟩, hack, heq⟩ := exists_of_map_eq_ok e
      exact responds_of_ok (responds_afterAck hopen hkind hnil hack) (congrArg _ heq)

theorem responds_onData {s : Segment} (hkind : s.kind = .data) :
    c.Responds ctx (.segment s) (c.onData ctx s).1 (c.onData ctx s).2 := by
  unfold onData
  split
  · next hclosed => exact .ignored fun _ _ => hclosed
  · next r hopen =>
    simp only
    split
    · exact .data hopen hkind rfl
    · exact .data hopen hkind rfl
    · exact .dropped hopen hkind

theorem responds_onFin {s : Segment} (hkind : s.kind = .fin) :
    c.Responds ctx (.segment s) (c.onFin ctx).1 (c.onFin ctx).2 := by
  unfold onFin
  split
  · next r hphase => exact .ended (by rw [hphase]; rfl) hkind
  · next r finSeq hphase => exact .ended (by rw [hphase]; rfl) hkind
  · next hphase => exact .refused hphase hkind
  · next hphase => exact .ignored fun _ _ => by rw [hphase]; rfl

theorem responds_onDuplicateSyn {s : Segment} (hkind : s.kind = .syn) :
    c.Responds ctx (.segment s) (c.onDuplicateSyn ctx).1 (c.onDuplicateSyn ctx).2 := by
  have hother : s.kind ≠ .ack := by rw [hkind]; decide
  unfold onDuplicateSyn
  split
  · next r hopen =>
    split
    · exact .ignored fun hack => absurd hack hother
    · exact .regranted hopen hkind rfl
  · exact .ignored fun hack => absurd hack hother

theorem responds_onSegment {c' : Connection} {s : Segment} {effects : List Effect}
    (e : c.onSegment ctx s = .ok (c', effects)) : c.Responds ctx (.segment s) c' effects := by
  unfold onSegment at e
  split at e
  · next hkind => exact responds_of_ok (responds_onDuplicateSyn hkind) e
  · next hkind => exact responds_of_ok (responds_onData hkind) e
  · next hkind => exact responds_of_ok (responds_onFin hkind) e
  · next hkind =>
    split at e
    · next hphase => exact responds_of_ok (responds_onSynAck hphase hkind) e
    · next r hphase => exact responds_onOpenAck (by rw [hphase]; rfl) hkind e
    · next r finSeq hphase => exact responds_onOpenAck (by rw [hphase]; rfl) hkind e
    · next hphase =>
      cases e
      exact .ignored fun _ _ => by rw [hphase]; rfl

/-! ### Timers -/

theorem responds_onRetransmitSyn (isn : UInt32) :
    c.Responds ctx (.timer (.retransmitSyn isn)) (c.onRetransmitSyn ctx isn).1
      (c.onRetransmitSyn ctx isn).2 := by
  unfold onRetransmitSyn
  split
  · next hphase =>
    split
    · next hisn =>
      subst hisn
      exact .requested hphase rfl
    · next hisn => exact .ignored fun _ => hisn
  · next hphase => exact .ignored fun hsyn => absurd hsyn hphase

theorem responds_onRetransmitSynAck (ack : UInt32) :
    c.Responds ctx (.timer (.retransmitSynAck ack)) (c.onRetransmitSynAck ctx ack).1
      (c.onRetransmitSynAck ctx ack).2 := by
  unfold onRetransmitSynAck
  split
  · next r hopen =>
    split
    · next hgo =>
      rw [Bool.and_eq_true, Bool.not_eq_true', beq_iff_eq] at hgo
      obtain ⟨hconfirmed, rfl⟩ := hgo
      exact .granted hopen hconfirmed rfl
    · next hstay =>
      refine .ignored fun r' hr' => ?_
      rw [hopen] at hr'
      cases hr'
      cases hconfirmed : c.confirmed with
      | true => exact Or.inl rfl
      | false => exact Or.inr fun heq => hstay (by rw [hconfirmed, heq, beq_self_eq_true]; rfl)
  · next hclosed =>
    refine .ignored fun r' hr' => ?_
    rw [hclosed] at hr'
    cases hr'

theorem responds_onShutdownCheck (finSeq : UInt32) :
    c.Responds ctx (.timer (.shutdownCheck finSeq)) (c.onShutdownCheck ctx finSeq).1
      (c.onShutdownCheck ctx finSeq).2 := by
  unfold onShutdownCheck
  split
  · next r pending hphase =>
    split
    · next hother =>
      refine .ignored fun r' hr' => ?_
      rw [hphase] at hr'
      cases hr'
      exact hother rfl
    · next hsame =>
      obtain rfl : pending = finSeq := Decidable.not_not.mp hsame
      split
      · next hgo =>
        rw [Bool.and_eq_true, beq_iff_eq] at hgo
        exact .finished hphase hgo.1 hgo.2 rfl
      · exact .waited hphase
  · next hphase => exact .ignored fun r => hphase r finSeq

theorem responds_onWindowTimeout (generation : Nat) :
    c.Responds ctx (.timer (.windowTimeout generation)) (c.onWindowTimeout ctx generation).1
      (c.onWindowTimeout ctx generation).2 := by
  unfold onWindowTimeout
  split
  · next hclosed => exact .ignored (Or.inl hclosed)
  · next r hopen =>
    split
    · next hnone => exact .ignored (Or.inr hnone)
    · next flight sender hoverdue => exact .repeated hopen hoverdue rfl

/-! ### All of them -/

/-- **Every answer of a connection is one of its responses.** -/
theorem responds_of_respond {stimulus : Stimulus} {c' : Connection} {effects : List Effect}
    (e : c.respond ctx stimulus = .ok (c', effects)) : c.Responds ctx stimulus c' effects := by
  cases stimulus with
  | write bytes => exact responds_of_ok (responds_write c ctx bytes) e
  | read count => exact responds_of_ok (responds_read c ctx count) e
  | close => exact responds_of_ok (responds_close c ctx) e
  | segment s => exact responds_onSegment e
  | timer event =>
    refine responds_of_ok ?_ e
    cases event with
    | retransmitSyn isn => exact responds_onRetransmitSyn isn
    | retransmitSynAck ack => exact responds_onRetransmitSynAck ack
    | shutdownCheck finSeq => exact responds_onShutdownCheck finSeq
    | windowTimeout generation => exact responds_onWindowTimeout generation

/-- A connection arms timers for its own socket only. -/
theorem Responds.timer_socket {stimulus : Stimulus} {c' : Connection} {effects : List Effect}
    (h : c.Responds ctx stimulus c' effects) : ∀ t ∈ timersOf effects, t.socket = ctx.id := by
  have hflies : ∀ {flight}, ∀ t ∈ timersOf (c.flies ctx flight), t.socket = ctx.id := by
    intro flight t ht
    rw [timersOf_flies] at ht
    rw [List.mem_singleton.mp ht]
  have hnone : ∀ {effects}, timersOf effects = [] → ∀ t ∈ timersOf effects, t.socket = ctx.id :=
    fun heq t ht => by rw [heq] at ht; cases ht
  have hone : ∀ {effects event}, timersOf effects = [⟨ctx.id, event⟩] →
      ∀ t ∈ timersOf effects, t.socket = ctx.id :=
    fun heq t ht => by rw [heq] at ht; rw [List.mem_singleton.mp ht]
  cases h with
  | wroteSent => exact hflies
  | closing => exact hone (timersOf_arm _ _ _)
  | opened => exact hnone (timersOf_sends _ _ _)
  | regranted => exact hnone (timersOf_sends _ _ _)
  | reconfirmed => exact hnone (timersOf_sends _ _ _)
  | data => exact hnone (timersOf_sends _ _ _)
  | ackedSent => exact hflies
  | ended => exact hone (timersOf_arm _ _ _)
  | requested => exact hone (timersOf_sends_arm _ _ _)
  | granted => exact hone (timersOf_sends_arm _ _ _)
  | waited => exact hone (timersOf_arm _ _ _)
  | finished => exact hnone (timersOf_sends _ _ _)
  | repeated => exact hflies
  | _ => exact hnone rfl

end Connection

end ReliableStream
