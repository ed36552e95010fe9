import ReliableStream.Proofs.Awaiting
import ReliableStream.Proofs.Integrity
/-! # The pace of a session

    The two ends of a stream keep in step:

    * everything acknowledged has **arrived**, and everything that arrived was
      sent;
    * the window that a sender goes by, from the oldest unacknowledged byte on,
      ends no later than the **edge** of its receiver, which is the position up
      to which the receiver has room.

    What arrived, what was sent and the edge never go back. So an acknowledgment
    stays true on the network however old it gets, and a segment that was sent
    within a window stays within the edge. An end that heard that the other has
    ended gives up its stream, and is left out of this. -/

namespace ReliableStream

open Sequence

namespace Connection

variable {ctx : Context} {c c' : Connection} {stimulus : Stimulus} {effects : List Effect}

/-! ### What moves leave as it is -/

/-- The largest segment never changes. -/
theorem Moved.mss (hmoved : c.Moved ctx stimulus c' effects) :
    c'.sender.buffer.mss = c.sender.buffer.mss := by
  cases hmoved with
  | wroteSent _ _ hlaunch => exact hlaunch.mss
  | acked _ _ _ hacked => exact hacked.mss
  | ackedSent _ _ _ hacked _ hlaunch => exact hlaunch.mss.trans hacked.mss
  | repeated _ _ hlaunch => exact hlaunch.mss
  | _ => rfl

/-- A request that is still waiting for its answer has not moved its sender. -/
theorem Moved.sender_of_asked (hmoved : c.Moved ctx stimulus c' effects)
    (hasked : c'.phase = .synSent) : c.phase = .synSent ∧ c'.sender = c.sender := by
  have hopened : ∀ {r}, c.phase.openReceiver? = some r → c.phase ≠ .synSent := by
    intro r hopen hphase
    rw [hphase] at hopen
    cases hopen
  cases hmoved with
  | ignored => exact ⟨hasked, rfl⟩
  | wrote hphase => exact absurd (hphase.symm.trans hasked) nofun
  | wroteSent hphase => exact absurd (hphase.symm.trans hasked) nofun
  | read => exact ⟨Phase.eq_synSent_of_withReceiver hasked, rfl⟩
  | data => exact ⟨Phase.eq_synSent_of_withReceiver hasked, rfl⟩
  | answered => exact ⟨hasked, rfl⟩
  | confirmed hopen => exact absurd hasked (hopened hopen)
  | acked hopen => exact absurd hasked (hopened hopen)
  | ackedSent hopen => exact absurd hasked (hopened hopen)
  | requested hphase => exact ⟨hphase, rfl⟩
  | granted => exact ⟨hasked, rfl⟩
  | waited => exact ⟨hasked, rfl⟩
  | repeated hopen => exact absurd hasked (hopened hopen)
  | _ => cases hasked

/-- Every receiver has the capacity that the node was set up with. -/
theorem Received.room (h : c.Received ctx stimulus c')
    (hroom : ∀ r, c.phase.receiver? = some r → r.buffer.capacity = ctx.profile.shape.capacity) :
    ∀ r, c'.phase.receiver? = some r → r.buffer.capacity = ctx.profile.shape.capacity := by
  intro r hr
  cases h with
  | absent _ hafter =>
    rw [hafter] at hr
    cases hr
  | created _ _ _ hafter =>
    rw [hafter] at hr
    cases hr
    rfl
  | kept hbefore hafter _ _ hsame =>
    rw [hafter] at hr
    cases hr
    exact hsame.trans (hroom _ hbefore)
  | appended hbefore hafter _ _ _ _ hsame =>
    rw [hafter] at hr
    cases hr
    exact hsame.trans (hroom _ hbefore)

/-! ### Giving up -/

/-- The connection gave up its outgoing stream, and takes nothing more. -/
structure Abandoned (c : Connection) : Prop where
  drained : c.sender.isDrained = true
  ended : c.phase.state = .shutdown ∨ c.phase.state = .closed

/-- A connection that heard that the other has ended has given up, and stays so. -/
theorem Moved.abandoned (hmoved : c.Moved ctx stimulus c' effects) (h : c.Steady)
    (hgaveUp : c.peerClosed = true → c.Abandoned) (hclosed : c'.peerClosed = true) :
    c'.Abandoned := by
  have hnot : ∀ {p : Phase}, c.phase = p → p.state ≠ .shutdown → p.state ≠ .closed →
      c.peerClosed ≠ true := by
    rintro p rfl hshutdown hover hclosed
    rcases (hgaveUp hclosed).ended with hstate | hstate
    · exact hshutdown hstate
    · exact hover hstate
  cases hmoved with
  | wrote hphase => exact absurd hclosed (hnot hphase nofun nofun)
  | wroteSent hphase => exact absurd hclosed (hnot hphase nofun nofun)
  | read =>
    obtain ⟨hdrained, hover⟩ := hgaveUp hclosed
    exact ⟨hdrained, by rw [Phase.state_withReceiver]; exact hover⟩
  | closing hphase => exact absurd hclosed (hnot hphase nofun nofun)
  | opened hphase => exact absurd hclosed (hnot hphase nofun nofun)
  | data =>
    obtain ⟨hdrained, hover⟩ := hgaveUp hclosed
    exact ⟨hdrained, by rw [Phase.state_withReceiver]; exact hover⟩
  | acked _ _ _ hacked =>
    obtain ⟨hdrained, hover⟩ := hgaveUp hclosed
    exact ⟨hacked.isDrained h.sound hdrained, hover⟩
  | ackedSent _ _ _ hacked _ hlaunch =>
    have hdrained := hacked.isDrained h.sound (hgaveUp hclosed).drained
    exact absurd hdrained (by rw [hlaunch.not_drained]; exact Bool.false_ne_true)
  | ended => exact ⟨h.sound.abandon.2.1, Or.inl rfl⟩
  | refused hphase => exact ⟨h.parked (by rw [hphase]; rfl), Or.inr rfl⟩
  | finished _ hdrained => exact ⟨hdrained, Or.inr rfl⟩
  | repeated _ _ hlaunch =>
    exact absurd (hgaveUp hclosed).drained (by rw [hlaunch.not_drained]; exact Bool.false_ne_true)
  | _ =>
    obtain ⟨hdrained, hover⟩ := hgaveUp hclosed
    exact ⟨hdrained, hover⟩

/-- What was heard of the end of the other is never forgotten. -/
theorem Moved.peerClosed_of_open (hmoved : c.Moved ctx stimulus c' effects)
    (hopen : c'.peerClosed = false) : c.peerClosed = false := by
  cases hmoved with
  | ended => cases hopen
  | refused => cases hopen
  | _ => exact hopen

end Connection

namespace Session

variable {w : Session} {σ σ' : State} {side : Side} {e : Endpoint}

/-! ### Ends -/

/-- An end works with what its node was set up with. -/
structure Endpoint.Fitted (w : Session) (side : Side) (e : Endpoint) : Prop where
  steady : e.connection.Steady
  mss : e.connection.sender.buffer.mss = (w.profile side).shape.mss
  room : ∀ r, e.connection.phase.receiver? = some r →
    r.buffer.capacity = (w.profile side).shape.capacity
  asked : e.connection.phase = .synSent →
    e.connection.sender.congestion.cwnd < (w.profile side).shape.capacity
  abandoned : e.connection.peerClosed = true → e.connection.Abandoned

namespace Endpoint

variable {ctx : Context} {c : Connection} {stimulus : Stimulus} {effects : List Effect}

theorem Fitted.after {now : Duration} (h : e.Fitted w side)
    (hmoved : e.connection.Moved (w.context side now) stimulus c effects) :
    (e.after (w.context side now) stimulus c).Fitted w side where
  steady := hmoved.steady h.steady
  mss := hmoved.mss.trans h.mss
  room := hmoved.received.room h.room
  asked := by
    intro hasked
    obtain ⟨hbefore, hsender⟩ := hmoved.sender_of_asked hasked
    show c.sender.congestion.cwnd < _
    rw [hsender]
    exact h.asked hbefore
  abandoned := hmoved.abandoned h.steady h.abandoned

/-- The position at which everything sent by an end ends. -/
def sentEnd (e : Endpoint) : Nat := e.acked + e.connection.sender.extent

/-- Nothing has happened at an end that still asks for the connection. -/
theorem Valid.blank_of_asked (h : e.Valid w side) (hasked : e.connection.phase = .synSent) :
    e.read = [] ∧ e.accepted = [] ∧ e.sentEnd = 0 := by
  have hunanswered : e.connection.phase.receiver? = none := by
    rw [hasked]
    rfl
  obtain ⟨hwritten, hread⟩ := h.silent hunanswered
  have hsent := h.sound.extent_le
  have hbuffered := h.holds.buffered_eq
  rw [hwritten] at hbuffered
  refine ⟨hread, (accepted_of_unanswered hunanswered).trans hread, ?_⟩
  unfold sentEnd
  rw [h.acked_of_asked hasked, Nat.zero_add]
  simp only [List.length_nil] at hbuffered
  omega

/-- The position of the outgoing stream moves by what is learned. -/
theorem Valid.learned (h : e.Valid w side) (hmoved : e.connection.Moved ctx stimulus c effects) :
    e.connection.Learned e.acked stimulus c (e.after ctx stimulus c).acked := by
  obtain ⟨acked, hholds, hlearned⟩ := hmoved.learned h.sound h.holds h.acked_of_asked
  have hacked : (e.after ctx stimulus c).acked = acked := hholds.acked_eq
  rw [hacked]
  exact hlearned

/-- The end goes by no more than what arrived at the other, and by no more
    room than there is up to its edge. -/
def Trails (e : Endpoint) (arrived edge : Nat) : Prop :=
  e.connection.peerClosed = false →
    e.acked ≤ arrived ∧ e.acked + e.connection.sender.rwnd.toNat ≤ edge

theorem Trails.mono {arrived arrived' edge edge' : Nat} (h : e.Trails arrived edge)
    (harrived : arrived ≤ arrived') (hedge : edge ≤ edge') : e.Trails arrived' edge' := by
  intro hopen
  obtain ⟨hacked, hwindow⟩ := h hopen
  exact ⟨Nat.le_trans hacked harrived, Nat.le_trans hwindow hedge⟩

end Endpoint

/-! ### Parcels -/

/-- A parcel tells of no more than what arrived and of no more room than there
    is where it was sent. It carries nothing beyond what was sent there, and if
    it carries more than one byte, nothing beyond the edge of the other end. -/
structure Parcel.Bounded (p : Parcel) (arrived edge sentEnd peerEdge : Nat) : Prop where
  tells : p.segment.kind = .ack ∨ p.segment.kind = .syn →
    p.position ≤ arrived ∧ p.position + p.segment.window.toNat ≤ edge
  loads : p.segment.kind = .data → p.segment.payload ≠ [] →
    p.position + p.segment.payload.length ≤ sentEnd ∧
      (p.segment.payload.length = 1 ∨ p.position + p.segment.payload.length ≤ peerEdge)

theorem Parcel.Bounded.mono {p : Parcel}
    {arrived edge sentEnd peerEdge arrived' edge' sentEnd' peerEdge' : Nat}
    (h : p.Bounded arrived edge sentEnd peerEdge) (harrived : arrived ≤ arrived')
    (hedge : edge ≤ edge') (hsentEnd : sentEnd ≤ sentEnd') (hpeerEdge : peerEdge ≤ peerEdge') :
    p.Bounded arrived' edge' sentEnd' peerEdge' where
  tells := by
    intro hkind
    have := h.tells hkind
    omega
  loads := by
    intro hkind hpayload
    have := h.loads hkind hpayload
    omega

/-- The window of a receiver ends at its edge. -/
theorem window_le (r : Receiver) : r.buffer.used + r.window.toNat ≤ r.buffer.capacity - 1 := by
  have hroom := r.buffer.used_add_available
  have hwindow : r.window.toNat ≤ r.buffer.available := by
    unfold Receiver.window
    rw [UInt32.toNat_ofNat']
    exact Nat.mod_le _ _
  omega

/-- Whatever an end says is bounded. -/
theorem Endpoint.Fitted.bounded {s : Segment} {arrived edge : Nat} (h : e.Fitted w side)
    (htrails : e.Trails arrived edge) (hstates : e.connection.States s) :
    Parcel.Bounded ⟨s, e.positionOf s⟩ e.accepted.length
      (e.read.length + (w.profile side).shape.capacity - 1) e.sentEnd edge := by
  have htells : ∀ {r}, e.connection.phase.receiver? = some r → ∀ s : Segment, s.kind = .ack →
      s.window = r.window → Parcel.Bounded ⟨s, e.positionOf s⟩ e.accepted.length
        (e.read.length + (w.profile side).shape.capacity - 1) e.sentEnd edge := by
    intro r hr s hkind hwindow
    have hposition : e.positionOf s = e.accepted.length := by
      unfold Endpoint.positionOf
      rw [hkind]
    have haccepted : e.accepted.length = e.read.length + r.buffer.used := by
      rw [Endpoint.accepted_of_receiver hr, List.length_append, StreamBuffer.length_contents]
    have hle := window_le r
    have hroom := h.room r hr
    have htwo := (w.profile side).shape.two_le_capacity
    refine ⟨fun _ => ?_, fun hdata => absurd (hkind.symm.trans hdata) nofun⟩
    show e.positionOf s ≤ _ ∧ e.positionOf s + s.window.toNat ≤ _
    rw [hposition, hwindow]
    omega
  cases hstates with
  | data hcarries hcovers =>
    have hkind := hcarries.kind
    refine ⟨?_, fun _ hpayload => ?_⟩
    · show s.kind = .ack ∨ s.kind = .syn → _
      rw [hkind]
      rintro (hother | hother) <;> cases hother
    · show e.positionOf s + s.payload.length ≤ _ ∧
        (s.payload.length = 1 ∨ e.positionOf s + s.payload.length ≤ _)
      have hsent := hcovers.sent
      have hallowed := hcovers.allowed
      have hpos : 0 < s.payload.length := List.length_pos_iff.mpr hpayload
      -- An end that gave up has nothing left to send.
      have hopen : e.connection.peerClosed = false := by
        rw [← Bool.not_eq_true]
        intro hclosed
        have hempty := e.connection.sender.buffer.isEmpty_iff.mp (h.abandoned hclosed).drained
        rw [← StreamBuffer.contents_eq_nil_iff] at hempty
        have hprefix := hcarries.payload
        rw [hempty, List.drop_nil, List.prefix_nil] at hprefix
        exact hpayload hprefix
      have hwindow := (htrails hopen).2
      rw [Endpoint.positionOf_of_data hkind]
      unfold Endpoint.sentEnd
      omega
  | syn hasked =>
    have hcwnd := h.asked hasked
    refine ⟨fun _ => ⟨Nat.zero_le _, ?_⟩, nofun⟩
    show 0 + (UInt32.ofNat e.connection.sender.congestion.cwnd).toNat ≤ _
    rw [UInt32.toNat_ofNat']
    omega
  | ack hr => exact htells hr _ rfl rfl
  | synAck hr => exact htells hr _ rfl rfl
  | fin finSeq =>
    refine ⟨?_, nofun⟩
    rintro (hother | hother) <;> cases hother

/-! ### The invariant -/

namespace State

/-- The bytes that were handed out by reads at an end. -/
def read (σ : State) (side : Side) : List UInt8 := ((σ.ends side).map Endpoint.read).getD []

/-- The position at which everything sent by an end ends. -/
def sentEnd (σ : State) (side : Side) : Nat := ((σ.ends side).map Endpoint.sentEnd).getD 0

theorem read_of_end (h : σ.ends side = some e) : σ.read side = e.read := by
  unfold read
  rw [h]
  rfl

theorem sentEnd_of_end (h : σ.ends side = some e) : σ.sentEnd side = e.sentEnd := by
  unfold sentEnd
  rw [h]
  rfl

variable {side' : Side} {entry : Option Endpoint} {parcels : List Parcel}

theorem read_update_of_ne (h : side' ≠ side) :
    (σ.update side entry parcels).read side' = σ.read side' := by
  unfold read
  rw [ends_update_of_ne h]

theorem sentEnd_update_of_ne (h : side' ≠ side) :
    (σ.update side entry parcels).sentEnd side' = σ.sentEnd side' := by
  unfold sentEnd
  rw [ends_update_of_ne h]

/-- Nothing that an end read, took in or sent is taken back. -/
structure Grows (σ σ' : State) (side : Side) : Prop where
  read : (σ.read side).length ≤ (σ'.read side).length
  accepted : (σ.accepted side).length ≤ (σ'.accepted side).length
  sentEnd : σ.sentEnd side ≤ σ'.sentEnd side

/-- An end at which nothing has happened can come and go. -/
theorem grows_of_blank (hread : σ.read side = []) (haccepted : σ.accepted side = [])
    (hsentEnd : σ.sentEnd side = 0) : σ.Grows σ' side where
  read := by simp [hread]
  accepted := by simp [haccepted]
  sentEnd := by simp [hsentEnd]

end State

/-- The position up to which the receiver of an end has room, if nothing more
    is read there. -/
def edge (w : Session) (σ : State) (side : Side) : Nat :=
  (σ.read side).length + (w.profile side).shape.capacity - 1

theorem edge_of_end (h : σ.ends side = some e) :
    w.edge σ side = e.read.length + (w.profile side).shape.capacity - 1 := by
  unfold edge
  rw [State.read_of_end h]

/-- Both ends keep in step, and everything on the network stays within what
    arrived, what was sent and where there is room. -/
structure Paced (w : Session) (σ : State) : Prop where
  fitted : ∀ side e, σ.ends side = some e → e.Fitted w side
  trails : ∀ side e, σ.ends side = some e →
    e.Trails (σ.accepted side.other).length (w.edge σ side.other)
  arrived : ∀ side, (σ.accepted side.other).length ≤ σ.sentEnd side
  bounded : ∀ side, ∀ p ∈ σ.sent side, p.Bounded (σ.accepted side).length (w.edge σ side)
    (σ.sentEnd side) (w.edge σ side.other)

/-- What has to be shown of a change at one end: the end is fitted and trails
    the other, nothing there goes back, what arrived there was sent at the
    other, and what it sends is bounded. -/
theorem Paced.update {entry : Option Endpoint} {parcels : List Parcel} (h : w.Paced σ)
    (hfitted : ∀ e, entry = some e → e.Fitted w side)
    (htrails : ∀ e, entry = some e →
      e.Trails (σ.accepted side.other).length (w.edge σ side.other))
    (hgrows : σ.Grows (σ.update side entry parcels) side)
    (harrived : ((σ.update side entry parcels).accepted side).length ≤ σ.sentEnd side.other)
    (hbounded : ∀ p ∈ parcels, p.Bounded ((σ.update side entry parcels).accepted side).length
      (w.edge (σ.update side entry parcels) side) ((σ.update side entry parcels).sentEnd side)
      (w.edge σ side.other)) :
    w.Paced (σ.update side entry parcels) := by
  have hedge : w.edge σ side ≤ w.edge (σ.update side entry parcels) side := by
    have hread := hgrows.read
    unfold edge
    omega
  -- Nothing changes at the other end.
  have haccepted' : (σ.update side entry parcels).accepted side.other = σ.accepted side.other :=
    State.accepted_update_of_ne (Side.other_ne side)
  have hsentEnd' : (σ.update side entry parcels).sentEnd side.other = σ.sentEnd side.other :=
    State.sentEnd_update_of_ne (Side.other_ne side)
  have hedge' : w.edge (σ.update side entry parcels) side.other = w.edge σ side.other := by
    unfold edge
    rw [State.read_update_of_ne (Side.other_ne side)]
  refine ⟨?_, ?_, ?_, ?_⟩
  · intro side' e he
    by_cases hside : side' = side
    · subst hside
      rw [State.ends_update_self] at he
      exact hfitted e he
    · rw [State.ends_update_of_ne hside] at he
      exact h.fitted side' e he
  · intro side' e he
    by_cases hside : side' = side
    · subst hside
      rw [State.ends_update_self] at he
      rw [haccepted', hedge']
      exact htrails e he
    · rw [State.ends_update_of_ne hside] at he
      have htrails' := h.trails side' e he
      rw [Side.other_eq_of_ne hside] at htrails' ⊢
      exact htrails'.mono hgrows.accepted hedge
  · intro side'
    by_cases hside : side' = side
    · subst hside
      rw [haccepted']
      exact Nat.le_trans (h.arrived side') hgrows.sentEnd
    · obtain rfl := Side.eq_other_of_ne hside
      rw [hsentEnd', Side.other_other]
      exact harrived
  · intro side' p hp
    by_cases hside : side' = side
    · subst hside
      rw [hedge']
      rw [State.sent_update_self] at hp
      rcases List.mem_append.mp hp with hp | hp
      · exact (h.bounded side' p hp).mono hgrows.accepted hedge hgrows.sentEnd (Nat.le_refl _)
      · exact hbounded p hp
    · obtain rfl := Side.eq_other_of_ne hside
      rw [State.sent_update_of_ne hside] at hp
      have hbounded' := h.bounded side.other p hp
      rw [haccepted', hedge', hsentEnd']
      rw [Side.other_other] at hbounded' ⊢
      exact hbounded'.mono (Nat.le_refl _) (Nat.le_refl _) (Nat.le_refl _) hedge

/-! ### Steps -/

/-- An end enters with nothing written and nothing read, and goes by a window
    that the other end has room for. -/
theorem Paced.enter {opened : Connection × List Effect} (h : w.Paced σ)
    (hfresh : σ.ends side = none) (hfitted : Endpoint.Fitted w side ⟨opened.1, [], []⟩)
    (hempty : Endpoint.accepted ⟨opened.1, [], []⟩ = [])
    (hwindow : opened.1.sender.rwnd.toNat ≤ w.edge σ side.other)
    (hstates : ∀ s ∈ segmentsOf opened.2, opened.1.States s) :
    w.Paced (σ.enter side opened) := by
  have htrails : Endpoint.Trails ⟨opened.1, [], []⟩ (σ.accepted side.other).length
      (w.edge σ side.other) := by
    intro _
    have hacked : Endpoint.acked ⟨opened.1, [], []⟩ = 0 := Nat.zero_sub _
    rw [hacked, Nat.zero_add]
    exact ⟨Nat.zero_le _, hwindow⟩
  have hblank : σ.read side = [] ∧ σ.accepted side = [] ∧ σ.sentEnd side = 0 := by
    unfold State.read State.accepted State.sentEnd
    rw [hfresh]
    exact ⟨rfl, rfl, rfl⟩
  refine h.update ?_ ?_ (State.grows_of_blank hblank.1 hblank.2.1 hblank.2.2) ?_ ?_
  · intro e he
    cases he
    exact hfitted
  · intro e he
    cases he
    exact htrails
  · rw [State.accepted_of_end State.ends_update_self, hempty]
    exact Nat.zero_le _
  · intro p hp
    obtain ⟨s, hs, rfl⟩ := List.mem_map.mp hp
    rw [State.accepted_of_end State.ends_update_self, State.sentEnd_of_end State.ends_update_self,
      edge_of_end State.ends_update_self]
    exact hfitted.bounded htrails (hstates s hs)

/-- Where there are no ends, there is nothing to keep in step. -/
theorem paced_empty (w : Session) : w.Paced ⟨fun _ => none, fun _ => []⟩ where
  fitted := by
    intro side e he
    cases he
  trails := by
    intro side e he
    cases he
  arrived := fun _ => Nat.le_refl 0
  bounded := fun _ _ hp => absurd hp List.not_mem_nil

theorem paced_start (w : Session) (now : Duration) : w.Paced (w.start now) := by
  unfold start
  rcases hopened : Connection.request (w.context .opening now) (w.identity .opening)
    with ⟨c, effects⟩
  have hsteady := Connection.steady_of_request (w.capacity_le .opening) hopened
  obtain ⟨⟨stats, rfl⟩, -, hsent⟩ := Connection.eq_of_request hopened
  refine (paced_empty w).enter rfl ?_ (Endpoint.accepted_of_unanswered rfl) (Nat.zero_le _) ?_
  · refine ⟨hsteady, rfl, nofun, fun _ => ?_, nofun⟩
    have hlt := (w.profile .opening).mss_lt
    show (UInt32.ofNat (w.profile .opening).shape.mss).toNat < _
    rw [UInt32.toNat_ofNat']
    omega
  · intro s hs
    rw [hsent s hs]
    exact .syn rfl

theorem Paced.spawn {now : Duration} {p : Parcel} (h : w.Paced σ)
    (hnone : σ.ends .answering = none) (hmem : p ∈ σ.sent .opening)
    (hkind : p.segment.kind = .syn) :
    w.Paced (σ.enter .answering
      (Connection.answer (w.context .answering now) (w.identity .answering) p.segment)) := by
  rcases hopened : Connection.answer (w.context .answering now) (w.identity .answering) p.segment
    with ⟨c, effects⟩
  have hsteady := Connection.steady_of_answer (w.capacity_le .answering) hopened
  obtain ⟨⟨stats, rfl⟩, -, hsent⟩ := Connection.eq_of_answer hopened
  refine h.enter hnone ?_ ?_ ?_ ?_
  · refine ⟨hsteady, rfl, ?_, nofun, nofun⟩
    intro r hr
    cases hr
    rfl
  · rw [Endpoint.accepted_of_receiver rfl, Receiver.contents_create, List.append_nil]
  · -- The window of the request counts from the first byte.
    have htold := ((h.bounded .opening p hmem).tells (Or.inr hkind)).2
    exact Nat.le_trans (Nat.le_add_left _ _) htold
  · intro s hs
    rw [hsent s hs]
    exact .synAck rfl

/-- Before it was answered, nothing happened at an end that is withdrawn. -/
theorem Paced.withdraw (h : w.Paced σ) (hend : σ.ends side = some e) (hvalid : e.Valid w side)
    (hasked : e.connection.phase = .synSent) : w.Paced (σ.update side none []) := by
  obtain ⟨hread, haccepted, hsentEnd⟩ := hvalid.blank_of_asked hasked
  refine h.update ?_ ?_ ?_ ?_ fun p hp => absurd hp List.not_mem_nil
  · intro e' he'
    cases he'
  · intro e' he'
    cases he'
  · apply State.grows_of_blank
    · rw [State.read_of_end hend, hread]
    · rw [State.accepted_of_end hend, haccepted]
    · rw [State.sentEnd_of_end hend, hsentEnd]
  · unfold State.accepted
    rw [State.ends_update_self]
    exact Nat.zero_le _

section Respond

variable {ctx : Context} {c : Connection} {stimulus : Stimulus} {effects : List Effect}

/-- What an end learns from an acknowledgment is true: in reach there is only
    one position with its number. -/
theorem Paced.trails_after (h : w.Paced σ) (hcoherent : w.Coherent σ)
    (hend : σ.ends side = some e) (hallowed : σ.Allows side e stimulus)
    (hmoved : e.connection.Moved ctx stimulus c effects)
    (hvalid : (e.after ctx stimulus c).Valid w side) :
    (e.after ctx stimulus c).Trails (σ.accepted side.other).length (w.edge σ side.other) := by
  intro hopen
  have hbefore := hcoherent.valid side e hend
  have htrails := h.trails side e hend (hmoved.peerClosed_of_open hopen)
  have hlearned := hbefore.learned hmoved
  generalize hacked : (e.after ctx stimulus c).acked = acked at hlearned
  cases hlearned with
  | nothing hrwnd =>
    show _ ∧ _ + c.sender.rwnd.toNat ≤ _
    rw [hrwnd]
    exact htrails
  | @told s _ _ hkind hseq hrwnd hle hsent =>
    obtain ⟨p, hmem, rfl, hreach, hfits⟩ := hcoherent.fits_of_allows hallowed (by rw [hkind]; decide)
    have hextent := hbefore.sound.extent_lt
    have hsndUna : c.sender.sndUna = numberAt (w.isn side) acked := by
      have hafter := hvalid.holds.sndUna
      rw [hvalid.isn, hacked] at hafter
      exact hafter
    have hnumber : numberAt (w.isn side) p.position = numberAt (w.isn side) acked := by
      rw [← hsndUna, ← hseq, (hfits.ack hkind).1, Side.other_other]
    obtain ⟨hnear, hnear'⟩ := hreach.ack hkind
    have hposition : p.position = acked := by
      have := advance_inj hnumber (by omega) (by omega)
      omega
    have htold := (h.bounded side.other p hmem).tells (Or.inl hkind)
    rw [hposition] at htold
    show _ ∧ _ + c.sender.rwnd.toNat ≤ _
    rw [hrwnd]
    exact htold
  | ended hclosed => exact absurd (hopen.symm.trans hclosed) Bool.false_ne_true

/-- What arrives at an end was sent at the other. -/
theorem Paced.arrived_after (h : w.Paced σ) (hcoherent : w.Coherent σ)
    (hend : σ.ends side = some e) (hallowed : σ.Allows side e stimulus)
    (hreceived : e.connection.Received ctx stimulus c) :
    (e.after ctx stimulus c).accepted.length ≤ σ.sentEnd side.other := by
  have harrived := h.arrived side.other
  rw [Side.other_other, State.accepted_of_end hend] at harrived
  rcases Endpoint.accepted_after hreceived with hsame | ⟨s, r, rfl, hkind, hr, hseq, hmore⟩
  · rw [hsame]
    exact harrived
  · rw [hmore, List.length_append]
    obtain ⟨p, hmem, rfl, hreach, hfits⟩ := hcoherent.fits_of_allows hallowed (by rw [hkind]; decide)
    have hposition := (hcoherent.valid side e hend).position_of_next hfits hkind hreach hr hseq
    by_cases hpayload : p.segment.payload = []
    · rw [hpayload]
      exact harrived
    · have hload := ((h.bounded side.other p hmem).loads hkind hpayload).1
      rw [hposition] at hload
      exact hload

/-- Nothing is taken back by a move. -/
theorem Endpoint.Valid.grows_after {parcels : List Parcel} (h : e.Valid w side)
    (hend : σ.ends side = some e) (hmoved : e.connection.Moved ctx stimulus c effects) :
    σ.Grows (σ.update side (some (e.after ctx stimulus c)) parcels) side where
  read := by
    rw [State.read_of_end hend, State.read_of_end State.ends_update_self]
    show _ ≤ (e.read ++ _).length
    rw [List.length_append]
    exact Nat.le_add_right _ _
  accepted := by
    rw [State.accepted_of_end hend, State.accepted_of_end State.ends_update_self]
    rcases Endpoint.accepted_after hmoved.received with hsame | ⟨s, r, rfl, -, -, -, hmore⟩
    · exact Nat.le_of_eq (congrArg List.length hsame).symm
    · rw [hmore, List.length_append]
      exact Nat.le_add_right _ _
  sentEnd := by
    rw [State.sentEnd_of_end hend, State.sentEnd_of_end State.ends_update_self]
    exact (h.learned hmoved).extent_le

end Respond

theorem Paced.step (h : w.Paced σ) (hcoherent : w.Coherent σ) (hstep : w.Step σ σ') :
    w.Paced σ' := by
  have hcoherent' := hcoherent.step hstep
  cases hstep with
  | @respond e answer side now stimulus hend hallowed hrespond =>
    obtain ⟨c, effects⟩ := answer
    have hbefore := hcoherent.valid side e hend
    have hvalid := hcoherent'.valid side _ State.ends_update_self
    have hmoved :=
      Connection.moved_of_respond hbefore.sound (hcoherent.not_opposite hend hallowed) hrespond
    have hfitted := (h.fitted side e hend).after hmoved
    have htrails := h.trails_after hcoherent hend hallowed hmoved hvalid
    refine h.update ?_ ?_ (hbefore.grows_after hend hmoved) ?_ ?_
    · intro e' he'
      cases he'
      exact hfitted
    · intro e' he'
      cases he'
      exact htrails
    · rw [State.accepted_of_end State.ends_update_self]
      exact h.arrived_after hcoherent hend hallowed hmoved.received
    · intro p hp
      obtain ⟨s, hs, rfl⟩ := List.mem_map.mp hp
      rw [State.accepted_of_end State.ends_update_self,
        State.sentEnd_of_end State.ends_update_self, edge_of_end State.ends_update_self]
      exact hfitted.bounded htrails (hmoved.states s hs)
  | spawn now p hnone hmem hkind => exact h.spawn hnone hmem hkind
  | withdraw hend hphase => exact h.withdraw hend (hcoherent.valid .opening _ hend) hphase

theorem paced_of_reachable (h : w.Reachable σ) : w.Paced σ := by
  induction h with
  | start now => exact paced_start w now
  | step hreachable hstep ih => exact ih.step (coherent_of_reachable hreachable) hstep

/-! ### Closing -/

/-- An end that is drained without having been told of the end of the other
    has delivered all of its stream. -/
theorem delivered_of_drained (h : w.Reachable σ) (hend : σ.ends side = some e)
    (hopen : e.connection.peerClosed = false) (hdrained : e.connection.sender.isDrained = true) :
    σ.accepted side.other = e.written ∧ e.acked = e.written.length := by
  have hvalid := (coherent_of_reachable h).valid side e hend
  have hwritten := (coherent_of_reachable h).accepted side.other
  have htrails := ((paced_of_reachable h).trails side e hend hopen).1
  have hbuffered := hvalid.holds.buffered_eq
  have hacked_le := hvalid.holds.acked_le
  rw [e.connection.sender.isDrained_iff.mp hdrained] at hbuffered
  have hacked : e.acked = e.written.length := by omega
  rw [Side.other_other, State.written_of_end hend] at hwritten
  refine ⟨hwritten.eq_of_length ?_, hacked⟩
  have hle := hwritten.length_le
  omega

/-- **A graceful close loses nothing.** When an end that was not told of the
    end of the other announces its own, everything that was written there has
    arrived at the other, and the announcement carries the number just after
    the last byte. -/
theorem fin_after_delivery {finSeq : UInt32} {now : Duration} {answer : Connection × List Effect}
    {s : Segment} (h : w.Reachable σ) (hend : σ.ends side = some e)
    (hopen : e.connection.peerClosed = false)
    (hrespond : e.connection.respond (w.context side now) (.timer (.shutdownCheck finSeq)) =
      .ok answer)
    (hsent : s ∈ segmentsOf answer.2) :
    s.kind = .fin ∧ σ.accepted side.other = σ.written side ∧
      s.seq = advance (w.isn side) (1 + (σ.written side).length) := by
  obtain ⟨c, effects⟩ := answer
  have hvalid := (coherent_of_reachable h).valid side e hend
  have hmoved := Connection.moved_of_respond hvalid.sound id hrespond
  cases hmoved with
  | ignored => exact absurd hsent List.not_mem_nil
  | waited => exact absurd hsent List.not_mem_nil
  | finished _ hdrained hfinSeq _ hfin =>
    obtain ⟨harrived, hacked⟩ := delivered_of_drained h hend hopen hdrained
    rw [hfin s hsent, State.written_of_end hend]
    refine ⟨rfl, harrived, ?_⟩
    show finSeq = _
    rw [← hfinSeq, hvalid.holds.sndUna, hvalid.isn, hacked, Nat.add_comm 1]
    rfl

/-- In the small session four bytes are written, and the end is closed at once.
    When they are acknowledged, the end is announced as the number 3, which is
    beyond the turn. -/
theorem small_fin_after_delivery : ∃ σ e answer, small.Reachable σ ∧
    σ.ends .opening = some e ∧ e.connection.peerClosed = false ∧
    e.connection.respond (small.context .opening .zero) (.timer (.shutdownCheck 3)) = .ok answer ∧
    ∃ s ∈ segmentsOf answer.2, s.kind = .fin ∧
      σ.accepted Side.opening.other = σ.written .opening ∧ σ.written .opening = [10, 20, 30, 40] ∧
      s.seq = advance (small.isn .opening) (1 + (σ.written .opening).length) := by
  let syn : Segment := ⟨5000, 80, .syn, 4, 4_294_967_294, []⟩
  let synAck : Segment := ⟨80, 5000, .ack, 7, 4_294_967_295, [0, 0, 0, 100]⟩
  let data : Segment := ⟨5000, 80, .data, 4, 4_294_967_295, [10, 20, 30, 40]⟩
  let ack : Segment := ⟨80, 5000, .ack, 3, 3, []⟩
  have asked := Reachable.start (w := small) .zero
  have spawned := asked.step (.spawn .zero ⟨syn, 0⟩ rfl (by decide +kernel) rfl)
  have answered := spawned.step (.respond .opening .zero (.segment synAck) rfl
    (Or.inr ⟨⟨synAck, 0⟩, by decide +kernel, rfl, nofun, fun _ => by decide +kernel⟩) rfl)
  have wrote := answered.step (.respond .opening .zero (.write [10, 20, 30, 40]) rfl trivial rfl)
  have closed := wrote.step (.respond .opening .zero .close rfl
    (fun h => absurd (congrArg Phase.state h) (by decide +kernel)) rfl)
  have arrived := closed.step (.respond .answering .zero (.segment data) rfl
    (Or.inr ⟨⟨data, 0⟩, by decide +kernel, rfl, fun _ => by decide +kernel, nofun⟩) rfl)
  have acked := arrived.step (.respond .opening .zero (.segment ack) rfl
    (Or.inr ⟨⟨ack, 4⟩, by decide +kernel, rfl, nofun, fun _ => by decide +kernel⟩)
    (ok_get_of_isSome (by decide +kernel)))
  have hclosing := fin_after_delivery acked (rfl : State.ends _ .opening = _) (by decide +kernel)
    (ok_get_of_isSome (by decide +kernel) :
      Connection.respond (small.context .opening .zero) _ (.timer (.shutdownCheck 3)) = _)
    (List.head_mem (by decide +kernel))
  exact ⟨_, _, _, acked, rfl, by decide +kernel, ok_get_of_isSome (by decide +kernel), _,
    List.head_mem (by decide +kernel), hclosing.1, hclosing.2.1, by decide +kernel, hclosing.2.2⟩

/-! ### Room -/

/-- **Flow control is safe.** The next segment fits whenever it arrives, unless
    it carries a single byte: nothing but a probe of a closed window is ever
    refused for want of room. -/
theorem noRoom_only_probes {r : Receiver} {p : Parcel} (h : w.Reachable σ)
    (hend : σ.ends side = some e) (hr : e.connection.phase.receiver? = some r)
    (hmem : p ∈ σ.sent side.other) (hkind : p.segment.kind = .data) (hreach : e.InReach p) :
    (p.segment.seq = r.rcvNxt →
      p.segment.payload.length ≤ r.buffer.available ∨ p.segment.payload.length = 1) ∧
    ((r.onSegment p.segment).1 = .noRoom → p.segment.payload.length = 1) := by
  have hcoherent := coherent_of_reachable h
  have hpaced := paced_of_reachable h
  have hfit : p.segment.seq = r.rcvNxt →
      p.segment.payload.length ≤ r.buffer.available ∨ p.segment.payload.length = 1 := by
    intro hseq
    by_cases hpayload : p.segment.payload = []
    · left
      rw [hpayload]
      exact Nat.zero_le _
    · have hload := ((hpaced.bounded side.other p hmem).loads hkind hpayload).2
      have hposition := (hcoherent.valid side e hend).position_of_next
        (hcoherent.fits side.other p hmem) hkind hreach hr hseq
      have haccepted : e.accepted.length = e.read.length + r.buffer.used := by
        rw [Endpoint.accepted_of_receiver hr, List.length_append, StreamBuffer.length_contents]
      have hcapacity := (hpaced.fitted side e hend).room r hr
      have hroom := r.buffer.used_add_available
      have htwo := (w.profile side).shape.two_le_capacity
      rw [hposition, Side.other_other, edge_of_end hend] at hload
      omega
  refine ⟨hfit, ?_⟩
  intro hrefused
  obtain ⟨hseq, hlong⟩ := (r.onSegment_eq_noRoom_iff p.segment).mp hrefused
  rcases hfit hseq with hle | hone
  · omega
  · exact hone

/-- In the small session the receiver fills up with seven bytes. The eighth
    goes out as a probe of the closed window, and finds no room. -/
theorem small_noRoom_only_probes : ∃ σ e r p, small.Reachable σ ∧ σ.ends .answering = some e ∧
    e.connection.phase.receiver? = some r ∧ p ∈ σ.sent Side.answering.other ∧
    p.segment.kind = .data ∧ e.InReach p ∧ p.segment.seq = r.rcvNxt ∧ r.buffer.available = 0 ∧
    (r.onSegment p.segment).1 = .noRoom ∧
    (p.segment.payload.length ≤ r.buffer.available ∨ p.segment.payload.length = 1) ∧
    p.segment.payload.length = 1 := by
  let syn : Segment := ⟨5000, 80, .syn, 4, 4_294_967_294, []⟩
  let synAck : Segment := ⟨80, 5000, .ack, 7, 4_294_967_295, [0, 0, 0, 100]⟩
  let data : Segment := ⟨5000, 80, .data, 4, 4_294_967_295, [10, 20, 30, 40]⟩
  let ack : Segment := ⟨80, 5000, .ack, 3, 3, []⟩
  let more : Segment := ⟨5000, 80, .data, 8, 3, [50, 60, 70]⟩
  let full : Segment := ⟨80, 5000, .ack, 0, 6, []⟩
  let probe : Segment := ⟨5000, 80, .data, 8, 6, [80]⟩
  have asked := Reachable.start (w := small) .zero
  have spawned := asked.step (.spawn .zero ⟨syn, 0⟩ rfl (by decide +kernel) rfl)
  have answered := spawned.step (.respond .opening .zero (.segment synAck) rfl
    (Or.inr ⟨⟨synAck, 0⟩, by decide +kernel, rfl, nofun, fun _ => by decide +kernel⟩) rfl)
  have wrote := answered.step
    (.respond .opening .zero (.write [10, 20, 30, 40, 50, 60, 70]) rfl trivial rfl)
  have arrived := wrote.step (.respond .answering .zero (.segment data) rfl
    (Or.inr ⟨⟨data, 0⟩, by decide +kernel, rfl, fun _ => by decide +kernel, nofun⟩) rfl)
  have acked := arrived.step (.respond .opening .zero (.segment ack) rfl
    (Or.inr ⟨⟨ack, 4⟩, by decide +kernel, rfl, nofun, fun _ => by decide +kernel⟩)
    (ok_get_of_isSome (by decide +kernel)))
  have filled := acked.step (.respond .answering .zero (.segment more) rfl
    (Or.inr ⟨⟨more, 4⟩, by decide +kernel, rfl, fun _ => by decide +kernel, nofun⟩)
    (ok_get_of_isSome (by decide +kernel)))
  have shut := filled.step (.respond .opening .zero (.segment full) rfl
    (Or.inr ⟨⟨full, 7⟩, by decide +kernel, rfl, nofun, fun _ => by decide +kernel⟩)
    (ok_get_of_isSome (by decide +kernel)))
  have probing := shut.step (.respond .opening .zero (.write [80]) rfl trivial
    (ok_get_of_isSome (by decide +kernel)))
  have hsafe := noRoom_only_probes (r := Option.get _ (by decide +kernel)) (p := ⟨probe, 7⟩) probing
    (rfl : State.ends _ .answering = _) (Option.some_get _).symm (by decide +kernel) rfl
    ⟨fun _ => by decide +kernel, nofun⟩
  exact ⟨_, _, _, ⟨probe, 7⟩, probing, rfl, (Option.some_get (by decide +kernel)).symm,
    by decide +kernel, rfl, ⟨fun _ => by decide +kernel, nofun⟩, by decide +kernel,
    by decide +kernel, by decide +kernel, hsafe.1 (by decide +kernel), hsafe.2 (by decide +kernel)⟩

end Session

end ReliableStream
