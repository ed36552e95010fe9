import ReliableStream.Proofs.Exchange
import ReliableStream.Proofs.Integrity
/-! # The sites of an exchange

    Of each of the two sites of an exchange something is true whatever the
    other does: its node is in order, every end of a connection knows its place
    in both streams, and every letter is true of what was written on the socket
    that sent it. An input makes at most one socket act. What that socket does
    is said once, by the relation `Advance`. -/

namespace ReliableStream

/-- Only an open connection sends data or acknowledges. -/
theorem Connection.Moved.isOpen_of_sent {ctx : Context} {c c' : Connection} {stimulus : Stimulus}
    {effects : List Effect} {s : Segment} (hmoved : c.Moved ctx stimulus c' effects)
    (hs : s ∈ segmentsOf effects) (hkind : s.kind = .data ∨ s.kind = .ack) :
    ∃ r, c'.phase.openReceiver? = some r := by
  cases hmoved with
  | wroteSent hphase => exact ⟨_, by rw [hphase]; rfl⟩
  | opened => exact ⟨_, rfl⟩
  | answered hopen => exact ⟨_, hopen⟩
  | @data arrived r _ _ hopen =>
    refine ⟨(r.onSegment arrived).2, ?_⟩
    rw [Phase.openReceiver?_withReceiver, hopen]
    rfl
  | ackedSent hopen => exact ⟨_, hopen⟩
  | granted hopen => exact ⟨_, hopen⟩
  | repeated hopen => exact ⟨_, hopen⟩
  | requested _ _ hsent =>
    rw [hsent s hs] at hkind
    rcases hkind with hkind | hkind <;> cases hkind
  | finished _ _ _ _ hsent =>
    rw [hsent s hs] at hkind
    rcases hkind with hkind | hkind <;> cases hkind
  | _ => exact absurd hs List.not_mem_nil

/-- A connection that waits for its answer goes on waiting until it gets one
    with the number it waits for. -/
theorem Connection.Moved.waits_or_opened {ctx : Context} {c c' : Connection} {stimulus : Stimulus}
    {effects : List Effect} (hmoved : c.Moved ctx stimulus c' effects)
    (hwaits : c.phase.receiver? = none) :
    c'.phase.receiver? = none ∨ ∃ s peerIsn, stimulus = .segment s ∧ c.phase = .synSent ∧
      s.kind = .ack ∧ s.seq = Sequence.advance c.sender.isn 1 ∧
      s.payload = Wire.bytesOf32 peerIsn := by
  have hclosed : ∀ {r}, c.phase.openReceiver? ≠ some r := by
    intro r hopen
    rw [Phase.receiver?_of_openReceiver? hopen] at hwaits
    cases hwaits
  cases hmoved.received with
  | absent _ hafter => exact Or.inl hafter
  | created _ _ _ hafter =>
    cases hmoved with
    | opened hphase hkind hseq hpayload =>
      exact Or.inr ⟨_, _, rfl, hphase, hkind, hseq, hpayload⟩
    | ignored => exact Or.inl hwaits
    | answered hopen => exact absurd hopen hclosed
    | data hopen => exact absurd hopen hclosed
    | confirmed hopen => exact absurd hopen hclosed
    | acked hopen => exact absurd hopen hclosed
    | ackedSent hopen => exact absurd hopen hclosed
    | ended hopen => exact absurd hopen hclosed
    | refused => exact Or.inl rfl
  | kept hbefore =>
    rw [hwaits] at hbefore
    cases hbefore
  | appended hbefore =>
    rw [hwaits] at hbefore
    cases hbefore

namespace Exchange

open Session (Parcel)

variable {x : Exchange} {σ : State} {side : Side} {s s' : Site} {id : SocketId} {now : Duration}
  {input : Input} {cause : Option Letter} {latest : Identity → Option SocketId}

/-! ### What is true of a site -/

/-- The node of a site is in order, and is the one that the exchange began
    with. -/
structure Housed (x : Exchange) (side : Side) (n : Node) : Prop where
  orderly : n.Orderly
  tidy : n.Tidy
  addr : n.addr = x.addr side
  profile : n.profile = (x.node side).profile

theorem Housed.change {n n' : Node} {effects : List Effect} (h : x.Housed side n)
    (hchange : n.Change now input n' effects) (hclash : ¬ n.Clashes input) :
    x.Housed side n' where
  orderly := h.orderly.change hchange
  tidy := h.tidy.change hchange hclash
  addr := hchange.addr.trans h.addr
  profile := hchange.profile.trans h.profile

theorem housed_create (x : Exchange) (side : Side) : x.Housed side (x.node side) where
  orderly := Node.orderly_create (x.created side)
  tidy := Node.tidy_create (x.created side)
  addr := by
    obtain ⟨profile, -, hnode⟩ := exists_of_map_eq_ok (x.created side)
    rw [← hnode]
  profile := rfl

/-- The ends of a site know their places, nothing happened on a socket that is
    not an end yet, and the letters are true. -/
structure Settled (x : Exchange) (side : Side) (s : Site) : Prop where
  housed : x.Housed side s.node
  valid : ∀ id e, s.endpoint? id = some e → e.Valid x.session side
  blank : ∀ id, s.node.Blank id → s.written id = [] ∧ s.read id = [] ∧ s.sources id = []
  letters : ∀ letter ∈ s.sent, ∀ segment, letter.packet.segment? = some segment →
    letter.packet.src = x.addr side ∧ (segment.kind = .fin ∨
      ∃ id, letter.sender = some id ∧ ¬ s.node.Blank id ∧
        Parcel.Fits x.session side (s.written id) ⟨segment, letter.position⟩)

theorem settled_start (x : Exchange) (side : Side) : x.Settled side (x.start.site side) where
  housed := housed_create x side
  valid := by
    intro id e he
    unfold Site.endpoint? at he
    rw [show (x.start.site side).node.socket? id = none from
      Node.socket?_of_create (x.created side) id] at he
    cases he
  blank := fun _ _ => ⟨rfl, rfl, rfl⟩
  letters := fun _ hletter => absurd hletter List.not_mem_nil

namespace Site

/-- An end of a connection is a socket. -/
theorem endpoint?_eq_some_iff {e : Session.Endpoint} : s.endpoint? id = some e ↔
    s.node.socket? id = some (.connection e.connection) ∧ e.written = s.written id ∧
      e.read = s.read id := by
  unfold endpoint?
  constructor
  · intro h
    split at h
    · next c hsocket =>
      cases h
      exact ⟨hsocket, rfl, rfl⟩
    · cases h
  · rintro ⟨hsocket, hwritten, hread⟩
    rw [hsocket, ← hwritten, ← hread]

theorem delivered_of_endpoint? {e : Session.Endpoint} (h : s.endpoint? id = some e) :
    s.delivered id = e.accepted := by
  unfold delivered
  rw [h]

theorem delivered_of_none (h : s.endpoint? id = none) : s.delivered id = s.read id := by
  unfold delivered
  rw [h]

/-- What was read was delivered. -/
theorem read_prefix_delivered (s : Site) (id : SocketId) : s.read id <+: s.delivered id := by
  cases he : s.endpoint? id with
  | none => exact delivered_of_none he ▸ List.prefix_refl _
  | some e =>
    rw [delivered_of_endpoint? he, ← (endpoint?_eq_some_iff.mp he).2.2]
    exact List.prefix_append _ _

end Site

theorem Settled.sound (h : x.Settled side s) (id : SocketId) (c : Connection)
    (hsocket : s.node.socket? id = some (.connection c)) : c.sender.Sound :=
  (h.valid id ⟨c, s.written id, s.read id⟩
    (Site.endpoint?_eq_some_iff.mpr ⟨hsocket, rfl, rfl⟩)).sound

/-! ### Letters that arrive -/

/-- A packet that arrives is a timely letter from the other side. -/
def State.Hears (x : Exchange) (σ : State) (side : Side) (input : Input)
    (cause : Option Letter) : Prop :=
  ∀ packet segment, input = .packet packet → packet.segment? = some segment →
    ∃ letter ∈ (σ.site side.other).sent, cause = some letter ∧ letter.packet = packet ∧
      x.Timely σ side letter segment

/-- A letter meets the end of the connection that it is for. -/
structure Meets (x : Exchange) (σ : State) (side : Side) (e : Session.Endpoint) (letter : Letter)
    (segment : Segment) : Prop where
  mem : letter ∈ (σ.site side.other).sent
  carried : letter.packet.segment? = some segment
  identity : PortTable.identityOf segment letter.packet.src = e.connection.identity
  live : e.connection.phase.isClosed = false
  timely : x.Timely σ side letter segment
  inReach : e.InReach ⟨segment, letter.position⟩

theorem meets_of_reaches {segment : Segment} {e : Session.Endpoint}
    (h : x.Settled side (σ.site side)) (hhears : σ.Hears x side input cause)
    (hreaches : (σ.site side).node.Reaches input id (.segment segment))
    (he : (σ.site side).endpoint? id = some e) :
    ∃ letter, cause = some letter ∧ x.Meets σ side e letter segment := by
  cases hreaches with
  | @segment packet _ _ hsegment hroute =>
    obtain ⟨letter, hmem, hcause, rfl, htimely⟩ := hhears packet segment rfl hsegment
    have hentry := Node.route_eq_connection hroute
    obtain ⟨c, hc, hlive, hidentity⟩ :=
      Node.held?_eq_some_iff.mp (h.housed.orderly.connected _ id hentry)
    have hsocket := (Site.endpoint?_eq_some_iff.mp he).1
    rw [hc] at hsocket
    cases hsocket
    refine ⟨letter, hcause, hmem, hsegment, hidentity.symm, hlive, htimely, htimely.near e ?_⟩
    unfold State.reached?
    rw [hentry]
    exact he

/-- A letter that is no end is true of what its sender wrote. -/
theorem Meets.fits {segment : Segment} {e : Session.Endpoint} {letter : Letter}
    (h : x.Meets σ side e letter segment) (hother : x.Settled side.other (σ.site side.other))
    (hkind : segment.kind ≠ .fin) :
    letter.packet.src = x.addr side.other ∧ ∃ sender, letter.sender = some sender ∧
      ¬ (σ.site side.other).node.Blank sender ∧ Parcel.Fits x.session side.other
        ((σ.site side.other).written sender) ⟨segment, letter.position⟩ := by
  obtain ⟨hsrc, hfin | hfits⟩ := hother.letters letter h.mem segment h.carried
  · exact absurd hfin hkind
  · exact ⟨hsrc, hfits⟩

/-- No acknowledgment that arrives is from the opposite side of the turn. -/
theorem not_opposite_of_hears (h : ∀ side, x.Settled side (σ.site side))
    (hhears : σ.Hears x side input cause) : ¬ (σ.site side).node.Opposite input := by
  rintro ⟨id, stimulus, c, hreaches, hsocket, hopposite⟩
  cases stimulus with
  | segment segment =>
    obtain ⟨hkind, hsteps⟩ := hopposite
    have he : (σ.site side).endpoint? id = some ⟨c, _, _⟩ :=
      Site.endpoint?_eq_some_iff.mpr ⟨hsocket, rfl, rfl⟩
    obtain ⟨letter, -, hmeets⟩ := meets_of_reaches (h side) hhears hreaches he
    obtain ⟨-, sender, -, -, hfits⟩ := hmeets.fits (h side.other) (by rw [hkind]; decide)
    have hvalid := (h side).valid id _ he
    rw [(hfits.ack hkind).1, hvalid.holds.sndUna, hvalid.isn, Side.other_other] at hsteps
    exact (hmeets.inReach.ack hkind).not_opposite hsteps
  | _ => exact hopposite

/-! ### What a site does -/

/-- A letter that the end of a connection posts. -/
structure Posted (x : Exchange) (side : Side) (latest : Identity → Option SocketId)
    (id : SocketId) (e : Session.Endpoint) (letter : Letter) (segment : Segment) : Prop where
  carried : letter.packet.segment? = some segment
  states : e.connection.States segment
  isOpen : segment.kind = .data ∨ segment.kind = .ack →
    ∃ r, e.connection.phase.openReceiver? = some r
  sender : letter.sender = some id
  position : letter.position = e.positionOf segment
  src : letter.packet.src = x.addr side
  dest : e.connection.identity.remoteAddr = x.addr side.other
  line : x.line side.other (PortTable.identityOf segment letter.packet.src) =
    x.line side e.connection.identity
  era : letter.era = latest (x.line side e.connection.identity)

/-- One socket acts, and is the end `e` after it. -/
structure Acts (x : Exchange) (side : Side) (latest : Identity → Option SocketId) (s s' : Site)
    (id : SocketId) (e : Session.Endpoint) : Prop where
  self : s'.endpoint? id = some e
  others : ∀ id' e', id' ≠ id → s'.endpoint? id' = some e' → s.endpoint? id' = some e'
  written : ∀ id', s'.written id' = if id = id' then e.written else s.written id'
  read : ∀ id', s'.read id' = if id = id' then e.read else s.read id'
  sources : ∀ id', id' ≠ id → s'.sources id' = s.sources id'
  sent : ∀ letter ∈ s'.sent, letter ∈ s.sent ∨
    ∃ segment, Posted x side latest id e letter segment

/-- What a site does in answer to an input. -/
inductive Advance (x : Exchange) (side : Side) (latest : Identity → Option SocketId)
    (now : Duration) (input : Input) (cause : Option Letter) (s s' : Site) : Prop where
  /-- No socket acts, though some may go. -/
  | idle (hasks : s.node.asks? input = none)
      (hkept : ∀ id e, s'.endpoint? id = some e → s.endpoint? id = some e)
      (hwritten : ∀ id, s'.written id = s.written id) (hread : ∀ id, s'.read id = s.read id)
      (hsources : ∀ id, s'.sources id = s.sources id)
      (hsent : ∀ letter ∈ s'.sent, letter ∈ s.sent ∨ letter.packet.src = x.addr side ∧
        ∀ segment, letter.packet.segment? = some segment → segment.kind = .fin)
  /-- A blank socket becomes an end: it asks for a connection, or answers. -/
  | entered {id : SocketId} {c : Connection} (hblank : s.node.Blank id)
      (hacts : Acts x side latest s s' id ⟨c, [], []⟩)
      (hvalid : Session.Endpoint.Valid x.session side ⟨c, [], []⟩)
      (hempty : Session.Endpoint.accepted ⟨c, [], []⟩ = []) (hlive : c.phase.isClosed = false)
      (hsources : s'.sources id = s.sources id)
      (hkind : s.node.asks? input = some (id, c.identity) ∧ c.phase = .synSent ∨
        s.node.asks? input = none ∧ c.origin = .spawned)
  | moved {id : SocketId} {e : Session.Endpoint} {stimulus : Stimulus} {c : Connection}
      {effects : List Effect} (hasks : s.node.asks? input = none)
      (hreaches : s.node.Reaches input id stimulus) (hbefore : s.endpoint? id = some e)
      (hmoved : e.connection.Moved (s.node.context id now) stimulus c effects)
      (hfollows : e.connection.Follows c)
      (hacts : Acts x side latest s s' id (e.after (s.node.context id now) stimulus c))
      (hsources : s'.sources id =
        if e.accepted.length < (e.after (s.node.context id now) stimulus c).accepted.length then
          s.sources id ++ cause.toList
        else s.sources id)

/-! ### Every answer is an advance -/

section
variable {node : Node} {effects : List Effect} {c : Connection}

theorem Site.mem_sent_after {letter : Letter}
    (h : letter ∈ (s.after x side latest now input cause node effects).sent) :
    letter ∈ s.sent ∨ ∃ packet ∈ packetsOf effects, packet.dest = x.addr side.other ∧
      letter = (s.moved now input node).letter (s.node.actor? input)
        (fun packet => (x.lineOf? side packet).bind latest) packet := by
  rcases List.mem_append.mp h with hold | hnew
  · exact Or.inl hold
  · obtain ⟨packet, hpacket, rfl⟩ := List.mem_map.mp hnew
    obtain ⟨hmem, hdest⟩ := List.mem_filter.mp hpacket
    exact Or.inr ⟨packet, hmem, of_decide_eq_true hdest, rfl⟩

/-- What one side sends on a line is on the same line for the other. -/
theorem line_across {identity : Identity} (h : identity.remoteAddr = x.addr side.other) :
    x.line side.other ⟨identity.remotePort, x.addr side, identity.localPort⟩ =
      x.line side identity := by
  cases side with
  | opening =>
    obtain ⟨localPort, remoteAddr, remotePort⟩ := identity
    cases h
    rfl
  | answering => rfl

/-- The bytes of a socket that does not act stay as they are. -/
theorem Site.bytes_moved_of_ne {id' : SocketId} (hactor : s.node.actor? input = some id)
    (hne : id' ≠ id) (now : Duration) (node : Node) :
    (s.moved now input node).written id' = s.written id' ∧
      (s.moved now input node).read id' = s.read id' := by
  have hother : s.node.actor? input ≠ some id' := by
    rw [hactor]
    exact fun heq => hne (Option.some.inj heq).symm
  exact ⟨if_neg hother, if_neg hother⟩

/-- A connection that is left as the only one that acted posts what was sent. -/
theorem acts_after {ctx : Context} (hactor : s.node.actor? input = some id)
    (hself : node.socket? id = some (.connection c))
    (hothers : ∀ id' c', id' ≠ id → node.socket? id' = some (.connection c') →
      s.node.socket? id' = some (.connection c'))
    (haddr : ctx.addr = x.addr side) (haddressed : Connection.Addressed ctx c.identity effects)
    (hsent : ∀ segment ∈ segmentsOf effects, c.States segment ∧
      (segment.kind = .data ∨ segment.kind = .ack → ∃ r, c.phase.openReceiver? = some r)) :
    Acts x side latest s (s.after x side latest now input cause node effects) id
      ⟨c, s.written id ++ s.node.taken now input, s.read id ++ s.node.handed now input⟩ := by
  have hend : (s.moved now input node).endpoint? id =
      some ⟨c, s.written id ++ s.node.taken now input, s.read id ++ s.node.handed now input⟩ :=
    Site.endpoint?_eq_some_iff.mpr ⟨hself, (if_pos hactor).symm, (if_pos hactor).symm⟩
  refine ⟨hend, ?_, ?_, ?_, ?_, ?_⟩
  · intro id' e' hne he'
    obtain ⟨hsocket, hwritten, hread⟩ := Site.endpoint?_eq_some_iff.mp he'
    obtain ⟨hsame, hsame'⟩ := Site.bytes_moved_of_ne hactor hne now node
    exact Site.endpoint?_eq_some_iff.mpr
      ⟨hothers id' _ hne hsocket, hwritten.trans hsame, hread.trans hsame'⟩
  · intro id'
    split
    · next hid =>
      subst hid
      exact if_pos hactor
    · next hid => exact (Site.bytes_moved_of_ne hactor (Ne.symm hid) now node).1
  · intro id'
    split
    · next hid =>
      subst hid
      exact if_pos hactor
    · next hid => exact (Site.bytes_moved_of_ne hactor (Ne.symm hid) now node).2
  · intro id' hne
    refine if_neg fun hgrown => hne ?_
    exact (Option.some.inj (hactor.symm.trans hgrown.1)).symm
  · intro letter hletter
    rcases Site.mem_sent_after hletter with hold | ⟨packet, hpacket, hdest, rfl⟩
    · exact Or.inl hold
    -- The letter was sealed with the place that the end has after its move.
    · obtain ⟨hsrc, hremote, segment, hcarried, hports⟩ := haddressed packet hpacket
      obtain ⟨hstates, hopen⟩ := hsent segment (mem_segmentsOf hpacket hcarried)
      have hline : x.line side.other (PortTable.identityOf segment packet.src) =
          x.line side c.identity := by
        unfold PortTable.identityOf
        rw [hports.srcPort, hports.dstPort, hsrc, haddr]
        exact line_across (hremote.symm.trans hdest)
      refine Or.inr ⟨segment, hcarried, hstates, hopen, hactor, ?_, hsrc.trans haddr,
        hremote.symm.trans hdest, hline, ?_⟩
      · unfold Site.letter
        simp only [hactor, Option.bind_some, hend, hcarried]
      · unfold Site.letter lineOf?
        simp only [hcarried, Option.map_some, Option.bind_some, hline]

/-- A socket to which nothing is delivered has no sources. -/
theorem sources_of_empty {e : Session.Endpoint}
    (he : (s.after x side latest now input cause node effects).endpoint? id = some e)
    (hempty : e.accepted = []) :
    (s.after x side latest now input cause node effects).sources id = s.sources id := by
  have hdelivered : (s.moved now input node).delivered id = e.accepted :=
    Site.delivered_of_endpoint? he
  refine if_neg ?_
  rintro ⟨-, hgrown⟩
  rw [hdelivered, hempty] at hgrown
  exact absurd hgrown (Nat.not_lt_zero _)

/-- A turn in which no connection acts leaves all ends that stay as they are. -/
theorem advance_of_idle (haddr : s.node.addr = x.addr side) (hasks : s.node.asks? input = none)
    (htaken : s.node.taken now input = []) (hhanded : s.node.handed now input = [])
    (hkept : ∀ id c, node.socket? id = some (.connection c) →
      s.node.socket? id = some (.connection c))
    (hsent : ∀ packet ∈ packetsOf effects,
      packet.src = s.node.addr ∧ ∀ s, packet.segment? = some s → s.kind = .fin) :
    Advance x side latest now input cause s
      (s.after x side latest now input cause node effects) := by
  have hwritten : ∀ id, (s.moved now input node).written id = s.written id := by
    intro id
    unfold Site.moved
    simp only [htaken, List.append_nil, ite_self]
  have hread : ∀ id, (s.moved now input node).read id = s.read id := by
    intro id
    unfold Site.moved
    simp only [hhanded, List.append_nil, ite_self]
  have hends : ∀ id e, (s.moved now input node).endpoint? id = some e →
      s.endpoint? id = some e := by
    intro id e he
    obtain ⟨hsocket, hbytes, hbytes'⟩ := Site.endpoint?_eq_some_iff.mp he
    exact Site.endpoint?_eq_some_iff.mpr
      ⟨hkept id _ hsocket, hbytes.trans (hwritten id), hbytes'.trans (hread id)⟩
  refine .idle hasks hends hwritten hread (fun id => if_neg ?_) ?_
  · -- What is delivered to a socket that is gone is what was read.
    rintro ⟨-, hgrown⟩
    refine absurd hgrown (Nat.not_lt.mpr ?_)
    cases he : (s.moved now input node).endpoint? id with
    | none =>
      rw [Site.delivered_of_none he, hread]
      exact (s.read_prefix_delivered id).length_le
    | some e =>
      have hsame := (Site.delivered_of_endpoint? he).trans
        (Site.delivered_of_endpoint? (hends id e he)).symm
      exact Nat.le_of_eq (congrArg List.length hsame)
  · intro letter hletter
    rcases Site.mem_sent_after hletter with hold | ⟨packet, hpacket, -, rfl⟩
    · exact Or.inl hold
    · obtain ⟨hsrc, hfin⟩ := hsent packet hpacket
      exact Or.inr ⟨hsrc.trans haddr, hfin⟩

/-- A turn in which a blank socket becomes an end. -/
theorem advance_of_entered {ctx : Context} (h : x.Settled side s) (hblank : s.node.Blank id)
    (hactor : s.node.actor? input = some id) (htaken : s.node.taken now input = [])
    (hhanded : s.node.handed now input = []) (hself : node.socket? id = some (.connection c))
    (hothers : ∀ id' c', id' ≠ id → node.socket? id' = some (.connection c') →
      s.node.socket? id' = some (.connection c'))
    (haddr : ctx.addr = x.addr side) (haddressed : Connection.Addressed ctx c.identity effects)
    (hsent : ∀ segment ∈ segmentsOf effects, c.States segment ∧
      (segment.kind = .data ∨ segment.kind = .ack → ∃ r, c.phase.openReceiver? = some r))
    (hvalid : Session.Endpoint.Valid x.session side ⟨c, [], []⟩)
    (hempty : Session.Endpoint.accepted ⟨c, [], []⟩ = []) (hlive : c.phase.isClosed = false)
    (hkind : s.node.asks? input = some (id, c.identity) ∧ c.phase = .synSent ∨
      s.node.asks? input = none ∧ c.origin = .spawned) :
    Advance x side latest now input cause s
      (s.after x side latest now input cause node effects) := by
  have hacts : Acts x side latest s (s.after x side latest now input cause node effects) id _ :=
    acts_after hactor hself hothers haddr haddressed hsent
  obtain ⟨hwritten, hread, -⟩ := h.blank id hblank
  rw [hwritten, hread, htaken, hhanded] at hacts
  exact .entered hblank hacts hvalid hempty hlive (sources_of_empty hacts.self hempty) hkind

/-- A turn in which a connection moves. -/
theorem advance_of_moved {stimulus : Stimulus} {c' : Connection} (haddr : s.node.addr = x.addr side)
    (hreaches : s.node.Reaches input id stimulus)
    (hsocket : s.node.socket? id = some (.connection c))
    (hmoved : c.Moved (s.node.context id now) stimulus c' effects) (hfollows : c.Follows c')
    (haddressed : Connection.Addressed (s.node.context id now) c'.identity effects)
    (hsockets : ∀ id', node.socket? id' =
      if id = id' then some (.connection c') else s.node.socket? id') :
    Advance x side latest now input cause s
      (s.after x side latest now input cause node effects) := by
  have hbefore : s.endpoint? id = some ⟨c, s.written id, s.read id⟩ :=
    Site.endpoint?_eq_some_iff.mpr ⟨hsocket, rfl, rfl⟩
  have hothers : ∀ id' c', id' ≠ id → node.socket? id' = some (.connection c') →
      s.node.socket? id' = some (.connection c') := by
    intro id' c' hne hc'
    rw [hsockets, if_neg (Ne.symm hne)] at hc'
    exact hc'
  have hacts : Acts x side latest s (s.after x side latest now input cause node effects) id _ :=
    acts_after hreaches.actor? ((hsockets id).trans (if_pos rfl)) hothers haddr haddressed
      fun segment hsegment => ⟨hmoved.states segment hsegment, hmoved.isOpen_of_sent hsegment⟩
  rw [hreaches.taken hsocket, hreaches.handed hsocket] at hacts
  refine .moved hreaches.asks?_eq_none hreaches hbefore hmoved hfollows hacts ?_
  have hdelivered : (s.moved now input node).delivered id = _ :=
    Site.delivered_of_endpoint? hacts.self
  unfold Site.after
  simp only [hreaches.actor?, true_and, Site.delivered_of_endpoint? hbefore, hdelivered]
  rfl

/-- **Every answer of a site is one of its advances.** -/
theorem advance_of_react (h : ∀ side, x.Settled side (σ.site side))
    (hhears : σ.Hears x side input cause)
    (hreact : (σ.site side).node.react now input = .ok (node, effects)) :
    Advance x side latest now input cause (σ.site side)
      ((σ.site side).after x side latest now input cause node effects) := by
  have hsettled := h side
  have hhoused := hsettled.housed
  cases Node.turn_of_react hhoused.tidy hreact with
  | idle hasks htaken hhanded hkept hsent =>
    exact advance_of_idle hhoused.addr hasks htaken hhanded hkept hsent
  | @opened id port identity c hasks hsocket hopened hsockets =>
    have haddressed := Connection.addressed_request hopened
    obtain ⟨⟨stats, rfl⟩, -, hsent⟩ := Connection.eq_of_request hopened
    obtain ⟨htaken, hhanded⟩ := Node.bytes_of_asks? hasks now
    refine advance_of_entered hsettled (Or.inr ⟨some port, hsocket⟩) (Node.actor?_of_asks? hasks)
      htaken hhanded ((hsockets id).trans (if_pos rfl)) ?_ hhoused.addr haddressed ?_
      (Session.Endpoint.valid_asking hhoused.profile)
      (Session.Endpoint.accepted_of_unanswered rfl) rfl (Or.inl ⟨hasks, rfl⟩)
    · intro id' c' hne hc'
      rw [hsockets, if_neg (Ne.symm hne)] at hc'
      exact hc'
    · intro segment hsegment
      rw [hsent segment hsegment]
      refine ⟨.syn rfl, fun hkind => ?_⟩
      rcases hkind with hkind | hkind <;> cases hkind
  | @spawned packet segment c hinput hsegment hkind hactor hopened hself hkept =>
    have haddressed := Connection.addressed_answer hopened
    obtain ⟨⟨stats, rfl⟩, -, hsent⟩ := Connection.eq_of_answer hopened
    obtain ⟨letter, hmem, -, rfl, -⟩ := hhears packet segment hinput hsegment
    -- The request names the stream of the other side.
    have hpeer : segment.seq = x.session.isn side.other := by
      obtain ⟨-, hfin | ⟨sender, -, -, hfits⟩⟩ :=
        (h side.other).letters letter hmem segment hsegment
      · exact absurd (hkind.symm.trans hfin) (by decide)
      · exact hfits.syn hkind
    subst hinput
    refine advance_of_entered hsettled (Or.inl (Nat.le_refl _)) hactor rfl rfl hself hkept
      hhoused.addr haddressed ?_ (Session.Endpoint.valid_answering hhoused.profile hpeer)
      Session.Endpoint.accepted_answering rfl (Or.inr ⟨rfl, rfl⟩)
    intro s hs
    rw [hsent s hs]
    exact ⟨.synAck rfl, fun _ => ⟨_, rfl⟩⟩
  | @moved id stimulus c c' hreaches hsocket hrespond hsockets =>
    have hfacing := not_opposite_of_hears h hhears
    have hmoved := Connection.moved_of_respond (hsettled.sound id c hsocket)
      (fun hopposite => hfacing ⟨id, stimulus, c, hreaches, hsocket, hopposite⟩) hrespond
    have hfollows := Connection.follows_of_respond hrespond
    have haddressed := Connection.addressed_of_respond hrespond
    rw [← hfollows.identity] at haddressed
    exact advance_of_moved hhoused.addr hreaches hsocket hmoved hfollows haddressed hsockets

end

/-! ### Sites stay settled -/

/-- An end that acted is no blank socket. -/
theorem Acts.not_blank {e : Session.Endpoint} (h : Acts x side latest s s' id e)
    (hhoused : x.Housed side s'.node) : ¬ s'.node.Blank id :=
  Node.not_blank_of_connection hhoused.orderly.numbered (Site.endpoint?_eq_some_iff.mp h.self).1

/-- An end of a site is the one that acted, or was there before. -/
theorem Acts.endpoint_cases {id' : SocketId} {e e' : Session.Endpoint}
    (h : Acts x side latest s s' id e) (he' : s'.endpoint? id' = some e') :
    id' = id ∧ e' = e ∨ id' ≠ id ∧ s.endpoint? id' = some e' := by
  by_cases hid : id' = id
  · subst hid
    exact Or.inl ⟨rfl, Option.some.inj (he'.symm.trans h.self)⟩
  · exact Or.inr ⟨hid, h.others id' e' hid he'⟩

/-- What has to be shown of a socket that acts: it knows its place, and nothing
    that was written on it is taken back. -/
theorem Settled.acts {e : Session.Endpoint} (h : x.Settled side s) (hhoused : x.Housed side s'.node)
    (hblank : ∀ id, s'.node.Blank id → s.node.Blank id) (hacts : Acts x side latest s s' id e)
    (hvalid : e.Valid x.session side) (hwritten : s.written id <+: e.written) :
    x.Settled side s' where
  housed := hhoused
  valid := by
    intro id' e' he'
    rcases hacts.endpoint_cases he' with ⟨rfl, rfl⟩ | ⟨-, hbefore⟩
    · exact hvalid
    · exact h.valid id' e' hbefore
  blank := by
    intro id' hid'
    have hne : id' ≠ id := by
      rintro rfl
      exact hacts.not_blank hhoused hid'
    rw [hacts.written, hacts.read, hacts.sources id' hne, if_neg (Ne.symm hne),
      if_neg (Ne.symm hne)]
    exact h.blank id' (hblank id' hid')
  letters := by
    intro letter hletter segment hsegment
    rcases hacts.sent letter hletter with hold | ⟨segment', hposted⟩
    · obtain ⟨hsrc, hfin | ⟨sender, hsender, hspent, hfits⟩⟩ :=
        h.letters letter hold segment hsegment
      · exact ⟨hsrc, Or.inl hfin⟩
      · refine ⟨hsrc, Or.inr ⟨sender, hsender, fun hnow => hspent (hblank sender hnow), ?_⟩⟩
        refine hfits.mono ?_
        rw [hacts.written]
        split
        · next hid => exact hid ▸ hwritten
        · exact List.prefix_refl _
    · obtain rfl : segment' = segment :=
        Option.some.inj (hposted.carried.symm.trans hsegment)
      refine ⟨hposted.src, Or.inr ⟨id, hposted.sender, hacts.not_blank hhoused, ?_⟩⟩
      rw [hacts.written, if_pos rfl, hposted.position]
      exact hvalid.fits hposted.states

/-- The answer to a request that arrives names the stream of the other side. -/
theorem peerIsn_of_hears {segment : Segment} {peerIsn : UInt32} {e : Session.Endpoint}
    (h : ∀ side, x.Settled side (σ.site side)) (hhears : σ.Hears x side input cause)
    (hreaches : (σ.site side).node.Reaches input id (.segment segment))
    (he : (σ.site side).endpoint? id = some e) (hkind : segment.kind = .ack)
    (hpayload : segment.payload = Wire.bytesOf32 peerIsn) :
    peerIsn = x.session.isn side.other := by
  obtain ⟨letter, -, hmeets⟩ := meets_of_reaches (h side) hhears hreaches he
  obtain ⟨-, sender, -, -, hfits⟩ := hmeets.fits (h side.other) (by rw [hkind]; decide)
  rcases (hfits.ack hkind).2 with hnil | hisn
  · rw [hnil] at hpayload
    cases hpayload
  · exact Wire.bytesOf32_inj (hpayload.symm.trans hisn)

/-- **An advance keeps a site settled.** -/
theorem Settled.advance (h : ∀ side, x.Settled side (σ.site side))
    (hhears : σ.Hears x side input cause)
    (hadvance : Advance x side latest now input cause (σ.site side) s')
    (hhoused : x.Housed side s'.node)
    (hblank : ∀ id, s'.node.Blank id → (σ.site side).node.Blank id) : x.Settled side s' := by
  cases hadvance with
  | idle hasks hkept hwritten hread hsources hsent =>
    refine ⟨hhoused, fun id e he => (h side).valid id e (hkept id e he), ?_, ?_⟩
    · intro id hid
      rw [hwritten, hread, hsources]
      exact (h side).blank id (hblank id hid)
    · intro letter hletter segment hsegment
      rcases hsent letter hletter with hold | ⟨hsrc, hfin⟩
      · obtain ⟨hsrc, hfin | ⟨sender, hsender, hspent, hfits⟩⟩ :=
          (h side).letters letter hold segment hsegment
        · exact ⟨hsrc, Or.inl hfin⟩
        · rw [← hwritten sender] at hfits
          exact ⟨hsrc, Or.inr ⟨sender, hsender, fun hnow => hspent (hblank sender hnow), hfits⟩⟩
      · exact ⟨hsrc, Or.inl (hfin segment hsegment)⟩
  | @entered id c hfresh hacts hvalid =>
    refine (h side).acts hhoused hblank hacts hvalid ?_
    exact ((h side).blank id hfresh).1 ▸ List.nil_prefix
  | @moved id e stimulus c effects _ hreaches hbefore hmoved _ hacts =>
    refine (h side).acts hhoused hblank hacts (((h side).valid id e hbefore).after hmoved ?_) ?_
    · rintro segment peerIsn rfl hkind hpayload
      exact peerIsn_of_hears h hhears hreaches hbefore hkind hpayload
    · rw [← (Site.endpoint?_eq_some_iff.mp hbefore).2.1]
      exact List.prefix_append _ _

/-! ### What is delivered -/

/-- A letter whose bytes are taken into a stream. -/
structure Accepted (x : Exchange) (σ : State) (side : Side) (e e' : Session.Endpoint)
    (letter : Letter) (segment : Segment) (writer : SocketId) : Prop where
  meets : x.Meets σ side e letter segment
  kind : segment.kind = .data
  src : letter.packet.src = x.addr side.other
  sender : letter.sender = some writer
  accepted : e'.accepted = e.accepted ++ segment.payload
  nonempty : segment.payload ≠ []
  payload : segment.payload <+: ((σ.site side.other).written writer).drop e.accepted.length

/-- What arrived at an end that moves stays as it is, or more bytes of a letter
    are taken into its stream. -/
theorem accepted_cases {e e' : Session.Endpoint} {ctx : Context} {stimulus : Stimulus}
    {c : Connection} {effects : List Effect} (h : ∀ side, x.Settled side (σ.site side))
    (hhears : σ.Hears x side input cause)
    (hreaches : (σ.site side).node.Reaches input id stimulus)
    (hbefore : (σ.site side).endpoint? id = some e)
    (hmoved : e.connection.Moved ctx stimulus c effects) (hafter : e' = e.after ctx stimulus c) :
    e'.accepted = e.accepted ∨ e.accepted.length < e'.accepted.length ∧
      ∃ letter segment writer, cause = some letter ∧
        x.Accepted σ side e e' letter segment writer := by
  subst hafter
  rcases Session.Endpoint.accepted_after hmoved.received with
    hsame | ⟨segment, r, rfl, hkind, hr, hseq, hmore⟩
  · exact Or.inl hsame
  · obtain ⟨letter, hcause, hmeets⟩ := meets_of_reaches (h side) hhears hreaches hbefore
    obtain ⟨hsrc, writer, hsender, -, hfits⟩ := hmeets.fits (h side.other) (by rw [hkind]; decide)
    have hposition :=
      ((h side).valid id e hbefore).position_of_next hfits hkind hmeets.inReach hr hseq
    have hpayload := (hfits.data hkind).2
    rw [hposition] at hpayload
    -- An empty payload is taken in as well, and changes nothing.
    cases hbytes : segment.payload with
    | nil =>
      rw [hbytes, List.append_nil] at hmore
      exact Or.inl hmore
    | cons byte rest =>
      have hnonempty : segment.payload ≠ [] := by
        rw [hbytes]
        exact List.cons_ne_nil _ _
      refine Or.inr ⟨?_, letter, segment, writer, hcause, hmeets, hkind, hsrc, hsender, hmore,
        hnonempty, hpayload⟩
      rw [hmore, hbytes, List.length_append, List.length_cons]
      omega

/-- What a move of an end does to what was delivered there, and to its
    sources. -/
theorem sources_cases {e : Session.Endpoint} {ctx : Context} {stimulus : Stimulus} {c : Connection}
    {effects : List Effect} {sources : List Letter} (h : ∀ side, x.Settled side (σ.site side))
    (hhears : σ.Hears x side input cause)
    (hreaches : (σ.site side).node.Reaches input id stimulus)
    (hbefore : (σ.site side).endpoint? id = some e)
    (hmoved : e.connection.Moved ctx stimulus c effects)
    (hsources : sources = if e.accepted.length < (e.after ctx stimulus c).accepted.length then
      (σ.site side).sources id ++ cause.toList else (σ.site side).sources id) :
    (e.after ctx stimulus c).accepted = e.accepted ∧ sources = (σ.site side).sources id ∨
      ∃ letter segment writer, sources = (σ.site side).sources id ++ [letter] ∧
        x.Accepted σ side e (e.after ctx stimulus c) letter segment writer := by
  rcases accepted_cases h hhears hreaches hbefore hmoved rfl with
    hsame | ⟨hgrown, letter, segment, writer, hcause, haccepted⟩
  · rw [hsame, if_neg (Nat.lt_irrefl _)] at hsources
    exact Or.inl ⟨hsame, hsources⟩
  · rw [if_pos hgrown, hcause] at hsources
    exact Or.inr ⟨letter, segment, writer, hsources, haccepted⟩

/-- To a socket that does not act nothing is delivered. -/
theorem delivered_of_kept
    (hkept : ∀ e, s'.endpoint? id = some e → s.endpoint? id = some e)
    (hread : s'.read id = s.read id) : s'.delivered id <+: s.delivered id := by
  cases he : s'.endpoint? id with
  | none =>
    rw [Site.delivered_of_none he, hread]
    exact s.read_prefix_delivered id
  | some e =>
    have hsame := (Site.delivered_of_endpoint? he).trans
      (Site.delivered_of_endpoint? (hkept e he)).symm
    exact hsame ▸ List.prefix_refl _

/-- Nothing that was written is taken back. -/
theorem Settled.written_grows (h : x.Settled side s)
    (hadvance : Advance x side latest now input cause s s') (id : SocketId) :
    s.written id <+: s'.written id := by
  cases hadvance with
  | idle _ _ hwritten => exact hwritten id ▸ List.prefix_refl _
  | entered hblank hacts =>
    rw [hacts.written]
    split
    · next hid =>
      subst hid
      exact (h.blank _ hblank).1 ▸ List.nil_prefix
    · exact List.prefix_refl _
  | moved _ _ hbefore _ _ hacts =>
    rw [hacts.written]
    split
    · next hid =>
      subst hid
      rw [← (Site.endpoint?_eq_some_iff.mp hbefore).2.1]
      exact List.prefix_append _ _
    · exact List.prefix_refl _

end Exchange

end ReliableStream
