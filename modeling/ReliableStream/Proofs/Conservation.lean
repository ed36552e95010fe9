import ReliableStream.Proofs.Damage
import ReliableStream.Proofs.Effects
import ReliableStream.Proofs.Timeline
/-! # The network conserves packets

    Everything that is handed to a network is a **shipment**: the trace tells
    what was sent and what became of it, and what arrives of it was put on the
    agenda. The counters are those of the shipments, no packet arrives that
    belongs to none, and none gets lost after it was put on its way.

    Nothing is assumed of the packets, nor of the filter and the generator of
    random numbers. What arrives has the envelope of what was sent, with at
    most one bit of the payload flipped; and since the checksum notices that,
    a segment that is read is the one that was sent. -/

namespace ReliableStream

/-! ### Single bits -/

namespace Wire

/-- A bit of a payload, counted from the lowest one of the first byte. -/
def bit (bytes : List UInt8) (k : Nat) : Bool := (bytes.getD (k / 8) 0).toNat.testBit (k % 8)

/-- Payloads of one length that differ in exactly one bit. -/
def OneBitOff (a b : List UInt8) : Prop :=
  b.length = a.length ∧ ∃ k, ∀ j, bit a j ≠ bit b j ↔ j = k

/-- A mask flips its own bit of a byte, and no other. -/
theorem testBit_flip (b : UInt8) {own other : Nat} (hown : own < 8) :
    (b ^^^ (1 <<< UInt8.ofNat own)).toNat.testBit other =
      (b.toNat.testBit other ^^ decide (own = other)) := by
  have hmask : ∀ n < 8, ((1 : UInt8) <<< UInt8.ofNat n).toNat = 2 ^ n := by decide
  rw [UInt8.toNat_xor, Nat.testBit_xor, hmask own hown, Nat.testBit_two_pow]

theorem bit_modify (bytes : List UInt8) {i own : Nat} (hi : i < bytes.length) (hown : own < 8)
    (k : Nat) : bit (bytes.modify i (· ^^^ (1 <<< UInt8.ofNat own))) k =
      (bit bytes k ^^ decide (8 * i + own = k)) := by
  unfold bit
  rw [List.getD_eq_getElem?_getD, List.getD_eq_getElem?_getD, List.getElem?_modify]
  by_cases hbyte : i = k / 8
  · subst hbyte
    have hk : own = k % 8 ↔ 8 * (k / 8) + own = k := by omega
    simp only [List.getElem?_eq_getElem hi, Option.map_eq_map, Option.map_some, if_true,
      Option.getD_some, testBit_flip _ hown, hk]
  · have hk : 8 * i + own ≠ k := by omega
    simp [hbyte, hk]

/-- Where one bit is flipped, exactly one differs. -/
theorem oneBitOff_modify {bytes : List UInt8} {i own : Nat} (hi : i < bytes.length)
    (hown : own < 8) : OneBitOff bytes (bytes.modify i (· ^^^ (1 <<< UInt8.ofNat own))) := by
  refine ⟨List.length_modify .., 8 * i + own, fun k => ?_⟩
  rw [bit_modify bytes hi hown]
  by_cases hk : k = 8 * i + own
  · simp [hk]
  · simp [hk, Ne.symm hk]

end Wire

/-! ### Shipments -/

/-- The envelope of a packet is not touched, and its payload in one bit at
    most. -/
theorem Packet.Conveyed.payload {sent arriving : Packet} (h : sent.Conveyed arriving) :
    ∃ payload, arriving = { sent with payload } ∧
      (payload = sent.payload ∨ Wire.OneBitOff sent.payload payload) := by
  rcases h with rfl | ⟨i, bit, hi, hbit, rfl⟩
  · exact ⟨_, rfl, .inl rfl⟩
  · exact ⟨_, rfl, .inr (Wire.oneBitOff_modify hi hbit)⟩

/-- What came of a packet that was handed to a network. -/
structure Shipment where
  /-- What the trace tells of it. -/
  entry : TraceEntry
  /-- The packets put on their way to the node it is addressed to. -/
  arrivals : List Packet

/-- Of a packet that is delivered comes a packet, or the same one twice, and of
    every other packet comes nothing. -/
def Shipment.Regular (s : Shipment) : Prop :=
  s.entry.fate ≠ .delivered ∧ s.arrivals = [] ∨
    s.entry.fate = .delivered ∧ ∃ arriving, s.entry.packet.Conveyed arriving ∧
      (s.arrivals = [arriving] ∨ s.arrivals = [arriving, arriving])

/-- The packet that reaches its node by an event. -/
def Pending.packet? (e : Pending) : Option Packet :=
  match e.event with
  | .deliver packet => some packet
  | .timer .. => none

/-- The packets that reach their nodes by events, in order. -/
def arrivalsOf (events : List Pending) : List Packet := events.filterMap Pending.packet?

/-- The packets that are still on their way. -/
def Network.inTransit (n : Network) : List Packet := arrivalsOf n.agenda.toList

/-- What is delivered of one packet is alike. -/
theorem arrivalsOf_eq_replicate {events : List Pending} {arriving : Packet}
    (h : ∀ e ∈ events, e.event = .deliver arriving) :
    arrivalsOf events = List.replicate events.length arriving := by
  induction events with
  | nil => rfl
  | cons e events ih =>
    have hfirst : e.packet? = some arriving := by
      unfold Pending.packet?
      rw [h e List.mem_cons_self]
    have hrest := ih fun e he => h e (List.mem_cons_of_mem _ he)
    unfold arrivalsOf at hrest ⊢
    rw [List.filterMap_cons_some hfirst, hrest]
    rfl

/-- What came of a packet that was posted. -/
def Consignment.shipment (c : Consignment) : Shipment := ⟨c.entry, arrivalsOf c.deliveries⟩

namespace Network

variable {n n' n'' : Network} {c : Consignment}

/-- What is added to the agenda is on its way. -/
theorem Grows.inTransit {added : List Pending} (h : n.Grows added n') :
    n'.inTransit.Perm (arrivalsOf added ++ n.inTransit) := by
  have hagenda := h.agenda.filterMap Pending.packet?
  rwa [List.filterMap_append] at hagenda

theorem Posts.regular (h : n.Posts c n') : c.shipment.Regular := by
  by_cases hfate : c.entry.fate = .delivered
  · obtain ⟨arriving, hconveyed, hevent⟩ := h.conveyed
    refine .inr ⟨hfate, arriving, hconveyed, ?_⟩
    unfold Consignment.shipment
    rw [arrivalsOf_eq_replicate hevent]
    exact (h.count hfate).imp (fun hone => by rw [hone]; rfl) fun htwo => by rw [htwo]; rfl
  · refine .inl ⟨hfate, ?_⟩
    unfold Consignment.shipment
    rw [(h.undelivered hfate).1]
    rfl

/-! ### The books of a network -/

/-- The network after packets were handed to it, and others reached their
    nodes. -/
structure Ships (n : Network) (reached : List Packet) (shipments : List Shipment)
    (n' : Network) : Prop where
  trace : n'.trace = n.trace ++ shipments.map Shipment.entry
  regular : ∀ s ∈ shipments, s.Regular
  sent : n'.stats.sent = n.stats.sent + shipments.length
  lost : n'.stats.lost = n.stats.lost + shipments.countP fun s => s.entry.fate = .lost
  filtered : n'.stats.filtered =
    n.stats.filtered + shipments.countP fun s => s.entry.fate = .filtered
  /-- A packet that arrives twice is a duplicated one. -/
  duplicated : n'.stats.duplicated =
    n.stats.duplicated + shipments.countP fun s => s.arrivals.length = 2
  /-- What was on its way or was sent has reached its node or is on its way. -/
  inTransit : (reached ++ n'.inTransit).Perm (n.inTransit ++ shipments.flatMap Shipment.arrivals)

namespace Ships

variable {reached reached' : List Packet} {shipments shipments' : List Shipment}

/-- Nothing is shipped while the books stay as they are. -/
theorem quiet (hagenda : n'.agenda = n.agenda) (hlog : n'.log = n.log)
    (hstats : n'.stats = n.stats) : n.Ships [] [] n' where
  trace := by simp [Network.trace, hlog]
  regular := nofun
  sent := by rw [hstats]; rfl
  lost := by rw [hstats]; rfl
  filtered := by rw [hstats]; rfl
  duplicated := by rw [hstats]; rfl
  inTransit := by simp [Network.inTransit, hagenda]

theorem trans (h : n.Ships reached shipments n') (h' : n'.Ships reached' shipments' n'') :
    n.Ships (reached ++ reached') (shipments ++ shipments') n'' where
  trace := by rw [h'.trace, h.trace, List.map_append, List.append_assoc]
  regular := by
    intro s hs
    rcases List.mem_append.mp hs with hs | hs
    · exact h.regular s hs
    · exact h'.regular s hs
  sent := by rw [h'.sent, h.sent, List.length_append, Nat.add_assoc]
  lost := by rw [h'.lost, h.lost, List.countP_append, Nat.add_assoc]
  filtered := by rw [h'.filtered, h.filtered, List.countP_append, Nat.add_assoc]
  duplicated := by rw [h'.duplicated, h.duplicated, List.countP_append, Nat.add_assoc]
  inTransit := by
    rw [List.flatMap_append, List.append_assoc, ← List.append_assoc n.inTransit]
    refine (h'.inTransit.append_left reached).trans ?_
    rw [← List.append_assoc]
    exact h.inTransit.append_right _

end Ships

/-- A packet that arrives twice counts as a duplicated one. -/
theorem Posts.again_eq (h : n.Posts c n') :
    c.deliveries.length - 1 = if c.shipment.arrivals.length = 2 then 1 else 0 := by
  obtain ⟨arriving, -, hevent⟩ := h.conveyed
  have hlength : c.shipment.arrivals.length = c.deliveries.length := by
    unfold Consignment.shipment
    rw [arrivalsOf_eq_replicate hevent, List.length_replicate]
  rw [hlength]
  have hcopies := h.copies.length_le
  split <;> omega

/-- Posting a packet is one shipment of it. -/
theorem Posts.ships (h : n.Posts c n') : n.Ships [] [c.shipment] n' where
  trace := by simp [Network.trace, h.log, Consignment.shipment]
  regular := by simpa using h.regular
  sent := h.sent
  lost := by simp [h.lost, List.countP_cons, Consignment.shipment]
  filtered := by simp [h.filtered, List.countP_cons, Consignment.shipment]
  duplicated := by simp [h.duplicated, h.again_eq, List.countP_cons]
  inTransit := by
    rw [List.flatMap_singleton]
    exact h.grows.inTransit.trans List.perm_append_comm

/-- A timer that is armed ships nothing. -/
theorem ships_armTimer (n : Network) (addr : NodeAddr) (delay : Duration) (timer : Timer) :
    n.Ships [] [] (n.armTimer addr delay timer) where
  trace := by simp [Network.trace, armTimer, schedule]
  regular := nofun
  sent := rfl
  lost := rfl
  filtered := rfl
  duplicated := rfl
  inTransit := by
    rw [List.flatMap_nil, List.append_nil]
    exact (grows_schedule (Duration.le_addSat ..) _).inTransit

/-- The shipments of effects are the packets that are posted. -/
theorem Absorbs.ships {hosts : NodeAddr → Bool} {addr : NodeAddr} {effects : List Effect}
    {posted : List Consignment} (h : Absorbs hosts addr n effects posted n') :
    n.Ships [] (posted.map Consignment.shipment) n' := by
  induction h with
  | nil => exact .quiet rfl rfl rfl
  | send hposts _ _ ih => exact hposts.ships.trans ih
  | arm _ ih => exact (ships_armTimer ..).trans ih

end Network

/-! ### The books of a simulation -/

namespace Simulation

variable {sim sim' sim'' : Simulation} {addr : NodeAddr}

/-- Whether there is a node of an address. -/
def Hosts (sim : Simulation) (addr : NodeAddr) : Prop := sim.nodes.contains addr = true

/-- The simulation after packets were handed to its network, and others
    reached their nodes. Nodes only come, and packets are unroutable as long
    as the node they are addressed to is not there. -/
structure Ships (sim : Simulation) (reached : List Packet) (shipments : List Shipment)
    (sim' : Simulation) : Prop where
  hosts : ∀ addr, sim.Hosts addr → sim'.Hosts addr
  net : sim.net.Ships reached shipments sim'.net
  routable : ∀ s ∈ shipments, sim.Hosts s.entry.packet.dest → s.entry.fate ≠ .unroutable
  unroutable : ∀ s ∈ shipments, ¬ sim'.Hosts s.entry.packet.dest → s.entry.fate = .unroutable

namespace Ships

variable {reached reached' : List Packet} {shipments shipments' : List Shipment}

theorem quiet (hhosts : ∀ addr, sim.Hosts addr → sim'.Hosts addr)
    (hagenda : sim'.net.agenda = sim.net.agenda) (hlog : sim'.net.log = sim.net.log)
    (hstats : sim'.net.stats = sim.net.stats) : sim.Ships [] [] sim' :=
  ⟨hhosts, .quiet hagenda hlog hstats, nofun, nofun⟩

theorem refl (sim : Simulation) : sim.Ships [] [] sim := quiet (fun _ h => h) rfl rfl rfl

theorem trans (h : sim.Ships reached shipments sim')
    (h' : sim'.Ships reached' shipments' sim'') :
    sim.Ships (reached ++ reached') (shipments ++ shipments') sim'' where
  hosts addr hhosts := h'.hosts addr (h.hosts addr hhosts)
  net := h.net.trans h'.net
  routable := by
    intro s hs hhosts
    rcases List.mem_append.mp hs with hs | hs
    · exact h.routable s hs hhosts
    · exact h'.routable s hs (h.hosts _ hhosts)
  unroutable := by
    intro s hs hhosts
    rcases List.mem_append.mp hs with hs | hs
    · exact h.unroutable s hs fun hmid => hhosts (h'.hosts _ hmid)
    · exact h'.unroutable s hs hhosts

end Ships

/-- A node that is put back was there before or comes now. -/
theorem hosts_put {node : Node} {other : NodeAddr} (h : sim.Hosts other) :
    ({ sim with nodes := sim.nodes.put addr node } : Simulation).Hosts other := by
  unfold Hosts Table.contains at h ⊢
  rw [Table.get?_put]
  split
  · rfl
  · exact h

theorem exists_ships_of_settle {node : Node} {effects : List Effect}
    (h : sim.settle addr node effects = .ok sim') :
    ∃ shipments, sim.Ships [] shipments sim' ∧
      shipments.map (fun s => s.entry.packet) = packetsOf effects := by
  obtain ⟨hnodes, posted, habsorbs⟩ := exists_absorbs_of_settle h
  -- The node is put back first, so all its packets find the nodes of the end.
  have hhosts : ∀ other, sim'.Hosts other ↔ (sim.nodes.put addr node).contains other = true := by
    intro other
    unfold Hosts
    rw [hnodes]
  refine ⟨posted.map Consignment.shipment, ⟨?_, habsorbs.ships, ?_, ?_⟩, ?_⟩
  · exact fun other hother => (hhosts other).mpr (hosts_put hother)
  · intro s hs hdest hfate
    obtain ⟨c, hc, rfl⟩ := List.mem_map.mp hs
    have hmissing := (habsorbs.unroutable_iff c hc).mp hfate
    rw [show (sim.nodes.put addr node).contains c.entry.packet.dest = true from
      hosts_put hdest] at hmissing
    cases hmissing
  · intro s hs hdest
    obtain ⟨c, hc, rfl⟩ := List.mem_map.mp hs
    exact (habsorbs.unroutable_iff c hc).mpr
      (Bool.eq_false_iff.mpr fun hthere => hdest ((hhosts _).mpr hthere))
  · rw [List.map_map, ← habsorbs.packets]
    rfl

end Simulation

/-- The packets that a deed hands to the network. -/
def Deed.packets : Deed → List Packet
  | .acted _ _ effects | .took _ effects => packetsOf effects
  | _ => []

/-- The packets handed to the network, in order. -/
def packetsBy (deeds : List Deed) : List Packet := deeds.flatMap Deed.packets

theorem packetsBy_snoc (deeds : List Deed) (deed : Deed) :
    packetsBy (deeds ++ [deed]) = packetsBy deeds ++ deed.packets := by
  unfold packetsBy
  rw [List.flatMap_append, List.flatMap_singleton]

namespace Simulation

variable {sim sim' : Simulation} {deed : Deed} {deeds : List Deed}

/-- A packet is off the agenda when it reaches its node. -/
theorem ships_atEvent {e : Pending} {agenda : Agenda}
    (htake : sim.net.agenda.take? = some (e, agenda)) :
    sim.Ships (arrivalsOf [e]) [] (sim.atEvent e agenda) where
  hosts _ h := h
  net := by
    refine ⟨by simp [Network.trace, atEvent], nofun, rfl, rfl, rfl, rfl, ?_⟩
    rw [List.flatMap_nil, List.append_nil]
    have htaken := (Agenda.toList_of_take? htake).filterMap Pending.packet?
    rw [← List.singleton_append, List.filterMap_append] at htaken
    exact htaken.symm
  routable := nofun
  unroutable := nofun

theorem Happens.exists_ships {event : Event} {effects : List Effect}
    (h : sim.Happens event effects sim') :
    ∃ shipments, sim.Ships [] shipments sim' ∧
      shipments.map (fun s => s.entry.packet) = packetsOf effects := by
  cases h with
  | delivered _ _ hsettle => exact exists_ships_of_settle hsettle
  | fired _ hsettle => exact exists_ships_of_settle hsettle
  | missed _ => exact ⟨[], .refl _, rfl⟩

/-- The shipments of a deed are the packets it hands to the network. -/
theorem Does.exists_ships (h : sim.Does deed sim') :
    ∃ shipments, sim.Ships (arrivalsOf deed.event?.toList) shipments sim' ∧
      shipments.map (fun s => s.entry.packet) = deed.packets := by
  cases h with
  | attached hattach =>
    have hnet := net_of_attach hattach
    refine ⟨[], .quiet ?_ ?_ ?_ ?_, rfl⟩
    · intro addr hhosts
      unfold attach at hattach
      split at hattach
      · cases hattach
      · split at hattach
        · cases hattach
          exact hosts_put hhosts
        · cases hattach
    · rw [hnet]
    · rw [hnet]
    · rw [hnet]
  | filtered => exact ⟨[], .quiet (fun _ h => h) rfl rfl rfl, rfl⟩
  | acted _ hsettle => exact exists_ships_of_settle hsettle
  | took htake hhappens =>
    obtain ⟨shipments, hships, hpackets⟩ := hhappens.exists_ships
    have hboth := (ships_atEvent htake).trans hships
    rw [List.append_nil, List.nil_append] at hboth
    exact ⟨shipments, hboth, hpackets⟩
  | waited _ _ => exact ⟨[], .quiet (fun _ h => h) rfl rfl rfl, rfl⟩

theorem Flow.exists_ships (h : sim.Flow deeds sim') :
    ∃ shipments, sim.Ships (arrivalsOf (takenBy deeds)) shipments sim' ∧
      shipments.map (fun s => s.entry.packet) = packetsBy deeds := by
  induction h with
  | nil => exact ⟨[], .refl _, rfl⟩
  | @snoc deeds mid deed sim' _ hdoes ih =>
    obtain ⟨shipments, hships, hpackets⟩ := ih
    obtain ⟨shipments', hships', hpackets'⟩ := hdoes.exists_ships
    refine ⟨shipments ++ shipments', ?_, ?_⟩
    · rw [takenBy_snoc, arrivalsOf, List.filterMap_append]
      exact hships.trans hships'
    · rw [packetsBy_snoc, List.map_append, hpackets, hpackets']

/-- The simulation with another generator of random numbers. -/
def withRandom (sim : Simulation) (random : RandomStream) : Simulation :=
  { sim with net := { sim.net with random } }

/-- The books of a simulation, after packets were sent and others reached their
    nodes. -/
structure Accounts (sim : Simulation) (sent reached : List Packet) (shipments : List Shipment) :
    Prop where
  trace : sim.net.trace = shipments.map Shipment.entry
  packets : sim.net.trace.map TraceEntry.packet = sent
  regular : ∀ s ∈ shipments, s.Regular
  sent : sim.net.stats.sent = sim.net.trace.length
  lost : sim.net.stats.lost = sim.net.trace.countP fun entry => entry.fate = .lost
  filtered : sim.net.stats.filtered = sim.net.trace.countP fun entry => entry.fate = .filtered
  /-- The rest is delivered or unroutable. -/
  fates : sim.net.trace.length = sim.net.stats.lost + sim.net.stats.filtered +
    sim.net.trace.countP (fun entry => entry.fate = .unroutable) +
    sim.net.trace.countP fun entry => entry.fate = .delivered
  /-- As many arrive as are delivered and duplicated. -/
  arriving : reached.length + sim.net.inTransit.length =
    sim.net.trace.countP (fun entry => entry.fate = .delivered) + sim.net.stats.duplicated
  /-- What has arrived or will belongs to the shipments, one by one. -/
  own : (reached ++ sim.net.inTransit).Perm (shipments.flatMap Shipment.arrivals)

end Simulation

/-- A packet has one of four fates. -/
theorem length_eq_countP_fates (entries : List TraceEntry) :
    entries.length = entries.countP (fun entry => entry.fate = .lost) +
      entries.countP (fun entry => entry.fate = .filtered) +
      entries.countP (fun entry => entry.fate = .unroutable) +
      entries.countP (fun entry => entry.fate = .delivered) := by
  induction entries with
  | nil => rfl
  | cons entry entries ih =>
    simp only [List.countP_cons, List.length_cons]
    rw [ih]
    cases entry.fate <;> simp <;> omega

/-- As many packets come of regular shipments as are delivered or arrive
    twice. -/
theorem Shipment.length_arrivals {shipments : List Shipment} (h : ∀ s ∈ shipments, s.Regular) :
    (shipments.flatMap Shipment.arrivals).length =
      shipments.countP (fun s => s.entry.fate = .delivered) +
        shipments.countP fun s => s.arrivals.length = 2 := by
  induction shipments with
  | nil => rfl
  | cons s shipments ih =>
    rw [List.flatMap_cons, List.length_append, ih fun s hs => h s (List.mem_cons_of_mem _ hs),
      List.countP_cons, List.countP_cons]
    rcases h s List.mem_cons_self with ⟨hfate, harrivals⟩ | ⟨hfate, arriving, -, harrivals⟩
    · simp [hfate, harrivals]
    · rcases harrivals with harrivals | harrivals
      · simp [hfate, harrivals]
        omega
      · simp [hfate, harrivals]
        omega

/-- What arrives of a segment is read as that segment, or not at all. -/
theorem Packet.Conveyed.decode_eq {sent arriving : Packet} {segment arrived : Segment}
    (h : sent.Conveyed arriving) (hsent : segment.encode = .ok sent.payload)
    (harrived : Segment.decode arriving.payload = .ok arrived) :
    arrived = segment ∧ arriving = sent := by
  have hdecode := Segment.decode_of_encode hsent
  rcases h.eq_or_exists_error hdecode with rfl | ⟨e, herror⟩
  · rw [hdecode] at harrived
    cases harrived
    exact ⟨rfl, rfl⟩
  · rw [herror] at harrived
    cases harrived

namespace Simulation

variable {settings : NetworkSettings} {created sim : Simulation} {random : RandomStream}

/-- The books of what a new simulation came to. -/
theorem Ships.accounts (hcreate : create settings = .ok created) {reached sent : List Packet}
    {shipments : List Shipment} (h : (created.withRandom random).Ships reached shipments sim)
    (hsent : shipments.map (fun s => s.entry.packet) = sent) :
    sim.Accounts sent reached shipments := by
  obtain ⟨net, hnet, rfl⟩ := exists_of_map_eq_ok hcreate
  obtain ⟨link, -, rfl⟩ := exists_of_map_eq_ok hnet
  have hbooks := h.net
  have htrace : sim.net.trace = shipments.map Shipment.entry := hbooks.trace
  have hcount : ∀ fate, sim.net.trace.countP (fun entry => entry.fate = fate) =
      shipments.countP fun s => s.entry.fate = fate := by
    intro fate
    rw [htrace, List.countP_map]
    rfl
  have hlost : sim.net.stats.lost = sim.net.trace.countP fun entry => entry.fate = .lost := by
    rw [hcount, hbooks.lost]
    exact Nat.zero_add _
  have hfiltered :
      sim.net.stats.filtered = sim.net.trace.countP fun entry => entry.fate = .filtered := by
    rw [hcount, hbooks.filtered]
    exact Nat.zero_add _
  have hduplicated :
      sim.net.stats.duplicated = shipments.countP fun s => s.arrivals.length = 2 := by
    rw [hbooks.duplicated]
    exact Nat.zero_add _
  refine ⟨htrace, ?_, hbooks.regular, ?_, hlost, hfiltered, ?_, ?_, hbooks.inTransit⟩
  · rw [htrace, List.map_map, ← hsent]
    rfl
  · rw [htrace, List.length_map, hbooks.sent]
    exact Nat.zero_add _
  · rw [hlost, hfiltered]
    exact length_eq_countP_fates _
  · rw [← List.length_append, hbooks.inTransit.length_eq, hcount, hduplicated]
    exact Shipment.length_arrivals hbooks.regular

/-- **The network conserves packets.** Whatever numbers are drawn, whatever the
    filters do and whatever an application does with a simulation can be told
    by deeds; and however it is told, the books are in order. What arrives
    has the envelope of what was sent, its payload is the same or one bit off,
    and if a segment is read from it where a segment was sent, it is that
    segment. A packet is unroutable exactly if its node is not there when it
    is sent: as long as a node is missing all packets to it are, and from then
    on none is. -/
theorem packets_conserved (hcreate : create settings = .ok created) (random : RandomStream) :
    (∀ (budget : Nat) (operations : List Operation) (sim : Simulation),
      Operation.performAll budget (created.withRandom random) operations = .ok sim →
        ∃ deeds, (created.withRandom random).Flow deeds sim) ∧
      ∀ (deeds : List Deed) (sim : Simulation), (created.withRandom random).Flow deeds sim →
        (∃ shipments, sim.Accounts (packetsBy deeds) (arrivalsOf (takenBy deeds)) shipments ∧
          ∀ s ∈ shipments, ∀ arriving ∈ s.arrivals,
            (∃ payload, arriving = { s.entry.packet with payload } ∧
              (payload = s.entry.packet.payload ∨
                Wire.OneBitOff s.entry.packet.payload payload)) ∧
            ∀ segment arrived, segment.encode = .ok s.entry.packet.payload →
              Segment.decode arriving.payload = .ok arrived →
                arrived = segment ∧ arriving = s.entry.packet) ∧
        (∀ entry ∈ sim.net.trace,
          ¬ sim.Hosts entry.packet.dest → entry.fate = .unroutable) ∧
        ∀ (deeds' : List Deed) (sim' : Simulation), sim.Flow deeds' sim' →
          ∃ later, sim'.net.trace = sim.net.trace ++ later ∧
            ∀ entry ∈ later, sim.Hosts entry.packet.dest → entry.fate ≠ .unroutable := by
  refine ⟨fun budget operations sim hrun => Operation.exists_flow hrun, ?_⟩
  intro deeds sim hflow
  obtain ⟨shipments, hships, hpackets⟩ := hflow.exists_ships
  have haccounts := hships.accounts hcreate hpackets
  refine ⟨⟨shipments, haccounts, ?_⟩, ?_, ?_⟩
  · intro s hs arriving harriving
    have hconveyed : s.entry.packet.Conveyed arriving := by
      rcases haccounts.regular s hs with ⟨-, hnone⟩ | ⟨-, own, hown, halike⟩
      · rw [hnone] at harriving
        cases harriving
      · have heq : arriving = own := by
          rcases halike with halike | halike
          · simpa [halike] using harriving
          · simpa [halike] using harriving
        rwa [heq]
    refine ⟨hconveyed.payload, ?_⟩
    intro segment arrived hsent harrived
    exact hconveyed.decode_eq hsent harrived
  · intro entry hentry hmissing
    rw [haccounts.trace] at hentry
    obtain ⟨s, hs, rfl⟩ := List.mem_map.mp hentry
    exact hships.unroutable s hs hmissing
  · intro deeds' sim' hflow'
    obtain ⟨later, hlater, -⟩ := hflow'.exists_ships
    refine ⟨later.map Shipment.entry, hlater.net.trace, ?_⟩
    intro entry hentry hhosts
    obtain ⟨s, hs, rfl⟩ := List.mem_map.mp hentry
    exact hlater.routable s hs hhosts

/-- A network that loses, damages or doubles every other packet it can, with a
    filter, and a node that greets another one and calls one that is missing. -/
theorem calls_conserved : ∃ created ∈ (create
      { lossRate := .finite false (Numeric.Binary64.one / 2)
        duplicateRate := .finite false Numeric.Binary64.one
        corruptionRate := .finite false (Numeric.Binary64.one / 2) }).toOption,
    ∃ start : Simulation, start = created.withRandom
      { block := fun n => (if n % 4 < 2 then 0 else 4_294_967_295, [])
        nextBlock := 0
        rest := [] } ∧
    ∃ sim ∈ (Operation.performAll 60 start
        (.withFilter { selects := fun p => p.dest ≠ 9, drops := fun n => n = 2 } ::
          Operation.greeting.take 8 ++
          [.withNode 1 fun node _ => (node, [.send ⟨1, 9, 15, .ping, 0, []⟩]),
            .runFor (.ofSeconds 5)])).toOption,
      sim.net.trace.map TraceEntry.fate =
        [.lost, .unroutable, .filtered, .delivered, .lost, .delivered, .lost] ∧
      sim.net.stats.duplicated = 2 ∧
      ∃ deeds shipments, start.Flow deeds sim ∧
        sim.Accounts (packetsBy deeds) (arrivalsOf (takenBy deeds)) shipments := by
  have hbooks : ∀ {settings : NetworkSettings} {created sim : Simulation} {budget : Nat}
      {operations : List Operation} (random : RandomStream),
      created ∈ (create settings).toOption →
      sim ∈ (Operation.performAll budget (created.withRandom random) operations).toOption →
        ∃ deeds shipments, (created.withRandom random).Flow deeds sim ∧
          sim.Accounts (packetsBy deeds) (arrivalsOf (takenBy deeds)) shipments := by
    intro settings created sim budget operations random hcreate hrun
    obtain ⟨htold, hconserved⟩ :=
      packets_conserved (Operation.eq_ok_of_mem_toOption hcreate) random
    obtain ⟨deeds, hflow⟩ := htold budget operations sim (Operation.eq_ok_of_mem_toOption hrun)
    obtain ⟨⟨shipments, haccounts, -⟩, -⟩ := hconserved deeds sim hflow
    exact ⟨deeds, shipments, hflow, haccounts⟩
  exact ⟨_, Option.get_mem (by decide +kernel), _, rfl, _, Option.get_mem (by decide +kernel),
    by decide +kernel, by decide +kernel, hbooks _ (Option.get_mem _) (Option.get_mem _)⟩

end Simulation

end ReliableStream
