import ReliableStream.Proofs.Reserve
import ReliableStream.Proofs.Spans
import ReliableStream.Proofs.Timeline
/-! # Packets in flight die out

    The accounts of connections add up: the **weight** of a simulation is that
    of all packets in flight, and of the reserves of all senders. A delivery
    takes the weight of its packet off, and whatever the node sends in answer,
    each packet of it perhaps twice and perhaps damaged, together with what is
    left in reserve, weighs less.

    So no more packets can be delivered than the simulation weighs, in
    whatever order, unless a timer comes back or an application acts. -/

namespace ReliableStream

/-! ### Sums over tables -/

namespace Table

universe u v

variable {κ : Type u} {α : Type v}

/-- What the values of a table come to. -/
def total (f : α → Nat) (t : Table κ α) : Nat := (t.values.map f).sum

variable [DecidableEq κ]

theorem sum_putEntry (f : α → Nat) {k : κ} {a : α} {es : List (κ × α)} (h : lookup k es = some a)
    (b : α) :
    (((putEntry k b es).map Prod.snd).map f).sum + f a = ((es.map Prod.snd).map f).sum + f b := by
  induction es with
  | nil => cases h
  | cons e rest ih =>
    obtain ⟨j, c⟩ := e
    unfold lookup at h
    unfold putEntry
    by_cases hj : j = k
    · rw [if_pos hj] at h ⊢
      cases h
      simp only [List.map_cons, List.sum_cons]
      omega
    · rw [if_neg hj] at h ⊢
      have := ih h
      simp only [List.map_cons, List.sum_cons]
      omega

theorem sum_putEntry_le (f : α → Nat) (k : κ) (b : α) (es : List (κ × α)) :
    (((putEntry k b es).map Prod.snd).map f).sum ≤ ((es.map Prod.snd).map f).sum + f b := by
  induction es with
  | nil => simp [putEntry]
  | cons e rest ih =>
    obtain ⟨j, c⟩ := e
    unfold putEntry
    split <;> simp only [List.map_cons, List.sum_cons] <;> omega

/-- A value that is replaced makes room for the new one. -/
theorem total_put (f : α → Nat) {t : Table κ α} {k : κ} {a : α} (h : t.get? k = some a) (b : α) :
    (t.put k b).total f + f a = t.total f + f b := sum_putEntry f h b

theorem total_put_le (f : α → Nat) (t : Table κ α) (k : κ) (b : α) :
    (t.put k b).total f ≤ t.total f + f b := sum_putEntry_le f k b t.entries

end Table

/-! ### The account of a node -/

/-- The reserve of a socket is that of its sender. -/
def Socket.reserve : Socket → Nat
  | .connection c => c.sender.reserve
  | _ => 0

/-- The reserve of a node. -/
def Node.reserve (n : Node) : Nat := n.sockets.total Socket.reserve

namespace Node

variable {n n' : Node} {now : Duration} {effects : List Effect} {span : Nat}

theorem reserve_withSocket_le (n : Node) (id : SocketId) (s : Socket) :
    (n.withSocket id s).reserve ≤ n.reserve + s.reserve := Table.total_put_le ..

theorem reserve_settle {id : SocketId} {c : Connection} (h : n.socket? id = some (.connection c))
    (c' : Connection) :
    (n.settle id c c').reserve + c.sender.reserve = n.reserve + c'.sender.reserve := by
  have hput := Table.total_put Socket.reserve h (.connection c')
  unfold settle
  simp only
  split <;> exact hput

/-- **A packet pays for all that a node does in answer.** -/
theorem Change.pays {packet : Packet} (h : n.Change now (.packet packet) n' effects)
    (hn : n.Pausing span) :
    2 * weightOf effects + launchWeight * n'.reserve + 1 ≤
      packet.weight + launchWeight * n.reserve := by
  have hone := packet.one_le_weight
  cases h with
  | unmoved =>
    rw [weightOf_nil]
    omega
  | @reset _ s reply hsegment hroute =>
    -- The one reply is an end, which nobody answers any more.
    obtain ⟨hreply, hkind⟩ := kind_of_reset hroute
    have hthree := Segment.three_le_weight hkind
    have hsent : weightOf ((n.profile.packet? n.addr packet.src reply).map Effect.send).toList
        ≤ 1 := by
      cases hmade : n.profile.packet? n.addr packet.src reply with
      | none => exact Nat.zero_le 1
      | some made =>
        refine Nat.le_of_eq ?_
        show made.weight = 1
        rw [Profile.weight_of_packet? hmade, Segment.weight_of_fin hreply]
    rw [Packet.weight_of_segment? hsegment]
    omega
  | released _ hinput => rcases hinput with hinput | hinput <;> cases hinput
  | @spawned _ s id port limit backlog c _ hsegment hroute _ _ hopened =>
    have hpays := Connection.pays_of_answer (kind_of_route hroute) hopened
    -- The queue only gets longer, and the new connection brings its reserve.
    have hqueue := n.reserve_withSocket_le id (.listener port limit (backlog ++ [n.nextId]))
    have hchild := reserve_withSocket_le
      (n.withSocket id (.listener port limit (backlog ++ [n.nextId]))) n.nextId (.connection c)
    have hreserve := Nat.mul_le_mul_left launchWeight
      (Nat.le_trans hchild (Nat.add_le_add_right hqueue (Socket.connection c).reserve))
    simp only [Socket.reserve, Nat.add_zero, Nat.mul_add] at hreserve
    rw [Packet.weight_of_segment? hsegment]
    refine Nat.le_trans (Nat.succ_le_succ (Nat.add_le_add_left hreserve _)) ?_
    omega
  | @moved _ _ _ c c' _ hreaches hsocket hrespond =>
    cases hreaches with
    | segment hsegment _ =>
      -- The reserve of the node moves by as much as that of the connection.
      have hpays := (Connection.responds_of_respond hrespond).pays (hn.capacity_le hsocket)
      have hreserve := congrArg (launchWeight * ·) (reserve_settle hsocket c')
      simp only [Nat.mul_add] at hreserve
      rw [Packet.weight_of_segment? hsegment]
      omega

end Node

/-! ### The account of what is added -/

/-- The weight of a pending event is that of its packet. -/
def Pending.weight (e : Pending) : Nat :=
  match e.event with
  | .deliver packet => packet.weight
  | .timer .. => 0

/-- The weight of pending events. -/
def weightOfPending (events : List Pending) : Nat := (events.map Pending.weight).sum

@[simp] theorem weightOfPending_append (a b : List Pending) :
    weightOfPending (a ++ b) = weightOfPending a + weightOfPending b := by
  unfold weightOfPending
  rw [List.map_append, List.sum_append]

theorem weightOfPending_cons (e : Pending) (rest : List Pending) :
    weightOfPending (e :: rest) = e.weight + weightOfPending rest := rfl

theorem weightOfPending_of_perm {a b : List Pending} (h : a.Perm b) :
    weightOfPending a = weightOfPending b := (h.map _).sum_nat

/-- No more than two copies arrive, and damage only takes off the weight. -/
theorem Packet.Copies.weight_le {sent : Packet} {added : List Pending} (h : sent.Copies added)
    {s : Segment} (hs : sent.segment? = some s) : weightOfPending added ≤ 2 * sent.weight := by
  have hcopy : ∀ e ∈ added, e.weight ≤ sent.weight := by
    intro e he
    obtain ⟨arriving, hevent, hconveyed⟩ := h.deliver e he
    unfold Pending.weight
    rw [hevent]
    exact hconveyed.weight_le hs
  -- None, one or both of them arrive.
  match added, h.length_le, hcopy with
  | [], _, _ => exact Nat.zero_le _
  | [a], _, hcopy =>
    have ha := hcopy a (by simp)
    show a.weight + 0 ≤ _
    omega
  | [a, b], _, hcopy =>
    have ha := hcopy a (by simp)
    have hb := hcopy b (by simp)
    show a.weight + (b.weight + 0) ≤ _
    omega

namespace Simulation

variable {addr : NodeAddr} {now : Duration}

/-- What effects add weighs twice their packets at most. -/
theorem AddsAll.weight_le {effects : List Effect} {added : List Pending}
    (h : AddsAll now addr effects added)
    (hcarries : ∀ packet ∈ packetsOf effects, ∃ s, packet.segment? = some s) :
    weightOfPending added ≤ 2 * weightOf effects := by
  induction h with
  | nil => exact Nat.le_refl 0
  | @cons effect effects added rest hadds _ ih =>
    rw [weightOfPending_append, weightOf_cons]
    cases hadds with
    | @copies packet _ hcopies =>
      obtain ⟨s, hs⟩ := hcarries packet List.mem_cons_self
      have hone := hcopies.weight_le hs
      have hrest := ih fun packet hpacket => hcarries packet (List.mem_cons_of_mem _ hpacket)
      have hpacket : weightOf [.send packet] = packet.weight := Nat.add_zero _
      omega
    | timer =>
      have hrest := ih hcarries
      show 0 + weightOfPending rest ≤ 2 * (0 + weightOf effects)
      omega

/-! ### The account of an event -/

/-- The weight of all packets in flight, and of all reserves. -/
def weight (sim : Simulation) : Nat :=
  weightOfPending sim.net.agenda.toList + launchWeight * sim.nodes.total Node.reserve

/-- Every node pauses. -/
def Pausing (sim : Simulation) (span : Nat) : Prop :=
  ∀ addr node, sim.node? addr = some node → node.Pausing span

end Simulation

/-- The input that an event is to the node it is for. -/
def Event.input : Event → Input
  | .deliver packet => .packet packet
  | .timer _ armed => .timer armed

namespace Simulation

variable {sim mid sim' : Simulation} {span : Nat}

section Happens

variable {event : Event} {effects : List Effect}

/-- Only the node changes that the event is for, as nodes do. -/
theorem Happens.change (h : sim.Happens event effects sim') :
    effects = [] ∧ sim'.nodes = sim.nodes ∨
      ∃ node node', sim.node? event.addr = some node ∧
        node.Change sim.now event.input node' effects ∧
        sim'.nodes = sim.nodes.put event.addr node' := by
  cases h with
  | delivered hnode hreact hsettle =>
    exact Or.inr ⟨_, _, hnode, Node.change_of_onPacket hreact, (settle_spec hsettle).1⟩
  | fired hnode hsettle =>
    exact Or.inr ⟨_, _, hnode, Node.change_of_onTimer _ _ _, (settle_spec hsettle).1⟩
  | missed => exact Or.inl ⟨rfl, rfl⟩

theorem Happens.pausing (h : sim.Happens event effects sim') (hsim : sim.Pausing span) :
    sim'.Pausing span := by
  intro addr node hnode
  unfold node? at hnode
  rcases h.change with ⟨-, hnodes⟩ | ⟨before, after, hbefore, hchange, hnodes⟩
  · rw [hnodes] at hnode
    exact hsim addr node hnode
  · rw [hnodes, Table.get?_put] at hnode
    split at hnode
    · cases hnode
      exact (hsim _ before hbefore).change hchange
    · exact hsim addr node hnode

theorem Happens.lasts (h : sim.Happens event effects sim') (hsim : sim.Pausing span) :
    ∀ effect ∈ effects, effect.Lasts span := by
  rcases h.change with ⟨rfl, -⟩ | ⟨node, node', hnode, hchange, -⟩
  · nofun
  · have hpausing := hsim _ node hnode
    exact hchange.lasts hpausing.lasts hpausing.patient

theorem Happens.carries (h : sim.Happens event effects sim') :
    ∀ packet ∈ packetsOf effects, ∃ s, packet.segment? = some s := by
  rcases h.change with ⟨rfl, -⟩ | ⟨node, node', -, hchange, -⟩
  · nofun
  · exact hchange.carries

theorem Happens.pays {packet : Packet} (h : sim.Happens (.deliver packet) effects sim')
    (hsim : sim.Pausing span) :
    2 * weightOf effects + launchWeight * sim'.nodes.total Node.reserve + 1 ≤
      packet.weight + launchWeight * sim.nodes.total Node.reserve := by
  have hone := packet.one_le_weight
  rcases h.change with ⟨rfl, hnodes⟩ | ⟨node, node', hnode, hchange, hnodes⟩
  · rw [hnodes, weightOf_nil]
    omega
  · have hchange : node.Change sim.now (.packet packet) node' effects := hchange
    have hpays := hchange.pays (hsim _ node hnode)
    have htotal := congrArg (launchWeight * ·) (Table.total_put Node.reserve hnode node')
    simp only [Nat.mul_add] at htotal
    rw [hnodes]
    omega

end Happens

/-! ### Deliveries -/

/-- The same nodes, the same clock and the same agenda. All chances, the link
    and the drop filter may be others. As a filter may drop packets by their
    numbers alone, whatever is dropped in whatever order, some filter does. -/
structure Alike (sim mid : Simulation) : Prop where
  nodes : mid.nodes = sim.nodes
  now : mid.now = sim.now
  agenda : mid.net.agenda = sim.net.agenda

/-- A pending event happens, any of them, on a network that does to packets
    whatever it likes. -/
def Takes (sim : Simulation) (e : Pending) (sim' : Simulation) : Prop :=
  ∃ mid agenda, sim.Alike mid ∧ sim.net.agenda.toList.Perm (e :: agenda.toList) ∧
    (mid.atEvent e agenda).handle e.event = .ok sim'

/-- What is left of the agenda, and what is added to it. -/
structure Trades (sim : Simulation) (e : Pending) (rest : List Pending) (effects : List Effect)
    (added : List Pending) (sim' : Simulation) : Prop where
  taken : sim.net.agenda.toList.Perm (e :: rest)
  agenda : sim'.net.agenda.toList.Perm (added ++ rest)
  now : sim'.now = e.due
  ahead : ∀ later ∈ added, e.due ≤ later.due
  adds : AddsAll e.due e.event.addr effects added

theorem Takes.exists_trades {e : Pending} (h : sim.Takes e sim') :
    ∃ (mid : Simulation) (rest : List Pending) (effects : List Effect) (added : List Pending),
      mid.nodes = sim.nodes ∧ mid.Happens e.event effects sim' ∧
      sim.Trades e rest effects added sim' := by
  obtain ⟨mid, agenda, halike, htaken, hhandle⟩ := h
  obtain ⟨effects, hhappens⟩ := exists_happens hhandle
  obtain ⟨⟨added, hgrows, hadds⟩, -⟩ := hhappens.spec
  exact ⟨mid.atEvent e agenda, agenda.toList, effects, added, halike.nodes, hhappens,
    htaken, hgrows.agenda, hgrows.now, hgrows.ahead, hadds⟩

/-- The same nodes pause. -/
theorem Pausing.of_nodes (h : sim.Pausing span) (hnodes : mid.nodes = sim.nodes) :
    mid.Pausing span := by
  unfold Pausing node?
  rw [hnodes]
  exact h

/-- A delivery takes weight off. -/
theorem Takes.weight_lt {e : Pending} {packet : Packet} (h : sim.Takes e sim')
    (hevent : e.event = .deliver packet) (hsim : sim.Pausing span) : sim'.weight < sim.weight := by
  obtain ⟨mid, rest, effects, added, hnodes, hhappens, htrades⟩ := h.exists_trades
  have hadded := htrades.adds.weight_le hhappens.carries
  rw [hevent] at hhappens
  have hpays := hhappens.pays (hsim.of_nodes hnodes)
  have hpacket : e.weight = packet.weight := by
    unfold Pending.weight
    rw [hevent]
  -- The packet goes; its answers, each twice, and the new reserve come.
  unfold weight
  rw [weightOfPending_of_perm htrades.taken, weightOfPending_of_perm htrades.agenda,
    weightOfPending_cons, weightOfPending_append, ← hnodes]
  omega

theorem Takes.pausing {e : Pending} (h : sim.Takes e sim') (hsim : sim.Pausing span) :
    sim'.Pausing span := by
  obtain ⟨mid, _, effects, _, hnodes, hhappens, -⟩ := h.exists_trades
  exact hhappens.pausing (hsim.of_nodes hnodes)

/-- Packets are delivered, one after the other and in any order, while no
    timer comes back. -/
inductive Deliveries (sim : Simulation) : Nat → Simulation → Prop where
  | none : Deliveries sim 0 sim
  | more {count : Nat} {mid sim' : Simulation} {e : Pending} {packet : Packet} :
      Deliveries sim count mid → e.event = .deliver packet → mid.Takes e sim' →
      Deliveries sim (count + 1) sim'

/-- **There are no more deliveries than a simulation weighs.** -/
theorem Deliveries.add_weight_le {count : Nat} (h : sim.Deliveries count sim')
    (hsim : sim.Pausing span) : count + sim'.weight ≤ sim.weight ∧ sim'.Pausing span := by
  induction h with
  | none => exact ⟨Nat.le_of_eq (Nat.zero_add _), hsim⟩
  | more _ hevent htakes ih =>
    obtain ⟨hweight, hpausing⟩ := ih
    have hlt := htakes.weight_lt hevent hpausing
    exact ⟨by omega, htakes.pausing hpausing⟩

end Simulation

end ReliableStream
