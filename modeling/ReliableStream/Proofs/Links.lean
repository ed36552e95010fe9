import ReliableStream.Proofs.Conservation
import ReliableStream.Proofs.Histories
/-! # Links that keep the order

    Packets of one source leave one after the other, each when the one before
    it has left and its own bits are through. On a **steady** link, one without
    jitter and reordering, all of them then take the same time. So they arrive
    in the order in which they were sent, second copies included: a copy is due
    together with its packet, and what is due together comes up in the order in
    which it was put on the agenda. -/

namespace ReliableStream

/-! ### What crosses a link -/

/-- Whether an event is that of a packet that reaches its node. -/
def Pending.delivers (e : Pending) : Bool := e.packet?.isSome

/-- The packet was put on its way by this source. -/
def TraceEntry.LeftFrom (src : NodeAddr) (entry : TraceEntry) : Prop :=
  entry.fate = .delivered ∧ entry.packet.src = src

instance (src : NodeAddr) (entry : TraceEntry) : Decidable (entry.LeftFrom src) :=
  inferInstanceAs (Decidable (_ ∧ _))

/-- How long a packet occupies its link, in nanoseconds. -/
def TraceEntry.occupies (bandwidth : Nat) (entry : TraceEntry) : Nat :=
  (Network.occupation entry.packet.payload.length bandwidth).nanos

/-- When a packet has left, on a link that is free from a time on. -/
def TraceEntry.leaves (bandwidth free : Nat) (entry : TraceEntry) : Nat :=
  max free entry.sentAt.nanos + entry.occupies bandwidth

/-- From when on the link of a source is free after a packet. -/
def TraceEntry.frees (bandwidth : Nat) (src : NodeAddr) (free : Nat) (entry : TraceEntry) : Nat :=
  if entry.LeftFrom src then entry.leaves bandwidth free else free

/-- When the last packet has left that a source put on its way. -/
def lastLeft (bandwidth : Nat) (src : NodeAddr) (trace : List TraceEntry) : Nat :=
  trace.foldl (TraceEntry.frees bandwidth src) 0

variable {bandwidth : Nat} {src : NodeAddr} {trace more : List TraceEntry} {entry : TraceEntry}

/-- An unlimited link is not occupied. -/
@[simp] theorem TraceEntry.occupies_zero (entry : TraceEntry) : entry.occupies 0 = 0 := by
  simp [occupies, Network.occupation]

/-- The bits of a packet are counted in 64 bits before they are shared out. -/
theorem TraceEntry.occupies_eq (bandwidth : Nat) (entry : TraceEntry) :
    entry.occupies bandwidth =
      min (entry.packet.payload.length * 1_000_000_000) 18_446_744_073_709_551_615 / bandwidth := by
  have hshared := Nat.div_le_self
    (min (entry.packet.payload.length * 1_000_000_000) 18_446_744_073_709_551_615) bandwidth
  have hcounted := Nat.min_le_right (entry.packet.payload.length * 1_000_000_000)
    18_446_744_073_709_551_615
  exact Nat.min_eq_left (Nat.le_trans (Nat.le_trans hshared hcounted) (by decide))

theorem TraceEntry.le_leaves (bandwidth free : Nat) (entry : TraceEntry) :
    free ≤ entry.leaves bandwidth free :=
  Nat.le_add_right_of_le (Nat.le_max_left _ _)

theorem TraceEntry.le_frees (bandwidth : Nat) (src : NodeAddr) (free : Nat) (entry : TraceEntry) :
    free ≤ entry.frees bandwidth src free := by
  unfold frees
  split
  · exact entry.le_leaves bandwidth free
  · exact Nat.le_refl free

theorem lastLeft_concat (bandwidth : Nat) (src : NodeAddr) (trace : List TraceEntry)
    (entry : TraceEntry) : lastLeft bandwidth src (trace ++ [entry]) =
      entry.frees bandwidth src (lastLeft bandwidth src trace) := by
  simp [lastLeft]

/-- Nothing leaves before what left before. -/
theorem lastLeft_le_append (bandwidth : Nat) (src : NodeAddr) (trace more : List TraceEntry) :
    lastLeft bandwidth src trace ≤ lastLeft bandwidth src (trace ++ more) := by
  induction more generalizing trace with
  | nil => simp
  | cons entry more ih =>
    have hrest := ih (trace ++ [entry])
    rw [List.append_assoc, List.singleton_append, lastLeft_concat] at hrest
    exact Nat.le_trans (entry.le_frees bandwidth src _) hrest

/-- On an unlimited link packets leave when they are sent. -/
theorem lastLeft_zero_le {now : Nat} (h : ∀ entry ∈ trace, entry.sentAt.nanos ≤ now) :
    lastLeft 0 src trace ≤ now := by
  unfold lastLeft
  refine List.foldlRecOn (motive := fun free => free ≤ now) trace _ (Nat.zero_le now) ?_
  intro free hfree entry hmem
  have hsent := h entry hmem
  unfold TraceEntry.frees
  split
  · simp only [TraceEntry.leaves, TraceEntry.occupies_zero]
    omega
  · exact hfree

/-- The link of a source is not free again before each packet has left that it
    put on the way. -/
theorem TraceEntry.leaves_le_lastLeft (bandwidth : Nat) (earlier between : List TraceEntry)
    (hleft : entry.LeftFrom src) :
    entry.leaves bandwidth (lastLeft bandwidth src earlier) ≤
      lastLeft bandwidth src (earlier ++ entry :: between) := by
  have hfree := lastLeft_le_append bandwidth src (earlier ++ [entry]) between
  rw [lastLeft_concat, TraceEntry.frees, if_pos hleft, List.append_assoc,
    List.singleton_append] at hfree
  exact hfree

/-- How a packet crosses a steady link after those handed to the network before
    it. What is not put on its way does not arrive; what is arrives once or
    twice, as it was sent or damaged, and just the latency after it left. -/
structure Consignment.Crosses (link : LinkModel) (earlier : List Consignment) (c : Consignment) :
    Prop where
  undelivered : c.entry.fate ≠ .delivered → c.deliveries = []
  count : c.entry.fate = .delivered → c.deliveries.length = 1 ∨ c.deliveries.length = 2
  conveyed : ∃ arriving, c.entry.packet.Conveyed arriving ∧
    ∀ e ∈ c.deliveries, e.event = .deliver arriving
  due : ∀ e ∈ c.deliveries, e.due.nanos = link.latency.nanos +
    c.entry.leaves link.bandwidth
      (lastLeft link.bandwidth c.entry.packet.src (earlier.map Consignment.entry))
  /-- All of it is put on the agenda after what was before. -/
  serial : ∀ before ∈ earlier, ∀ e ∈ before.deliveries, ∀ e' ∈ c.deliveries,
    e.serial < e'.serial

theorem Consignment.Crosses.fate {link : LinkModel} {earlier : List Consignment} {c : Consignment}
    (h : c.Crosses link earlier) {e : Pending} (he : e ∈ c.deliveries) :
    c.entry.fate = .delivered := by
  by_cases hfate : c.entry.fate = .delivered
  · exact hfate
  · rw [h.undelivered hfate] at he
    cases he

/-- A packet arrives after every one that its source sent before, by as long at
    least as it occupies the link. -/
theorem Consignment.Crosses.due_le {link : LinkModel} {earlier between : List Consignment}
    {before c : Consignment} (h : before.Crosses link earlier)
    (h' : c.Crosses link (earlier ++ before :: between))
    (hsrc : before.entry.packet.src = c.entry.packet.src) {e e' : Pending}
    (he : e ∈ before.deliveries) (he' : e' ∈ c.deliveries) :
    e.due.nanos + c.entry.occupies link.bandwidth ≤ e'.due.nanos := by
  have hleft : before.entry.LeftFrom c.entry.packet.src := ⟨h.fate he, hsrc⟩
  have hfree := before.entry.leaves_le_lastLeft link.bandwidth (earlier.map Consignment.entry)
    (between.map Consignment.entry) hleft
  rw [h.due e he, h'.due e' he', hsrc, List.map_append, List.map_cons]
  unfold TraceEntry.leaves at hfree ⊢
  omega

/-! ### Runs on a steady link -/

namespace Network

variable {n n' : Network}

/-- A network with a steady link, after it took packets and after events were
    taken off its agenda. -/
structure Conveys (link : LinkModel) (n : Network) (taken : List Pending)
    (consignments : List Consignment) : Prop where
  kept : n.link = link
  trace : n.trace = consignments.map Consignment.entry
  past : ∀ entry ∈ n.trace, entry.sentAt ≤ n.now
  /-- What arrived or will arrive belongs to the packets, event by event. -/
  own : ((taken ++ n.agenda.toList).filter Pending.delivers).Perm
    (consignments.flatMap Consignment.deliveries)
  serial_le : ∀ c ∈ consignments, ∀ e ∈ c.deliveries, e.serial ≤ n.serial
  free : link.bandwidth ≠ 0 → ∀ src, n.freeAt src = lastLeft link.bandwidth src n.trace
  crosses : EachAfter (Consignment.Crosses link) consignments

namespace Conveys

variable {link : LinkModel} {taken : List Pending} {consignments : List Consignment}
  {c : Consignment}

theorem of_create {settings : NetworkSettings} (h : Network.create settings = .ok n)
    (random : RandomStream) : Conveys n.link { n with random } [] [] := by
  obtain ⟨link, -, h⟩ := exists_of_map_eq_ok h
  cases h
  exact ⟨rfl, rfl, nofun, .nil, nofun, fun _ _ => rfl, eachAfter_nil⟩

/-- A packet leaves its source when the last one has left, as soon as its own
    bits are through. -/
theorem left_eq (h : Conveys link n taken consignments) {left : Duration}
    {free : Table NodeAddr Duration} {entry : TraceEntry} (hsent : entry.sentAt = n.now)
    (hdeparts : n.Departs entry.packet left free) :
    left.nanos =
      entry.leaves link.bandwidth (lastLeft link.bandwidth entry.packet.src n.trace) := by
  unfold TraceEntry.leaves
  by_cases hunlimited : link.bandwidth = 0
  · -- The table is not kept then, but whatever was sent before has left at once.
    have hpast : lastLeft 0 entry.packet.src n.trace ≤ n.now.nanos := lastLeft_zero_le h.past
    rw [(hdeparts.unlimited (h.kept ▸ hunlimited)).1, hunlimited, TraceEntry.occupies_zero, hsent]
    omega
  · rw [(hdeparts.limited (h.kept ▸ hunlimited)).1, h.free hunlimited, hsent, h.kept]
    rfl

/-- The table of the links follows the trace. -/
theorem free_posts (h : Conveys link n taken consignments) (hposts : n.Posts c n')
    (hlimited : link.bandwidth ≠ 0) (src : NodeAddr) :
    n'.freeAt src = lastLeft link.bandwidth src (n.trace ++ [c.entry]) := by
  rw [lastLeft_concat]
  unfold TraceEntry.frees
  by_cases hfate : c.entry.fate = .delivered
  · obtain ⟨left, hdeparts, -⟩ := hposts.departs hfate
    have hleft := h.left_eq hposts.sentAt hdeparts
    unfold freeAt
    rw [(hdeparts.limited (h.kept ▸ hlimited)).2, Table.get?_put]
    by_cases hsrc : c.entry.packet.src = src
    · rw [if_pos hsrc, if_pos ⟨hfate, hsrc⟩, ← hsrc]
      exact hleft
    · rw [if_neg hsrc, if_neg fun hleft => hsrc hleft.2]
      exact h.free hlimited src
  · rw [if_neg fun hleft => hfate hleft.1, ← h.free hlimited]
    unfold freeAt
    rw [(hposts.undelivered hfate).2]

/-- A packet that is posted crosses the link after all others. -/
theorem crosses_posts (hsteady : link.Steady) (h : Conveys link n taken consignments)
    (hposts : n.Posts c n') : c.Crosses link consignments where
  undelivered := fun hfate => (hposts.undelivered hfate).1
  count := hposts.count
  conveyed := hposts.conveyed
  due := by
    intro e he
    by_cases hfate : c.entry.fate = .delivered
    · obtain ⟨left, hdeparts, hdue⟩ := hposts.departs hfate
      rw [hdue (h.kept ▸ hsteady) e he, h.kept, h.left_eq hposts.sentAt hdeparts, h.trace]
    · rw [(hposts.undelivered hfate).1] at he
      cases he
  serial := by
    intro before hbefore e he e' he'
    have hold := h.serial_le before hbefore e he
    have hnew := (hposts.grows.serial_bounds he').1
    omega

theorem posts (hsteady : link.Steady) (h : Conveys link n taken consignments)
    (hposts : n.Posts c n') : Conveys link n' taken (consignments ++ [c]) := by
  have htrace : n'.trace = n.trace ++ [c.entry] := by
    unfold Network.trace
    rw [hposts.log, List.reverse_cons]
  constructor
  · exact hposts.link.trans h.kept
  · rw [htrace, h.trace, List.map_append, List.map_singleton]
  · intro entry hentry
    rw [htrace] at hentry
    rw [hposts.grows.now]
    rcases List.mem_append.mp hentry with hentry | hentry
    · exact h.past entry hentry
    · rw [List.mem_singleton.mp hentry, hposts.sentAt]
      exact Nat.le_refl _
  · -- All that is new on the agenda are the deliveries of the packet.
    obtain ⟨arriving, -, hevent⟩ := hposts.conveyed
    have hown : c.deliveries.filter Pending.delivers = c.deliveries := by
      rw [List.filter_eq_self]
      intro e he
      simp [Pending.delivers, Pending.packet?, hevent e he]
    have hagenda := hposts.grows.agenda.filter Pending.delivers
    rw [List.filter_append, hown] at hagenda
    have hbooks := h.own
    rw [List.filter_append] at hbooks ⊢
    rw [List.flatMap_append, List.flatMap_singleton]
    refine (hagenda.append_left _).trans ?_
    refine List.Perm.trans ?_ (hbooks.append_right c.deliveries)
    rw [List.append_assoc]
    exact List.perm_append_comm.append_left _
  · intro c' hc' e he
    rcases List.mem_append.mp hc' with hc' | hc'
    · rw [hposts.grows.serial]
      exact Nat.le_add_right_of_le (h.serial_le c' hc' e he)
    · rw [List.mem_singleton.mp hc'] at he
      exact (hposts.grows.serial_bounds he).2
  · intro hlimited src
    rw [htrace]
    exact h.free_posts hposts hlimited src
  · exact h.crosses.concat (h.crosses_posts hsteady hposts)

/-- A timer that is armed delivers no packet. -/
theorem armed (h : Conveys link n taken consignments) (node : NodeAddr) (delay : Duration)
    (timer : Timer) : Conveys link (n.armTimer node delay timer) taken consignments where
  kept := h.kept
  trace := h.trace
  past := h.past
  own := by
    have hagenda := (n.agenda.toList_put
      ⟨n.now.addSat delay, n.serial + 1, .timer node timer⟩).filter Pending.delivers
    have hbooks := h.own
    rw [List.filter_append] at hbooks ⊢
    exact (hagenda.append_left _).trans hbooks
  serial_le := fun c hc e he => Nat.le_succ_of_le (h.serial_le c hc e he)
  free := h.free
  crosses := h.crosses

/-- What is posted with the effects of a node is conveyed after all others. -/
theorem absorbs (hsteady : link.Steady) {hosts : NodeAddr → Bool} {addr : NodeAddr}
    {effects : List Effect} {posted : List Consignment}
    (habsorbs : Absorbs hosts addr n effects posted n') (h : Conveys link n taken consignments) :
    Conveys link n' taken (consignments ++ posted) := by
  induction habsorbs generalizing consignments with
  | nil => rwa [List.append_nil]
  | send hposts _ _ ih =>
    rw [List.append_cons]
    exact ih (h.posts hsteady hposts)
  | arm _ ih => exact ih (h.armed ..)

/-- An event that is taken off the agenda was there before. -/
theorem take (h : Conveys link n taken consignments) {e : Pending} {agenda : Agenda}
    (htake : n.agenda.take? = some (e, agenda)) (hdue : n.now ≤ e.due) :
    Conveys link { n with agenda, now := e.due } (taken ++ [e]) consignments where
  kept := h.kept
  trace := h.trace
  past := fun entry hentry => Nat.le_trans (h.past entry hentry) hdue
  own := by
    have hparts : (taken ++ [e] ++ agenda.toList).Perm (taken ++ n.agenda.toList) := by
      rw [List.append_assoc]
      exact (Agenda.toList_of_take? htake).symm.append_left taken
    exact (hparts.filter _).trans h.own
  serial_le := h.serial_le
  free := h.free
  crosses := h.crosses

/-- Time may pass, and the filter may change. -/
theorem rest (h : Conveys link n taken consignments) {till : Duration} (hnow : n.now ≤ till)
    (filter : Option DropFilter) :
    Conveys link { n with now := till, filter } taken consignments where
  kept := h.kept
  trace := h.trace
  past := fun entry hentry => Nat.le_trans (h.past entry hentry) hnow
  own := h.own
  serial_le := h.serial_le
  free := h.free
  crosses := h.crosses

/-- A packet reaches its node after every one that its source sent before. -/
theorem comesBefore (h : Conveys link n taken consignments) {waits : List Wait}
    (hpunctual : n.Punctual taken waits) {earlier between later : List Consignment}
    {before : Consignment} (hsplit : consignments = earlier ++ before :: (between ++ c :: later))
    (hsrc : before.entry.packet.src = c.entry.packet.src) {e e' : Pending}
    (he : e ∈ before.deliveries) (he' : e' ∈ c.deliveries) : ComesBefore taken e e' := by
  have hbefore := h.crosses earlier before _ hsplit
  have hcrosses := h.crosses (earlier ++ before :: between) c later (by simp [hsplit])
  have hdue := hbefore.due_le hcrosses hsrc he he'
  have hserial := hcrosses.serial before (by simp) e he e' he'
  -- It is due no earlier, and where it is due together with the other it was put
  -- on the agenda later.
  have hfollows : ¬ e'.Precedes e := by
    unfold Pending.Precedes
    omega
  have hmem : before ∈ consignments := by simp [hsplit]
  have hown := h.own.mem_iff.mpr (List.mem_flatMap.mpr ⟨before, hmem, he⟩)
  rcases List.mem_append.mp (List.mem_filter.mp hown).1 with htaken | hpending
  · refine comesBefore_of_pairwise hpunctual.order htaken ?_ hfollows
    rintro rfl
    exact Nat.lt_irrefl _ hserial
  · -- Nothing is taken that comes up after what is still pending.
    intro first rest htaken
    have htaken' : e' ∈ taken := by simp [htaken]
    exact absurd (hpunctual.ahead e' htaken' e hpending) hfollows

end Conveys

end Network

namespace Simulation

variable {sim sim' : Simulation} {addr : NodeAddr} {link : LinkModel} {taken : List Pending}
  {consignments : List Consignment} {deed : Deed} {deeds : List Deed}

theorem exists_conveys_of_settle (hsteady : link.Steady) {node : Node} {effects : List Effect}
    (h : Network.Conveys link sim.net taken consignments)
    (hout : sim.settle addr node effects = .ok sim') :
    ∃ more, Network.Conveys link sim'.net taken (consignments ++ more) := by
  obtain ⟨-, posted, habsorbs⟩ := exists_absorbs_of_settle hout
  exact ⟨posted, h.absorbs hsteady habsorbs⟩

theorem Happens.exists_conveys (hsteady : link.Steady) {event : Event} {effects : List Effect}
    (hhappens : sim.Happens event effects sim')
    (h : Network.Conveys link sim.net taken consignments) :
    ∃ more, Network.Conveys link sim'.net taken (consignments ++ more) := by
  cases hhappens with
  | delivered _ _ hsettle => exact exists_conveys_of_settle hsteady h hsettle
  | fired _ hsettle => exact exists_conveys_of_settle hsteady h hsettle
  | missed _ => exact ⟨[], by rwa [List.append_nil]⟩

/-- Whatever happens, what crosses the link is added to what has crossed it. -/
theorem Does.exists_conveys (hsteady : link.Steady) (hdoes : sim.Does deed sim')
    {waits : List Wait} (hpunctual : sim.net.Punctual taken waits)
    (h : Network.Conveys link sim.net taken consignments) :
    ∃ more, Network.Conveys link sim'.net (taken ++ deed.event?.toList) (consignments ++ more) := by
  have hsame : ∀ {net : Network}, Network.Conveys link net taken consignments →
      ∃ more, Network.Conveys link net (taken ++ []) (consignments ++ more) := by
    intro net h
    refine ⟨[], ?_⟩
    rwa [List.append_nil, List.append_nil]
  cases hdoes with
  | attached hattach => exact hsame (net_of_attach hattach ▸ h)
  | filtered => exact hsame (h.rest (Nat.le_refl sim.net.now.nanos) _)
  | acted _ hsettle =>
    have hacted := exists_conveys_of_settle hsteady h hsettle
    simpa [Deed.event?] using hacted
  | @took _ e agenda _ htake hhappens =>
    have hmem : e ∈ sim.net.agenda.toList :=
      (Agenda.toList_of_take? htake).mem_iff.mpr List.mem_cons_self
    exact hhappens.exists_conveys hsteady (h.take htake (hpunctual.pending e hmem))
  | waited hnow _ => exact hsame (h.rest hnow _)

theorem Flow.exists_conveys (hsteady : link.Steady) (hflow : sim.Flow deeds sim')
    (hpunctual : sim.net.Punctual [] []) (h : Network.Conveys link sim.net [] []) :
    ∃ consignments, Network.Conveys link sim'.net (takenBy deeds) consignments := by
  induction hflow with
  | nil => exact ⟨[], h⟩
  | snoc hflow hdoes ih =>
    obtain ⟨consignments, hmid⟩ := ih
    obtain ⟨more, hend⟩ := hdoes.exists_conveys hsteady (hflow.punctual hpunctual) hmid
    rw [takenBy_snoc]
    exact ⟨consignments ++ more, hend⟩

end Simulation

/-! ### Order and rate -/

theorem chance_of_chanceOf {kind : FaultKind} {value : Numeric.Binary64} {chance : Chance}
    (h : chanceOf kind value = .ok chance) : chance = .ofProbability value := by
  unfold chanceOf at h
  split at h
  · cases h
    rfl
  · cases h

/-- The link that settings describe. -/
theorem NetworkSettings.link_of_check {settings : NetworkSettings} {link : LinkModel}
    (h : settings.check = .ok link) :
    link.latency = settings.latency ∧
      link.jitter = settings.jitter.nanos % 18_446_744_073_709_551_616 ∧
      link.reordering = .ofProbability settings.reorderRate ∧
      link.bandwidth = settings.bandwidth.getD 0 := by
  unfold check at h
  obtain ⟨loss, -, h⟩ := exists_of_bind_eq_ok h
  obtain ⟨duplication, -, h⟩ := exists_of_bind_eq_ok h
  obtain ⟨reordering, hreordering, h⟩ := exists_of_bind_eq_ok h
  obtain ⟨corruption, -, h⟩ := exists_of_bind_eq_ok h
  cases h
  exact ⟨rfl, rfl, chance_of_chanceOf hreordering, rfl⟩

/-- Without jitter and reordering a link is steady. -/
theorem NetworkSettings.steady_of_check {settings : NetworkSettings} {link : LinkModel}
    (h : settings.check = .ok link) (hjitter : settings.jitter = .zero) {negative : Bool}
    (hreorder : settings.reorderRate = .finite negative 0) : link.Steady := by
  obtain ⟨-, hlinkJitter, hlinkReordering, -⟩ := link_of_check h
  refine ⟨?_, ?_⟩
  · rw [hlinkJitter, hjitter]
    rfl
  · rw [hlinkReordering, hreorder]
    rfl

/-- How long a packet takes on a free link of so many bytes a second, in
    nanoseconds. -/
def NetworkSettings.transit (settings : NetworkSettings) (bytesPerSecond : Nat)
    (packet : Packet) : Nat :=
  settings.latency.nanos +
    min (packet.payload.length * 1_000_000_000) 18_446_744_073_709_551_615 / bytesPerSecond

/-- A packet arrives no earlier than its link allows: it takes its time from
    when it was sent, and from when each packet of its source has left that was
    put on the way before. -/
structure Consignment.KeepsRate (settings : NetworkSettings) (bytesPerSecond : Nat)
    (earlier : List Consignment) (c : Consignment) : Prop where
  sent : ∀ e ∈ c.deliveries,
    c.entry.sentAt.nanos + settings.transit bytesPerSecond c.entry.packet ≤ e.due.nanos
  departed : ∀ front before between, earlier = front ++ before :: between →
    before.entry.LeftFrom c.entry.packet.src → ∀ e ∈ c.deliveries,
      before.entry.leaves bytesPerSecond
          (lastLeft bytesPerSecond c.entry.packet.src (front.map Consignment.entry)) +
        settings.transit bytesPerSecond c.entry.packet ≤ e.due.nanos

theorem Consignment.Crosses.keepsRate {link : LinkModel} {settings : NetworkSettings}
    {bytesPerSecond : Nat} {earlier : List Consignment} {c : Consignment}
    (h : c.Crosses link earlier) (hlatency : link.latency = settings.latency)
    (hbandwidth : link.bandwidth = bytesPerSecond) :
    c.KeepsRate settings bytesPerSecond earlier where
  sent := by
    intro e he
    rw [h.due e he, hlatency, hbandwidth]
    unfold TraceEntry.leaves NetworkSettings.transit
    rw [TraceEntry.occupies_eq]
    omega
  departed := by
    rintro front before between rfl hleft e he
    have hfree := before.entry.leaves_le_lastLeft bytesPerSecond (front.map Consignment.entry)
      (between.map Consignment.entry) hleft
    rw [h.due e he, hlatency, hbandwidth, List.map_append, List.map_cons]
    unfold TraceEntry.leaves NetworkSettings.transit at *
    rw [c.entry.occupies_eq]
    omega

namespace Simulation

/-- The packets of each source keep their order, and their distance. -/
structure KeepsOrder (settings : NetworkSettings) (sim : Simulation) (taken : List Pending)
    (consignments : List Consignment) : Prop where
  latency : sim.net.link.latency = settings.latency
  bandwidth : sim.net.link.bandwidth = settings.bandwidth.getD 0
  trace : sim.net.trace = consignments.map Consignment.entry
  /-- What arrived or will arrive belongs to the packets, event by event. -/
  own : ((taken ++ sim.net.agenda.toList).filter Pending.delivers).Perm
    (consignments.flatMap Consignment.deliveries)
  crosses : EachAfter (Consignment.Crosses sim.net.link) consignments
  /-- Packets of one source arrive as they were sent, all copies of the one
      before all copies of the other. -/
  order : ∀ earlier before between c later,
    consignments = earlier ++ before :: (between ++ c :: later) →
      before.entry.packet.src = c.entry.packet.src →
        ∀ e ∈ before.deliveries, ∀ e' ∈ c.deliveries, ComesBefore taken e e'
  rate : ∀ bytesPerSecond, settings.bandwidth = some bytesPerSecond → 0 < bytesPerSecond →
    EachAfter (Consignment.KeepsRate settings bytesPerSecond) consignments

variable {settings : NetworkSettings} {created sim : Simulation}

/-- **Links are first in, first out.** Without jitter and reordering, whatever
    numbers are drawn, whatever the other faults and the filters do, and
    whatever an application does with a simulation can be told by deeds; and
    however it is told, packets of one source reach their nodes in the order in
    which they were sent, with all their copies, and no faster than the
    bandwidth allows. -/
theorem links_keep_order (hcreate : create settings = .ok created)
    (hjitter : settings.jitter = .zero) {negative : Bool}
    (hreorder : settings.reorderRate = .finite negative 0) (random : RandomStream) :
    (∀ (budget : Nat) (operations : List Operation) (sim : Simulation),
      Operation.performAll budget (created.withRandom random) operations = .ok sim →
        ∃ deeds, (created.withRandom random).Flow deeds sim) ∧
      ∀ (deeds : List Deed) (sim : Simulation), (created.withRandom random).Flow deeds sim →
        ∃ consignments, sim.KeepsOrder settings (takenBy deeds) consignments := by
  refine ⟨fun budget operations sim hrun => Operation.exists_flow hrun, ?_⟩
  intro deeds sim hflow
  obtain ⟨net, hnet, rfl⟩ := exists_of_map_eq_ok hcreate
  have hstart := Network.Conveys.of_create hnet random
  have hfresh : (withRandom { nodes := .empty, net } random).net.Punctual [] [] := by
    have hcreated := Network.Punctual.of_create hnet
    exact { hcreated with }
  obtain ⟨link, hcheck, hlink⟩ := exists_of_map_eq_ok hnet
  have hnetLink : net.link = link := by rw [← hlink]
  obtain ⟨hlatency, -, -, hbandwidth⟩ := NetworkSettings.link_of_check hcheck
  have hsteady := NetworkSettings.steady_of_check hcheck hjitter hreorder
  obtain ⟨consignments, hconveys⟩ :=
    hflow.exists_conveys (hnetLink ▸ hsteady) hfresh hstart
  have hpunctual := hflow.punctual hfresh
  have hkept : sim.net.link = link := hconveys.kept.trans hnetLink
  refine ⟨consignments, ?_, ?_, hconveys.trace, hconveys.own, ?_, ?_, ?_⟩
  · rw [hkept, hlatency]
  · rw [hkept, hbandwidth]
  · rw [hconveys.kept]
    exact hconveys.crosses
  · intro earlier before between c later hsplit hsrc e he e' he'
    exact hconveys.comesBefore hpunctual hsplit hsrc he he'
  · intro bytesPerSecond hlimited _ earlier c later hsplit
    refine (hconveys.crosses earlier c later hsplit).keepsRate ?_ ?_
    · rw [hnetLink, hlatency]
    · rw [hnetLink, hbandwidth, hlimited]
      rfl

/-- On a link of a byte a millisecond that doubles and damages all packets, a
    packet of three bytes, an empty one, and one that leaves when the link is
    free again. The last one has not arrived yet. -/
theorem burst_keeps_order :
    ∃ settings : NetworkSettings, settings.jitter = .zero ∧
      settings.reorderRate = .finite false 0 ∧ settings.bandwidth = some 1_000 ∧
    ∃ created ∈ (create settings).toOption,
    ∃ start : Simulation, start = created.withRandom
      { block := fun n => (.ofNat n, [])
        nextBlock := 0
        rest := [] } ∧
    ∃ sim ∈ (Operation.performAll 20 start
        [.attach 1 { mss := 4, bufferSize := 8 }, .attach 2 { mss := 4, bufferSize := 8 },
          .withNode 1 fun node _ => (node,
            [.send ⟨1, 2, 15, .ping, 0, [1, 2, 3]⟩, .send ⟨1, 2, 15, .ping, 1, []⟩]),
          .runFor (.ofMillis 5),
          .withNode 1 fun node _ => (node, [.send ⟨1, 2, 15, .ping, 2, [4]⟩]),
          .runFor (.ofMillis 9)]).toOption,
      sim.net.trace.map (fun entry => (entry.packet.src, entry.fate)) =
        [(1, .delivered), (1, .delivered), (1, .delivered)] ∧
      sim.net.agenda.toList.map (fun e => e.due.nanos) = [16_000_000, 16_000_000] ∧
      ∃ deeds consignments, start.Flow deeds sim ∧
        sim.KeepsOrder settings (takenBy deeds) consignments := by
  have hkeeps : ∀ {settings : NetworkSettings} {created sim : Simulation} {budget : Nat}
      {operations : List Operation} (random : RandomStream), settings.jitter = .zero →
      settings.reorderRate = .finite false 0 → created ∈ (create settings).toOption →
      sim ∈ (Operation.performAll budget (created.withRandom random) operations).toOption →
        ∃ deeds consignments, (created.withRandom random).Flow deeds sim ∧
          sim.KeepsOrder settings (takenBy deeds) consignments := by
    intro settings created sim budget operations random hjitter hreorder hcreate hrun
    obtain ⟨htold, hordered⟩ :=
      links_keep_order (Operation.eq_ok_of_mem_toOption hcreate) hjitter hreorder random
    obtain ⟨deeds, hflow⟩ := htold budget operations sim (Operation.eq_ok_of_mem_toOption hrun)
    obtain ⟨consignments, hkept⟩ := hordered deeds sim hflow
    exact ⟨deeds, consignments, hflow, hkept⟩
  exact ⟨{ duplicateRate := .finite false Numeric.Binary64.one
           corruptionRate := .finite false Numeric.Binary64.one
           bandwidth := some 1_000 }, rfl, rfl, rfl, _, Option.get_mem (by decide +kernel), _, rfl,
    _, Option.get_mem (by decide +kernel), by decide +kernel, by decide +kernel,
    hkeeps _ rfl rfl (Option.get_mem _) (Option.get_mem _)⟩

end Simulation

end ReliableStream
