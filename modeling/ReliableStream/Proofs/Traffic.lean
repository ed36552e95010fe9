import ReliableStream.Network.Simulation
import ReliableStream.Proofs.Responses
/-! # What acting nodes add to a network

    Whatever a node does, the network only ever **grows** by it: events come
    onto the agenda, entries come into the trace, and the clock stands still.

    A packet that a node sends is **posted**. This module walks through the
    stages of sending once, and says of a packet all there is to say: what the
    trace tells of it and what is counted, how often it arrives and how it may be
    damaged, when it leaves its source and, without jitter and reordering, when
    it arrives. The order of events, the books of the network and the order of
    packets are read off that. -/

namespace ReliableStream

/-! ### What is up to chance -/

namespace RandomStream

/-- A scaled draw is in range, also where a second draw makes it larger. -/
theorem scaleDraw_lt {size range : Nat} {draw : RandomStream → Nat × RandomStream}
    (hdraw : ∀ s, (draw s).1 < size) (hrange : 0 < range) (s : RandomStream) :
    (s.scaleDraw size range draw).1 < range := by
  have hsplit := Nat.div_add_mod ((draw s).1 * range) size
  have hbelow : ((draw s).1 + 1) * range ≤ size * range := Nat.mul_le_mul_right _ (hdraw s)
  rw [Nat.add_mul, Nat.one_mul] at hbelow
  have hhigh : (draw s).1 * range / size < range :=
    Nat.div_lt_of_lt_mul (by omega)
  unfold scaleDraw
  dsimp only
  split
  · next hlow =>
    split
    -- The last number of the range leaves too little to be carried to.
    · refine Nat.lt_of_le_of_ne hhigh ?_
      intro hlast
      have hmul := congrArg (size * ·) hlast
      simp only [Nat.mul_succ] at hmul
      omega
    · exact hhigh
  · exact hhigh

/-- A number that is drawn below a bound is below it. -/
theorem below32_lt (s : RandomStream) {range : Nat} (hrange : 0 < range) :
    (s.below32 range).1 < range :=
  scaleDraw_lt (fun s => s.draw32.1.toNat_lt) hrange s

end RandomStream

/-! ### Packets on their way -/

/-- What arrives of a packet: the packet as it was sent, or with one bit of its
    payload flipped. -/
def Packet.Conveyed (sent arriving : Packet) : Prop :=
  arriving = sent ∨ ∃ i bit, i < sent.payload.length ∧ bit < 8 ∧
    arriving = { sent with payload := sent.payload.modify i (· ^^^ (1 <<< UInt8.ofNat bit)) }

/-- A link without jitter and reordering. -/
structure LinkModel.Steady (link : LinkModel) : Prop where
  jitter : link.jitter = 0
  reordering : link.reordering = .never

/-- A packet that was handed to a network, and what will come of it. -/
structure Consignment where
  /-- What the trace tells of the packet. -/
  entry : TraceEntry
  /-- The events by which it reaches its node. -/
  deliveries : List Pending

namespace Network

variable {n m n' n'' : Network} {added added' : List Pending} {packet : Packet}

/-! ### Growing -/

/-- The network after events were put on its agenda, the first one put first,
    with the clock standing still. -/
structure Grows (n : Network) (added : List Pending) (n' : Network) : Prop where
  now : n'.now = n.now
  serial : n'.serial = n.serial + added.length
  serials : added.map Pending.serial = List.range' (n.serial + 1) added.length
  agenda : n'.agenda.toList.Perm (added ++ n.agenda.toList)
  ahead : ∀ e ∈ added, n.now ≤ e.due
  log : ∃ entries, n'.log = entries ++ n.log ∧ ∀ entry ∈ entries, entry.sentAt = n.now

namespace Grows

/-- A network of which only the chances, the counts or the link changed, with
    entries noted in the trace. -/
theorem still (entries : List TraceEntry) (hnow : n'.now = n.now)
    (hserial : n'.serial = n.serial) (hagenda : n'.agenda = n.agenda)
    (hlog : n'.log = entries ++ n.log) (hsent : ∀ entry ∈ entries, entry.sentAt = n.now) :
    n.Grows [] n' where
  now := hnow
  serial := hserial
  serials := rfl
  agenda := hagenda ▸ .refl _
  ahead := nofun
  log := ⟨entries, hlog, hsent⟩

theorem quiet (hnow : n'.now = n.now) (hserial : n'.serial = n.serial)
    (hagenda : n'.agenda = n.agenda) (hlog : n'.log = n.log) : n.Grows [] n' :=
  still [] hnow hserial hagenda hlog nofun

theorem noted {entry : TraceEntry} (hnow : n'.now = n.now) (hserial : n'.serial = n.serial)
    (hagenda : n'.agenda = n.agenda) (hlog : n'.log = entry :: n.log)
    (hsent : entry.sentAt = n.now) : n.Grows [] n' :=
  still [entry] hnow hserial hagenda hlog (by simpa using hsent)

theorem refl (n : Network) : n.Grows [] n := quiet rfl rfl rfl rfl

theorem trans (h : n.Grows added n') (h' : n'.Grows added' n'') :
    n.Grows (added ++ added') n'' where
  now := h'.now.trans h.now
  serial := by
    rw [h'.serial, h.serial, List.length_append, Nat.add_assoc]
  serials := by
    rw [List.map_append, h.serials, h'.serials, h.serial, List.length_append,
      Nat.add_right_comm n.serial, List.range'_append_1]
  agenda := by
    refine (h'.agenda.trans (h.agenda.append_left added')).trans ?_
    rw [List.append_assoc]
    exact List.perm_append_comm_assoc ..
  ahead := by
    intro e he
    rcases List.mem_append.mp he with he | he
    · exact h.ahead e he
    · exact h.now ▸ h'.ahead e he
  log := by
    obtain ⟨entries, hlog, hsent⟩ := h.log
    obtain ⟨entries', hlog', hsent'⟩ := h'.log
    refine ⟨entries' ++ entries, by rw [hlog', hlog, List.append_assoc], ?_⟩
    intro entry hentry
    rcases List.mem_append.mp hentry with hentry | hentry
    · exact (hsent' entry hentry).trans h.now
    · exact hsent entry hentry

/-- A step that adds nothing leaves what was added. -/
theorem after (h : n.Grows [] n') (h' : n'.Grows added n'') : n.Grows added n'' := h.trans h'

theorem before (h : n.Grows added n') (h' : n'.Grows [] n'') : n.Grows added n'' := by
  simpa using h.trans h'

/-- What is added is numbered beyond everything before. -/
theorem serial_bounds (h : n.Grows added n') {e : Pending} (he : e ∈ added) :
    n.serial < e.serial ∧ e.serial ≤ n'.serial := by
  have hmem : e.serial ∈ added.map Pending.serial := List.mem_map_of_mem he
  rw [h.serials] at hmem
  have hrange := List.mem_range'_1.mp hmem
  have hserial := h.serial
  omega

end Grows

theorem grows_schedule {due : Duration} (h : n.now ≤ due) (event : Event) :
    n.Grows [{ due, serial := n.serial + 1, event }] (n.schedule due event) where
  now := rfl
  serial := rfl
  serials := rfl
  agenda := n.agenda.toList_put _
  ahead := by simpa using h
  log := ⟨[], rfl, nofun⟩

/-! ### The stages of sending -/

/-- The network while a packet is handled and nothing comes of it yet: numbers
    are drawn, the filter counts, damage and delays are counted, and links are
    free at other times. -/
structure Handles (n : Network) (free : Table NodeAddr Duration) (n' : Network) : Prop where
  link : n'.link = n.link
  now : n'.now = n.now
  agenda : n'.agenda = n.agenda
  serial : n'.serial = n.serial
  log : n'.log = n.log
  linkFreeAt : n'.linkFreeAt = free
  sent : n'.stats.sent = n.stats.sent
  lost : n'.stats.lost = n.stats.lost
  filtered : n'.stats.filtered = n.stats.filtered
  duplicated : n'.stats.duplicated = n.stats.duplicated

variable {free free' : Table NodeAddr Duration}

namespace Handles

/-- All that may change on the way. -/
theorem changing (n : Network) (random : RandomStream) (filter : Option DropFilter)
    (free : Table NodeAddr Duration) (reordered corrupted : Nat) :
    n.Handles free { n with
      random, filter, linkFreeAt := free, stats := { n.stats with reordered, corrupted } } :=
  ⟨rfl, rfl, rfl, rfl, rfl, rfl, rfl, rfl, rfl, rfl⟩

theorem refl (n : Network) : n.Handles n.linkFreeAt n := changing n _ _ _ _ _

theorem trans (h : n.Handles free m) (h' : m.Handles free' n') : n.Handles free' n' where
  link := h'.link.trans h.link
  now := h'.now.trans h.now
  agenda := h'.agenda.trans h.agenda
  serial := h'.serial.trans h.serial
  log := h'.log.trans h.log
  linkFreeAt := h'.linkFreeAt
  sent := h'.sent.trans h.sent
  lost := h'.lost.trans h.lost
  filtered := h'.filtered.trans h.filtered
  duplicated := h'.duplicated.trans h.duplicated

/-- A stage that has to do with no link leaves the links as they are. -/
theorem after (h : n.Handles free m) (h' : m.Handles m.linkFreeAt n') : n.Handles free n' :=
  h.trans (h.linkFreeAt ▸ h')

theorem grows (h : n.Handles free n') : n.Grows [] n' := .quiet h.now h.serial h.agenda h.log

end Handles

theorem handles_decide (n : Network) (chance : Chance) :
    n.Handles n.linkFreeAt (n.decide chance).2 := .changing n _ _ _ _ _

theorem handles_jitter (n : Network) : n.Handles n.linkFreeAt n.jitter.2 := by
  unfold jitter
  split
  · exact .refl n
  · exact .changing n _ _ _ _ _

theorem jitter_of_steady (h : n.link.Steady) : n.jitter = (.zero, n) := if_pos h.jitter

theorem handles_consultFilter (n : Network) (packet : Packet) :
    n.Handles n.linkFreeAt (n.consultFilter packet).2 := by
  unfold consultFilter
  split
  · exact .changing n _ _ _ _ _
  · exact .refl n

/-- Damage flips a bit. -/
theorem corrupt_spec (n : Network) (packet : Packet) :
    n.Handles n.linkFreeAt (n.corrupt packet.payload).2 ∧
      packet.Conveyed { packet with payload := (n.corrupt packet.payload).1 } := by
  unfold corrupt
  split
  · exact ⟨.refl n, .inl rfl⟩
  · next hpayload =>
    have hlength : 0 < packet.payload.length := by
      rw [List.length_pos_iff]
      intro hnil
      exact hpayload (List.isEmpty_iff.mpr hnil)
    dsimp only
    split
    · refine ⟨.changing n _ _ _ _ _, .inr ⟨_, _, ?_, ?_, rfl⟩⟩
      · exact RandomStream.below32_lt _ hlength
      · exact RandomStream.below32_lt _ (by decide)
    · exact ⟨handles_decide n _, .inl rfl⟩

/-- When the link of a source is free again. -/
def freeAt (n : Network) (src : NodeAddr) : Nat :=
  ((n.linkFreeAt.get? src).map Duration.nanos).getD 0

/-- A packet leaves its source at a time, and from then on links are free at
    other times. -/
structure Departs (n : Network) (packet : Packet) (left : Duration)
    (free : Table NodeAddr Duration) : Prop where
  unlimited : n.link.bandwidth = 0 → left = n.now ∧ free = n.linkFreeAt
  limited : n.link.bandwidth ≠ 0 →
    left.nanos = max (n.freeAt packet.src) n.now.nanos +
      (occupation packet.payload.length n.link.bandwidth).nanos ∧
    free = n.linkFreeAt.put packet.src left

/-- A packet leaves its sender no earlier than now. -/
theorem Departs.now_le {left : Duration} (h : n.Departs packet left free) : n.now ≤ left := by
  rw [Duration.le_def]
  by_cases hbandwidth : n.link.bandwidth = 0
  · exact Nat.le_of_eq (congrArg Duration.nanos (h.unlimited hbandwidth).1.symm)
  · rw [(h.limited hbandwidth).1]
    exact Nat.le_add_right_of_le (Nat.le_max_right ..)

theorem departure_spec {left : Duration} (h : n.departure packet = .ok (left, n')) :
    ∃ free, n.Departs packet left free ∧ n.Handles free n' := by
  unfold departure at h
  split at h
  · next hunlimited =>
    cases h
    exact ⟨_, ⟨fun _ => ⟨rfl, rfl⟩, fun hlimited => absurd hunlimited hlimited⟩, .refl n⟩
  · next hlimited =>
    obtain ⟨left, hleft, h⟩ := exists_of_map_eq_ok h
    cases h
    refine ⟨_, ⟨fun hunlimited => absurd hunlimited hlimited, fun _ => ⟨?_, rfl⟩⟩,
      .changing n _ _ _ _ _⟩
    rw [Duration.nanos_of_add_eq_ok hleft, Duration.nanos_max]
    -- A link that was never used is free from the start.
    unfold freeAt
    cases n.linkFreeAt.get? packet.src <;> simp

/-- A packet arrives no earlier than it left, and without jitter just the
    latency after that. -/
theorem arrival_spec {due : Duration} (h : n.arrival packet = .ok (due, n')) :
    ∃ left free, n.Departs packet left free ∧ n.Handles free n' ∧ n.now ≤ due ∧
      (n.link.Steady → due.nanos = n.link.latency.nanos + left.nanos) := by
  unfold arrival at h
  obtain ⟨⟨left, m⟩, hleft, h⟩ := exists_of_bind_eq_ok h
  obtain ⟨crossed, hcrossed, h⟩ := exists_of_bind_eq_ok h
  obtain ⟨late, hlate, h⟩ := exists_of_bind_eq_ok h
  cases h
  obtain ⟨free, hdeparts, hleaves⟩ := departure_spec hleft
  have hlate : crossed.add m.jitter.1 = .ok due := hlate
  refine ⟨left, free, hdeparts, hleaves.after (handles_jitter m), ?_, fun hsteady => ?_⟩
  · exact Nat.le_trans hdeparts.now_le
      (Nat.le_trans (Duration.le_of_add_eq_ok hcrossed) (Duration.le_of_add_eq_ok hlate))
  · rw [jitter_of_steady (hleaves.link ▸ hsteady)] at hlate
    rw [Duration.nanos_of_add_eq_ok hlate, Duration.nanos_of_add_eq_ok hcrossed, hleaves.link,
      Duration.nanos_zero]
    omega

/-- A packet may come late, but not on a link without reordering. -/
theorem reorder_spec {due late : Duration} (h : n.reorder due = .ok (late, n')) :
    n.Handles n.linkFreeAt n' ∧ due ≤ late ∧ (n.link.Steady → late = due) := by
  unfold reorder at h
  dsimp only at h
  split at h
  · next hreorder =>
    obtain ⟨late, hlate, h⟩ := exists_of_map_eq_ok h
    cases h
    refine ⟨.changing n _ _ _ _ _, Duration.le_of_add_eq_ok hlate, fun hsteady => ?_⟩
    unfold decide at hreorder
    rw [hsteady.reordering] at hreorder
    cases hreorder
  · cases h
    exact ⟨handles_decide n _, Nat.le_refl due.nanos, fun _ => rfl⟩

/-- The network after second copies of a packet were put on its agenda. -/
structure Repeats (n : Network) (packet : Packet) (due : Duration) (copies : List Pending)
    (n' : Network) : Prop where
  grows : n.Grows copies n'
  link : n'.link = n.link
  log : n'.log = n.log
  linkFreeAt : n'.linkFreeAt = n.linkFreeAt
  sent : n'.stats.sent = n.stats.sent
  lost : n'.stats.lost = n.stats.lost
  filtered : n'.stats.filtered = n.stats.filtered
  duplicated : n'.stats.duplicated = n.stats.duplicated + copies.length
  length_le : copies.length ≤ 1
  event : ∀ e ∈ copies, e.event = .deliver packet
  /-- Without jitter a second copy is due together with the first one. -/
  due : n.link.Steady → ∀ e ∈ copies, e.due = due

theorem Handles.repeats (h : n.Handles n.linkFreeAt n') (packet : Packet) (due : Duration) :
    n.Repeats packet due [] n' :=
  ⟨h.grows, h.link, h.log, h.linkFreeAt, h.sent, h.lost, h.filtered, h.duplicated, Nat.zero_le 1,
    nofun, fun _ => nofun⟩

/-- A second copy arrives no earlier than the first one. -/
theorem exists_repeats_of_duplicate {due : Duration} (hdue : n.now ≤ due)
    (h : n.duplicate due packet = .ok n') : ∃ copies, n.Repeats packet due copies n' := by
  unfold duplicate at h
  dsimp only at h
  have hdecided := handles_decide n n.link.duplication
  generalize n.decide n.link.duplication = decided at h hdecided
  obtain ⟨twice, m⟩ := decided
  cases twice with
  | false =>
    cases h
    exact ⟨[], hdecided.repeats packet due⟩
  | true =>
    obtain ⟨again, hagain, h⟩ := exists_of_map_eq_ok h
    cases h
    have hagain : due.add m.jitter.1 = .ok again := hagain
    have hquiet := hdecided.after (handles_jitter m)
    have hlate : m.jitter.2.now ≤ again :=
      hquiet.now ▸ Nat.le_trans hdue (Duration.le_of_add_eq_ok hagain)
    have hput := hquiet.grows.after (grows_schedule hlate (.deliver packet))
    refine ⟨_, hput.before (.quiet rfl rfl rfl rfl), hquiet.link, hquiet.log, hquiet.linkFreeAt,
      hquiet.sent, hquiet.lost, hquiet.filtered, congrArg (· + 1) hquiet.duplicated,
      Nat.le_refl 1, by simp, ?_⟩
    intro hsteady e he
    rw [List.mem_singleton.mp he]
    rw [jitter_of_steady (hdecided.link ▸ hsteady)] at hagain
    exact Duration.ext (Duration.nanos_of_add_eq_ok hagain)

/-! ### Posting -/

/-- The network after it took a packet, and what it did with that. -/
structure Posts (n : Network) (c : Consignment) (n' : Network) : Prop where
  grows : n.Grows c.deliveries n'
  link : n'.link = n.link
  log : n'.log = c.entry :: n.log
  sentAt : c.entry.sentAt = n.now
  sent : n'.stats.sent = n.stats.sent + 1
  lost : n'.stats.lost = n.stats.lost + if c.entry.fate = .lost then 1 else 0
  filtered : n'.stats.filtered = n.stats.filtered + if c.entry.fate = .filtered then 1 else 0
  duplicated : n'.stats.duplicated = n.stats.duplicated + (c.deliveries.length - 1)
  undelivered : c.entry.fate ≠ .delivered → c.deliveries = [] ∧ n'.linkFreeAt = n.linkFreeAt
  /-- A packet that is put on its way arrives once or twice. -/
  count : c.entry.fate = .delivered → c.deliveries.length = 1 ∨ c.deliveries.length = 2
  conveyed : ∃ arriving, c.entry.packet.Conveyed arriving ∧
    ∀ e ∈ c.deliveries, e.event = .deliver arriving
  /-- It leaves its source, and on a steady link it arrives just the latency
      after that. -/
  departs : c.entry.fate = .delivered → ∃ left, n.Departs c.entry.packet left n'.linkFreeAt ∧
    (n.link.Steady → ∀ e ∈ c.deliveries, e.due.nanos = n.link.latency.nanos + left.nanos)

/-- The network after it counted a packet. -/
def counted (n : Network) : Network :=
  { n with stats := { n.stats with sent := n.stats.sent + 1 } }

theorem grows_of_counted (h : n.counted.Grows added n') : n.Grows added n' :=
  (Grows.quiet rfl rfl rfl rfl : n.Grows [] n.counted).after h

/-- A packet leaves when it would have left before it was looked at. -/
theorem Departs.of_handles {left : Duration} (hdeparts : m.Departs packet left free)
    (h : n.counted.Handles n.linkFreeAt m) : n.Departs packet left free := by
  have hfree : m.freeAt packet.src = n.freeAt packet.src := by
    unfold freeAt
    rw [h.linkFreeAt]
  obtain ⟨hunlimited, hlimited⟩ := hdeparts
  rw [h.link, h.now, h.linkFreeAt] at hunlimited
  rw [h.link, h.now, h.linkFreeAt, hfree] at hlimited
  exact ⟨hunlimited, hlimited⟩

/-- A packet that is not delivered leaves no more than its entry. -/
theorem posts_undelivered (h : n.counted.Handles n.linkFreeAt m) (packet : Packet) {fate : Fate}
    (hfate : fate ≠ .delivered) {stats : NetworkStats} (hsent : stats.sent = m.stats.sent)
    (hlost : stats.lost = m.stats.lost + if fate = .lost then 1 else 0)
    (hfiltered : stats.filtered = m.stats.filtered + if fate = .filtered then 1 else 0)
    (hduplicated : stats.duplicated = m.stats.duplicated) :
    n.Posts ⟨⟨m.now, packet, fate⟩, []⟩ ({ m with stats }.record packet fate) where
  grows := (grows_of_counted h.grows).after (.noted rfl rfl rfl rfl rfl)
  link := h.link
  log := congrArg _ h.log
  sentAt := h.now
  sent := hsent.trans h.sent
  lost := by rw [← show m.stats.lost = n.stats.lost from h.lost]; exact hlost
  filtered := by rw [← show m.stats.filtered = n.stats.filtered from h.filtered]; exact hfiltered
  duplicated := hduplicated.trans h.duplicated
  undelivered := fun _ => ⟨rfl, h.linkFreeAt⟩
  count := fun hdelivered => absurd hdelivered hfate
  conveyed := ⟨packet, .inl rfl, nofun⟩
  departs := fun hdelivered => absurd hdelivered hfate

/-- A packet that has left is posted, with a second copy or without. -/
theorem exists_posts_of_duplicate {left due : Duration} {arriving : Packet}
    (hdeparts : n.Departs packet left free) (h : n.counted.Handles free m)
    (hconveyed : packet.Conveyed arriving) (hahead : m.now ≤ due)
    (hdue : n.link.Steady → due.nanos = n.link.latency.nanos + left.nanos)
    (hduplicate : m.duplicate due arriving = .ok n') :
    ∃ deliveries, n.Posts ⟨⟨n'.now, packet, .delivered⟩, deliveries⟩
      ((n'.schedule due (.deliver arriving)).record packet .delivered) := by
  obtain ⟨copies, hrepeats⟩ := exists_repeats_of_duplicate hahead hduplicate
  have hgrown := h.grows.after hrepeats.grows
  have hput := hgrown.trans (grows_schedule (hrepeats.grows.now ▸ hahead) (.deliver arriving))
  have hlength := hrepeats.length_le
  -- The copies, if any, are on the agenda before the packet itself.
  refine ⟨copies ++ [⟨due, n'.serial + 1, .deliver arriving⟩], ?_⟩
  constructor
  · exact (grows_of_counted hput).before (.noted rfl rfl rfl rfl rfl)
  · exact hrepeats.link.trans h.link
  · exact congrArg _ (hrepeats.log.trans h.log)
  · exact hgrown.now
  · exact hrepeats.sent.trans h.sent
  · exact hrepeats.lost.trans h.lost
  · exact hrepeats.filtered.trans h.filtered
  · rw [List.length_append, List.length_singleton, Nat.add_sub_cancel]
    exact hrepeats.duplicated.trans (congrArg (· + copies.length) h.duplicated)
  · exact fun hfate => absurd rfl hfate
  · intro _
    simp only [List.length_append, List.length_singleton]
    omega
  · refine ⟨arriving, hconveyed, fun e he => ?_⟩
    rcases List.mem_append.mp he with he | he
    · exact hrepeats.event e he
    · rw [List.mem_singleton.mp he]
  · intro _
    have hfree : n'.linkFreeAt = free := hrepeats.linkFreeAt.trans h.linkFreeAt
    refine ⟨left, hfree ▸ hdeparts, fun hsteady e he => ?_⟩
    rcases List.mem_append.mp he with he | he
    · rw [hrepeats.due (h.link ▸ hsteady) e he, hdue hsteady]
    · rw [List.mem_singleton.mp he, hdue hsteady]

theorem exists_posts_of_carry (hm : n.counted.Handles n.linkFreeAt m)
    (h : m.carry packet = .ok n') :
    ∃ c, n.Posts c n' ∧ c.entry.packet = packet ∧ c.entry.fate = .delivered := by
  unfold carry at h
  obtain ⟨hcorrupt, hconveyed⟩ := corrupt_spec m packet
  generalize m.corrupt packet.payload = corrupted at h hcorrupt hconveyed
  obtain ⟨payload, n₁⟩ := corrupted
  obtain ⟨⟨due, n₂⟩, harrival, h⟩ := exists_of_bind_eq_ok h
  obtain ⟨⟨late, n₃⟩, hreorder, h⟩ := exists_of_bind_eq_ok h
  obtain ⟨n₄, hduplicate, h⟩ := exists_of_bind_eq_ok h
  cases h
  have hdamaged := hm.after hcorrupt
  -- It leaves as the packet that was sent: damage does not change its length.
  obtain ⟨left, free, hdeparts, harrived, hahead, hdue⟩ := arrival_spec harrival
  obtain ⟨hreordered, hlate, hpunctual⟩ := reorder_spec hreorder
  have hnow : n₃.now ≤ late := by
    rw [hreordered.now, harrived.now]
    exact Nat.le_trans hahead hlate
  have hlatency (hsteady : n.link.Steady) : late.nanos = n.link.latency.nanos + left.nanos := by
    have hsteady₁ : n₁.link.Steady := hdamaged.link ▸ hsteady
    rw [hpunctual (harrived.link ▸ hsteady₁), hdue hsteady₁, hdamaged.link]
    rfl
  obtain ⟨deliveries, hposts⟩ := exists_posts_of_duplicate (hdeparts.of_handles hdamaged)
    ((hdamaged.trans harrived).after hreordered) hconveyed hnow hlatency hduplicate
  exact ⟨_, hposts, rfl, rfl⟩

/-- **Whatever is handed to a network is posted.** It is unroutable exactly if
    there is no node that it could go to. -/
theorem exists_posts_of_transmit {routable : Bool} (h : n.transmit routable packet = .ok n') :
    ∃ c, n.Posts c n' ∧ c.entry.packet = packet ∧
      (c.entry.fate = .unroutable ↔ routable = false) := by
  unfold transmit at h
  dsimp only at h
  have hcounted : n.counted.Handles n.linkFreeAt n.counted := .refl n.counted
  -- Nobody has the address, or the filter drops it, or it is lost, or it is carried.
  split at h
  · next hroutable =>
    cases h
    exact ⟨_, posts_undelivered hcounted packet (by decide) rfl rfl rfl rfl, rfl,
      by simpa using hroutable⟩
  next hroutable =>
  have hroutable : routable = true := by simpa using hroutable
  have hconsulted := hcounted.after (handles_consultFilter n.counted packet)
  split at h
  · cases h
    exact ⟨_, posts_undelivered hconsulted packet (by decide) rfl rfl rfl rfl, rfl,
      by simp [hroutable]⟩
  have hrolled := hconsulted.after (handles_decide _ (n.counted.consultFilter packet).2.link.loss)
  split at h
  · cases h
    exact ⟨_, posts_undelivered hrolled packet (by decide) rfl rfl rfl rfl, rfl,
      by simp [hroutable]⟩
  · obtain ⟨c, hposts, hpacket, hfate⟩ := exists_posts_of_carry hrolled h
    exact ⟨c, hposts, hpacket, by simp [hfate, hroutable]⟩

/-! ### Effects -/

/-- What the effects of a node come to, one after the other: packets are posted,
    and timers put on the agenda. -/
inductive Absorbs (hosts : NodeAddr → Bool) (addr : NodeAddr) :
    Network → List Effect → List Consignment → Network → Prop where
  | nil {n : Network} : Absorbs hosts addr n [] [] n
  | send {n m n' : Network} {c : Consignment} {effects : List Effect} {later : List Consignment} :
      n.Posts c m → (c.entry.fate = .unroutable ↔ hosts c.entry.packet.dest = false) →
      Absorbs hosts addr m effects later n' →
      Absorbs hosts addr n (.send c.entry.packet :: effects) (c :: later) n'
  | arm {n n' : Network} {delay : Duration} {timer : Timer} {effects : List Effect}
      {later : List Consignment} :
      Absorbs hosts addr (n.armTimer addr delay timer) effects later n' →
      Absorbs hosts addr n (.arm delay timer :: effects) later n'

namespace Absorbs

variable {hosts : NodeAddr → Bool} {addr : NodeAddr} {effects : List Effect}
  {posted : List Consignment}

theorem packets (h : Absorbs hosts addr n effects posted n') :
    posted.map (fun c => c.entry.packet) = packetsOf effects := by
  induction h with
  | nil => rfl
  | send _ _ _ ih => exact congrArg _ ih
  | arm _ ih => exact ih

/-- All packets are handed over while the same nodes are there. -/
theorem unroutable_iff (h : Absorbs hosts addr n effects posted n') :
    ∀ c ∈ posted, c.entry.fate = .unroutable ↔ hosts c.entry.packet.dest = false := by
  induction h with
  | nil => exact nofun
  | send _ hfate _ ih => exact List.forall_mem_cons.mpr ⟨hfate, ih⟩
  | arm _ ih => exact ih

end Absorbs

end Network

/-- Carrying out effects changes no node, and hands the effects to the network. -/
theorem Simulation.exists_absorbs_of_carryOutAll {sim sim' : Simulation} {addr : NodeAddr}
    {effects : List Effect} (h : sim.carryOutAll addr effects = .ok sim') :
    sim'.nodes = sim.nodes ∧
      ∃ posted, Network.Absorbs sim.nodes.contains addr sim.net effects posted sim'.net := by
  induction effects generalizing sim with
  | nil =>
    cases h
    exact ⟨rfl, [], .nil⟩
  | cons effect effects ih =>
    unfold carryOutAll at h
    rw [List.foldlM_cons] at h
    obtain ⟨mid, hone, hrest⟩ := exists_of_bind_eq_ok h
    obtain ⟨hnodes, posted, habsorbs⟩ := ih hrest
    cases effect with
    | send packet =>
      obtain ⟨net, hnet, hone⟩ := exists_of_map_eq_ok hone
      cases hone
      obtain ⟨c, hposts, rfl, hroutable⟩ := Network.exists_posts_of_transmit hnet
      exact ⟨hnodes, c :: posted, .send hposts hroutable habsorbs⟩
    | arm delay timer =>
      cases hone
      exact ⟨hnodes, posted, .arm habsorbs⟩

/-- A node that acted is put back, and its effects are handed to the network. -/
theorem Simulation.exists_absorbs_of_settle {sim sim' : Simulation} {addr : NodeAddr} {node : Node}
    {effects : List Effect} (h : sim.settle addr node effects = .ok sim') :
    sim'.nodes = sim.nodes.put addr node ∧ ∃ posted,
      Network.Absorbs (sim.nodes.put addr node).contains addr sim.net effects posted sim'.net :=
  exists_absorbs_of_carryOutAll h

/-- A timer that a node waits for: when it is due, and for which node. -/
structure Wait where
  due : Duration
  addr : NodeAddr
  timer : Timer
  deriving DecidableEq, Repr

/-- What an event hands back, if it is a timer. -/
def Pending.wait? (e : Pending) : Option Wait :=
  match e.event with
  | .deliver _ => none
  | .timer addr timer => some ⟨e.due, addr, timer⟩

/-- What a node waits for after an effect at a time. -/
def Effect.wait? (now : Duration) (addr : NodeAddr) : Effect → Option Wait
  | .send _ => none
  | .arm delay timer => some ⟨now.addSat delay, addr, timer⟩

/-- What a node waits for after effects at a time, in order. -/
def waitsOf (now : Duration) (addr : NodeAddr) (effects : List Effect) : List Wait :=
  effects.filterMap (Effect.wait? now addr)

/-- Events that may come of handing a packet to the network. -/
structure Packet.Copies (sent : Packet) (added : List Pending) : Prop where
  length_le : added.length ≤ 2
  deliver : ∀ e ∈ added, ∃ arriving, e.event = .deliver arriving ∧ sent.Conveyed arriving

theorem Network.Posts.copies {n n' : Network} {c : Consignment} (h : n.Posts c n') :
    c.entry.packet.Copies c.deliveries where
  length_le := by
    by_cases hfate : c.entry.fate = .delivered
    · have hcount := h.count hfate
      omega
    · rw [(h.undelivered hfate).1]
      exact Nat.zero_le 2
  deliver := by
    obtain ⟨arriving, hconveyed, hevent⟩ := h.conveyed
    exact fun e he => ⟨arriving, hevent e he, hconveyed⟩

theorem Packet.Copies.waits {sent : Packet} {added : List Pending} (h : sent.Copies added) :
    added.filterMap Pending.wait? = [] := by
  rw [List.filterMap_eq_nil_iff]
  intro e he
  obtain ⟨arriving, hevent, -⟩ := h.deliver e he
  simp only [Pending.wait?, hevent]

namespace Simulation

variable {sim sim' : Simulation} {addr : NodeAddr}

/-- One effect of a node adds copies of the packet, or the event of the timer. -/
inductive Adds (now : Duration) (addr : NodeAddr) : Effect → List Pending → Prop where
  | copies {packet added} : packet.Copies added → Adds now addr (.send packet) added
  | timer {delay timer serial} : Adds now addr (.arm delay timer)
      [{ due := now.addSat delay, serial, event := .timer addr timer }]

theorem Adds.waits {now : Duration} {effect : Effect} {added : List Pending}
    (h : Adds now addr effect added) :
    added.filterMap Pending.wait? = (effect.wait? now addr).toList := by
  cases h with
  | copies hcopies => rw [hcopies.waits]; rfl
  | timer => rfl

/-- The effects of a node add one after the other. -/
inductive AddsAll (now : Duration) (addr : NodeAddr) : List Effect → List Pending → Prop where
  | nil : AddsAll now addr [] []
  | cons {effect effects added rest} : Adds now addr effect added →
      AddsAll now addr effects rest → AddsAll now addr (effect :: effects) (added ++ rest)

/-- Of the events that are added, those of timers are the ones waited for. -/
theorem AddsAll.waits {now : Duration} {effects : List Effect} {added : List Pending}
    (h : AddsAll now addr effects added) :
    added.filterMap Pending.wait? = waitsOf now addr effects := by
  induction h with
  | nil => rfl
  | cons hadds _ ih =>
    rw [List.filterMap_append, hadds.waits, ih]
    unfold waitsOf
    rw [List.filterMap_cons]
    split
    · next hnone => rw [hnone]; rfl
    · next hsome => rw [hsome]; rfl

end Simulation

/-- Effects add to a network. -/
theorem Network.Absorbs.exists_grows {hosts : NodeAddr → Bool} {addr : NodeAddr} {n n' : Network}
    {effects : List Effect} {posted : List Consignment}
    (h : Absorbs hosts addr n effects posted n') :
    ∃ added, n.Grows added n' ∧ Simulation.AddsAll n.now addr effects added := by
  induction h with
  | nil => exact ⟨[], .refl _, .nil⟩
  | send hposts _ _ ih =>
    obtain ⟨added, hgrows, hadds⟩ := ih
    -- The clock stands still, so the other effects are of the same time.
    rw [hposts.grows.now] at hadds
    exact ⟨_, hposts.grows.trans hgrows, .cons (.copies hposts.copies) hadds⟩
  | arm _ ih =>
    obtain ⟨added, hgrows, hadds⟩ := ih
    exact ⟨_, (grows_schedule (Duration.le_addSat ..) _).trans hgrows, .cons .timer hadds⟩

namespace Simulation

/-- A node that acted is put back, and its effects are added. -/
theorem settle_spec {sim sim' : Simulation} {addr : NodeAddr} {node : Node} {effects : List Effect}
    (h : sim.settle addr node effects = .ok sim') :
    sim'.nodes = sim.nodes.put addr node ∧ ∃ added, sim.net.Grows added sim'.net ∧
      AddsAll sim.now addr effects added := by
  obtain ⟨hnodes, posted, habsorbs⟩ := exists_absorbs_of_settle h
  exact ⟨hnodes, habsorbs.exists_grows⟩

end Simulation

end ReliableStream
