import ReliableStream.Proofs.Session
/-! # The integrity of the streams of a session

    In every state of a session the bytes that arrived at an end are a
    **prefix** of the bytes written at the other. The invariant ties three
    things together: each end knows its place in both streams, every parcel on
    the network is true of what was written where it was sent, and so the one
    payload that a receiver can append is the one that comes next. -/

namespace ReliableStream.Session

open Sequence

variable {w : Session} {σ σ' : State} {side : Side} {e : Endpoint}

/-! ### What an end knows -/

/-- An end knows its place in both streams. -/
structure Endpoint.Valid (w : Session) (side : Side) (e : Endpoint) : Prop where
  sound : e.connection.sender.Sound
  isn : e.connection.sender.isn = w.isn side
  holds : e.connection.sender.Holds e.written e.acked
  rcvNxt : ∀ r, e.connection.phase.receiver? = some r →
    r.rcvNxt = numberAt (w.isn side.other) e.accepted.length
  /-- No byte moves before the connection is answered. -/
  silent : e.connection.phase.receiver? = none → e.written = [] ∧ e.read = []

namespace Endpoint

theorem accepted_of_receiver {r : Receiver} (h : e.connection.phase.receiver? = some r) :
    e.accepted = e.read ++ r.buffer.contents := by
  unfold accepted readable
  rw [h]
  rfl

theorem accepted_of_unanswered (h : e.connection.phase.receiver? = none) : e.accepted = e.read := by
  unfold accepted readable
  rw [h]
  exact List.append_nil _

variable {ctx : Context} {c : Connection} {stimulus : Stimulus}

theorem accepted_of_created {shape : BufferShape} {s : Segment} {peerIsn : UInt32}
    (hbefore : e.connection.phase.receiver? = none)
    (hafter : c.phase.receiver? = some (.create shape peerIsn)) :
    (e.after ctx (.segment s) c).accepted = e.accepted := by
  rw [accepted_of_unanswered hbefore, accepted_of_receiver hafter, Receiver.contents_create,
    List.append_nil]
  exact List.append_nil _

theorem accepted_of_kept {r r' : Receiver} (hbefore : e.connection.phase.receiver? = some r)
    (hafter : c.phase.receiver? = some r')
    (hbytes : e.connection.handed stimulus ++ r'.buffer.contents = r.buffer.contents) :
    (e.after ctx stimulus c).accepted = e.accepted := by
  rw [accepted_of_receiver hbefore, accepted_of_receiver hafter, ← hbytes, ← List.append_assoc]
  rfl

theorem accepted_of_appended {s : Segment} {r r' : Receiver}
    (hbefore : e.connection.phase.receiver? = some r) (hafter : c.phase.receiver? = some r')
    (hbytes : r'.buffer.contents = r.buffer.contents ++ s.payload) :
    (e.after ctx (.segment s) c).accepted = e.accepted ++ s.payload := by
  rw [accepted_of_receiver hbefore, accepted_of_receiver hafter, hbytes, List.append_assoc]
  show (e.read ++ []) ++ _ = _
  rw [List.append_nil]

/-- What arrived changes only by the payload of a data segment that starts
    with the next byte expected. -/
theorem accepted_after (hreceived : e.connection.Received ctx stimulus c) :
    (e.after ctx stimulus c).accepted = e.accepted ∨
      ∃ s r, stimulus = .segment s ∧ s.kind = .data ∧
        e.connection.phase.receiver? = some r ∧ s.seq = r.rcvNxt ∧
        (e.after ctx stimulus c).accepted = e.accepted ++ s.payload := by
  cases hreceived with
  | absent hbefore hafter =>
    left
    rw [accepted_of_unanswered hbefore, accepted_of_unanswered hafter]
    show e.read ++ e.connection.handed stimulus = e.read
    rw [Connection.handed_of_unanswered hbefore, List.append_nil]
  | created hbefore _ _ hafter => exact Or.inl (accepted_of_created hbefore hafter)
  | kept hbefore hafter hbytes => exact Or.inl (accepted_of_kept hbefore hafter hbytes)
  | appended hbefore hafter hkind hseq hbytes =>
    exact Or.inr ⟨_, _, rfl, hkind, hbefore, hseq, accepted_of_appended hbefore hafter hbytes⟩

/-- Nothing is acknowledged before the connection is answered. -/
theorem Valid.acked_of_asked (h : e.Valid w side) (hphase : e.connection.phase = .synSent) :
    e.acked = 0 := by
  have hwritten := (h.silent (by rw [hphase]; rfl)).1
  have hacked_le := h.holds.acked_le
  rw [hwritten] at hacked_le
  exact Nat.le_zero.mp hacked_le

/-- The place in the incoming stream stays known. -/
theorem Valid.rcvNxt_after (h : e.Valid w side) (hreceived : e.connection.Received ctx stimulus c)
    (hpeer : ∀ s peerIsn, stimulus = .segment s → s.kind = .ack →
      s.payload = Wire.bytesOf32 peerIsn → peerIsn = w.isn side.other) :
    ∀ r, c.phase.receiver? = some r →
      r.rcvNxt = numberAt (w.isn side.other) (e.after ctx stimulus c).accepted.length := by
  intro r' hr'
  cases hreceived with
  | absent _ hafter =>
    rw [hafter] at hr'
    cases hr'
  | @created s peerIsn _ hbefore hkind hpayload hafter =>
    rw [accepted_of_created hbefore hafter, accepted_of_unanswered hbefore, (h.silent hbefore).2,
      ← hpeer s peerIsn rfl hkind hpayload]
    rw [hafter] at hr'
    cases hr'
    rfl
  | kept hbefore hafter hbytes hnext =>
    rw [accepted_of_kept hbefore hafter hbytes]
    rw [hafter] at hr'
    cases hr'
    exact hnext.trans (h.rcvNxt _ hbefore)
  | appended hbefore hafter _ _ hbytes hnext =>
    rw [accepted_of_appended hbefore hafter hbytes, List.length_append, ← advance_numberAt,
      ← h.rcvNxt _ hbefore]
    rw [hafter] at hr'
    cases hr'
    exact hnext

/-- A move keeps an end valid, if the answer to a request names the stream of
    the other end. -/
theorem Valid.after {effects : List Effect} (h : e.Valid w side)
    (hmoved : e.connection.Moved ctx stimulus c effects)
    (hpeer : ∀ s peerIsn, stimulus = .segment s → s.kind = .ack →
      s.payload = Wire.bytesOf32 peerIsn → peerIsn = w.isn side.other) :
    (e.after ctx stimulus c).Valid w side where
  sound := hmoved.sound h.sound
  isn := hmoved.isn.trans h.isn
  holds := by
    obtain ⟨acked, hholds, -⟩ := hmoved.learned h.sound h.holds h.acked_of_asked
    exact hholds.of_counts
  rcvNxt := h.rcvNxt_after hmoved.received hpeer
  silent := by
    intro hafter
    -- Only a connection that had no receiver before has none now.
    have hbefore : e.connection.phase.receiver? = none := by
      cases hmoved.received with
      | absent hbefore => exact hbefore
      | created hbefore => exact hbefore
      | kept _ hafter' => exact absurd (hafter'.symm.trans hafter) (Option.some_ne_none _)
      | appended _ hafter' => exact absurd (hafter'.symm.trans hafter) (Option.some_ne_none _)
    obtain ⟨hwritten, hread⟩ := h.silent hbefore
    constructor
    · show e.written ++ e.connection.taken ctx stimulus = []
      rw [hwritten, Connection.taken_of_unanswered hbefore, List.append_nil]
    · show e.read ++ e.connection.handed stimulus = []
      rw [hread, Connection.handed_of_unanswered hbefore, List.append_nil]

/-! ### New ends -/

/-- An end that has asked knows where its own stream begins. -/
theorem valid_asking {identity : Identity} {stats : Stats} (hprofile : ctx.profile = w.profile side) :
    Valid w side ⟨{ Connection.asking ctx identity with stats }, [], []⟩ where
  sound := by
    refine Sender.sound_create ?_ _ _ _
    rw [hprofile]
    exact w.capacity_le side
  isn := by
    unfold isn
    rw [← hprofile]
    rfl
  holds := (Sender.holds_create _ _ _ _).of_counts
  rcvNxt := nofun
  silent := fun _ => ⟨rfl, rfl⟩

theorem accepted_answering {identity : Identity} {request : Segment} {stats : Stats} :
    accepted ⟨{ Connection.answering ctx identity request with stats }, [], []⟩ = [] := by
  rw [accepted_of_receiver rfl, Receiver.contents_create, List.append_nil]

/-- An end that answers a request knows where both streams begin. -/
theorem valid_answering {identity : Identity} {request : Segment} {stats : Stats}
    (hprofile : ctx.profile = w.profile side) (hpeer : request.seq = w.isn side.other) :
    Valid w side ⟨{ Connection.answering ctx identity request with stats }, [], []⟩ where
  sound := by
    refine Sender.sound_create ?_ _ _ _
    rw [hprofile]
    exact w.capacity_le side
  isn := by
    unfold isn
    rw [← hprofile]
    rfl
  holds := (Sender.holds_create _ _ _ _).of_counts
  rcvNxt := by
    intro r hr
    cases hr
    rw [accepted_answering]
    show advance request.seq 1 = numberAt (w.isn side.other) 0
    rw [hpeer]
    rfl
  silent := nofun

end Endpoint

/-! ### What the network knows -/

/-- A parcel is true of what was written at the end that sent it. -/
structure Parcel.Fits (w : Session) (side : Side) (written : List UInt8) (p : Parcel) : Prop where
  syn : p.segment.kind = .syn → p.segment.seq = w.isn side
  data : p.segment.kind = .data → p.segment.seq = numberAt (w.isn side) p.position ∧
    p.segment.payload <+: written.drop p.position
  ack : p.segment.kind = .ack → p.segment.seq = numberAt (w.isn side.other) p.position ∧
    (p.segment.payload = [] ∨ p.segment.payload = Wire.bytesOf32 (w.isn side))

/-- Writing more makes no parcel untrue. -/
theorem Parcel.Fits.mono {written written' : List UInt8} {p : Parcel} (h : p.Fits w side written)
    (hle : written <+: written') : p.Fits w side written' where
  syn := h.syn
  data := by
    intro hkind
    obtain ⟨hseq, hpayload⟩ := h.data hkind
    obtain ⟨more, rfl⟩ := hle
    rw [List.drop_append]
    exact ⟨hseq, hpayload.trans (List.prefix_append _ _)⟩
  ack := h.ack

/-- Whatever a valid end says is true. -/
theorem Endpoint.Valid.fits {s : Segment} (h : e.Valid w side) (hstates : e.connection.States s) :
    Parcel.Fits w side e.written ⟨s, e.positionOf s⟩ := by
  cases hstates with
  | data hcarries =>
    have hkind := hcarries.kind
    have hposition := Endpoint.positionOf_of_data (e := e) hkind
    obtain ⟨hseq, hpayload⟩ := h.holds.carries h.sound hcarries
    rw [← hposition] at hseq hpayload
    refine ⟨fun hsyn => ?_, fun _ => ⟨?_, hpayload⟩, fun hack => ?_⟩
    · exact absurd (hkind.symm.trans hsyn) (by decide)
    · rw [← h.isn]
      exact hseq
    · exact absurd (hkind.symm.trans hack) (by decide)
  | syn _ => exact ⟨fun _ => h.isn, nofun, nofun⟩
  | ack hr => exact ⟨nofun, nofun, fun _ => ⟨h.rcvNxt _ hr, Or.inl rfl⟩⟩
  | synAck hr =>
    refine ⟨nofun, nofun, fun _ => ⟨h.rcvNxt _ hr, Or.inr ?_⟩⟩
    show Wire.bytesOf32 e.connection.sender.isn = _
    rw [h.isn]
  | fin finSeq => exact ⟨nofun, nofun, nofun⟩

/-- A data segment in reach that starts with the next byte expected is about
    the position where the bytes that arrived end. -/
theorem Endpoint.Valid.position_of_next {p : Parcel} {r : Receiver} {written : List UInt8}
    (h : e.Valid w side) (hfits : p.Fits w side.other written) (hkind : p.segment.kind = .data)
    (hreach : e.InReach p) (hr : e.connection.phase.receiver? = some r)
    (hseq : p.segment.seq = r.rcvNxt) : p.position = e.accepted.length := by
  have hsame : numberAt (w.isn side.other) p.position =
      numberAt (w.isn side.other) e.accepted.length := by
    rw [← (hfits.data hkind).1, hseq, h.rcvNxt r hr]
  exact (hreach.data hkind).eq_of_numberAt_eq hsame

/-! ### The invariant -/

/-- Both ends are valid, every parcel is true, and what arrived is a prefix of
    what was written. -/
structure Coherent (w : Session) (σ : State) : Prop where
  valid : ∀ side e, σ.ends side = some e → e.Valid w side
  fits : ∀ side, ∀ p ∈ σ.sent side, p.Fits w side (σ.written side)
  accepted : ∀ side, σ.accepted side <+: σ.written side.other

/-- What has to be shown of a change at one end: the end is valid, nothing
    that was written there is taken back, what it sends is true, and what
    arrived there was written at the other. -/
theorem Coherent.update {e : Option Endpoint} {parcels : List Parcel} (h : w.Coherent σ)
    (hvalid : ∀ e', e = some e' → e'.Valid w side)
    (hwritten : σ.written side <+: (σ.update side e parcels).written side)
    (hfits : ∀ p ∈ parcels, p.Fits w side ((σ.update side e parcels).written side))
    (haccepted : (σ.update side e parcels).accepted side <+: σ.written side.other) :
    w.Coherent (σ.update side e parcels) where
  valid := by
    intro side' e' he'
    by_cases hside : side' = side
    · subst hside
      rw [State.ends_update_self] at he'
      exact hvalid e' he'
    · rw [State.ends_update_of_ne hside] at he'
      exact h.valid side' e' he'
  fits := by
    intro side' p hp
    by_cases hside : side' = side
    · subst hside
      rw [State.sent_update_self] at hp
      rcases List.mem_append.mp hp with hp | hp
      · exact (h.fits side' p hp).mono hwritten
      · exact hfits p hp
    · rw [State.sent_update_of_ne hside] at hp
      rw [State.written_update_of_ne hside]
      exact h.fits side' p hp
  accepted := by
    intro side'
    by_cases hside : side' = side
    · subst hside
      rw [State.written_update_of_ne (Side.other_ne side')]
      exact haccepted
    · have hprefix := h.accepted side'
      rw [Side.other_eq_of_ne hside] at hprefix
      rw [State.accepted_update_of_ne hside, Side.other_eq_of_ne hside]
      exact hprefix.trans hwritten

/-- An end enters with nothing written and nothing read. -/
theorem Coherent.enter {opened : Connection × List Effect} (h : w.Coherent σ)
    (hfresh : σ.ends side = none) (hvalid : Endpoint.Valid w side ⟨opened.1, [], []⟩)
    (hempty : Endpoint.accepted ⟨opened.1, [], []⟩ = [])
    (hstates : ∀ s ∈ segmentsOf opened.2, opened.1.States s) :
    w.Coherent (σ.enter side opened) := by
  refine h.update ?_ ?_ ?_ ?_
  · intro e' he'
    cases he'
    exact hvalid
  · unfold State.written
    rw [hfresh]
    exact List.nil_prefix
  · intro p hp
    obtain ⟨s, hs, rfl⟩ := List.mem_map.mp hp
    rw [State.written_of_end State.ends_update_self]
    exact hvalid.fits (hstates s hs)
  · rw [State.accepted_of_end State.ends_update_self, hempty]
    exact List.nil_prefix

/-! ### Steps -/

/-- Where there are no ends, there is nothing to show. -/
theorem coherent_empty (w : Session) : w.Coherent ⟨fun _ => none, fun _ => []⟩ where
  valid := by
    intro side e he
    cases he
  fits := fun _ _ hp => absurd hp List.not_mem_nil
  accepted := fun _ => List.nil_prefix

theorem coherent_start (w : Session) (now : Duration) : w.Coherent (w.start now) := by
  unfold start
  rcases hopened : Connection.request (w.context .opening now) (w.identity .opening)
    with ⟨c, effects⟩
  obtain ⟨⟨stats, rfl⟩, -, hsent⟩ := Connection.eq_of_request hopened
  refine (coherent_empty w).enter rfl (Endpoint.valid_asking rfl)
    (Endpoint.accepted_of_unanswered rfl) ?_
  intro s hs
  rw [hsent s hs]
  exact .syn rfl

theorem Coherent.spawn {now : Duration} {p : Parcel} (h : w.Coherent σ)
    (hnone : σ.ends .answering = none) (hmem : p ∈ σ.sent .opening)
    (hkind : p.segment.kind = .syn) :
    w.Coherent (σ.enter .answering
      (Connection.answer (w.context .answering now) (w.identity .answering) p.segment)) := by
  rcases hopened : Connection.answer (w.context .answering now) (w.identity .answering) p.segment
    with ⟨c, effects⟩
  obtain ⟨⟨stats, rfl⟩, -, hsent⟩ := Connection.eq_of_answer hopened
  have hisn : p.segment.seq = w.isn .opening := (h.fits .opening p hmem).syn hkind
  refine h.enter hnone (Endpoint.valid_answering rfl hisn) Endpoint.accepted_answering ?_
  intro s hs
  rw [hsent s hs]
  exact .synAck rfl

/-- A segment that may arrive comes from the other end, or announces its end. -/
theorem Coherent.fits_of_allows {s : Segment} (h : w.Coherent σ)
    (hallowed : σ.Allows side e (.segment s)) (hkind : s.kind ≠ .fin) :
    ∃ p ∈ σ.sent side.other, p.segment = s ∧ e.InReach p ∧
      p.Fits w side.other (σ.written side.other) := by
  rcases hallowed with hfin | ⟨p, hmem, hsegment, hreach⟩
  · exact absurd hfin hkind
  · exact ⟨p, hmem, hsegment, hreach, h.fits side.other p hmem⟩

/-- No acknowledgment that may arrive is from the opposite side of the turn. -/
theorem Coherent.not_opposite {stimulus : Stimulus} (h : w.Coherent σ)
    (hend : σ.ends side = some e) (hallowed : σ.Allows side e stimulus) :
    ¬ e.connection.Opposite stimulus := by
  cases stimulus with
  | segment s =>
    rintro ⟨hkind, hopposite⟩
    obtain ⟨p, -, rfl, hreach, hfits⟩ := h.fits_of_allows hallowed (by rw [hkind]; decide)
    have hvalid := h.valid side e hend
    rw [(hfits.ack hkind).1, hvalid.holds.sndUna, hvalid.isn, Side.other_other] at hopposite
    exact (hreach.ack hkind).not_opposite hopposite
  | _ => exact id

/-- The one payload that a receiver can append is the one that comes next. -/
theorem Coherent.accepted_after {ctx : Context} {stimulus : Stimulus} {c : Connection}
    (h : w.Coherent σ) (hend : σ.ends side = some e) (hallowed : σ.Allows side e stimulus)
    (hreceived : e.connection.Received ctx stimulus c) :
    (e.after ctx stimulus c).accepted <+: σ.written side.other := by
  have hprefix := h.accepted side
  rw [State.accepted_of_end hend] at hprefix
  rcases Endpoint.accepted_after hreceived with hsame | ⟨s, r, rfl, hkind, hr, hseq, hmore⟩
  · rw [hsame]
    exact hprefix
  · obtain ⟨p, -, rfl, hreach, hfits⟩ := h.fits_of_allows hallowed (by rw [hkind]; decide)
    obtain ⟨-, hpayload⟩ := hfits.data hkind
    have hposition := (h.valid side e hend).position_of_next hfits hkind hreach hr hseq
    obtain ⟨rest, hrest⟩ := hprefix
    rw [hposition, ← hrest, List.drop_left] at hpayload
    rw [hmore, ← hrest]
    exact (List.prefix_append_right_inj _).mpr hpayload

theorem Coherent.step (h : w.Coherent σ) (hstep : w.Step σ σ') : w.Coherent σ' := by
  cases hstep with
  | @respond e answer side now stimulus hend hallowed hrespond =>
    obtain ⟨c, effects⟩ := answer
    have hvalid := h.valid side e hend
    have hmoved := Connection.moved_of_respond hvalid.sound (h.not_opposite hend hallowed) hrespond
    have hafter : (e.after (w.context side now) stimulus c).Valid w side := by
      refine hvalid.after hmoved ?_
      rintro s peerIsn rfl hkind hpayload
      obtain ⟨p, -, rfl, -, hfits⟩ := h.fits_of_allows hallowed (by rw [hkind]; decide)
      rcases (hfits.ack hkind).2 with hnil | hisn
      · rw [hnil] at hpayload
        cases hpayload
      · exact Wire.bytesOf32_inj (hpayload.symm.trans hisn)
    refine h.update ?_ ?_ ?_ ?_
    · intro e' he'
      cases he'
      exact hafter
    · rw [State.written_of_end hend, State.written_of_end State.ends_update_self]
      exact List.prefix_append _ _
    · intro p hp
      obtain ⟨s, hs, rfl⟩ := List.mem_map.mp hp
      rw [State.written_of_end State.ends_update_self]
      exact hafter.fits (hmoved.states s hs)
    · rw [State.accepted_of_end State.ends_update_self]
      exact h.accepted_after hend hallowed hmoved.received
  | spawn now p hnone hmem hkind => exact h.spawn hnone hmem hkind
  | withdraw hend hphase =>
    have hsilent := (h.valid .opening _ hend).silent (by rw [hphase]; rfl)
    refine h.update ?_ ?_ ?_ List.nil_prefix
    · intro e' he'
      cases he'
    · rw [State.written_of_end hend, hsilent.1]
      exact List.nil_prefix
    · exact fun p hp => absurd hp List.not_mem_nil

theorem coherent_of_reachable (h : w.Reachable σ) : w.Coherent σ := by
  induction h with
  | start now => exact coherent_start w now
  | step _ hstep ih => exact ih.step hstep

/-- **Stream integrity.** Whatever the network, the timers and the two
    applications do, the bytes that arrived at an end are a prefix of the bytes
    written at the other: nothing is lost in between, doubled, reordered or
    altered. -/
theorem accepted_prefix_written (h : w.Reachable σ) (side : Side) :
    σ.accepted side <+: σ.written side.other :=
  (coherent_of_reachable h).accepted side

/-- A session with small buffers whose first stream soon passes the turn. -/
def small : Session where
  addr
    | .opening => 1
    | .answering => 2
  profile side :=
    { shape := { capacity := 8, mss := 4, two_le_capacity := by decide, mss_pos := by decide }
      initialSeq := if side = .opening then 4_294_967_294 else 100
      ttl := 15
      timers := {}
      mss_le := by decide
      mss_lt := by decide
      capacity_lt := by decide
      ttl_ne := by decide }
  socket _ := 1
  port
    | .opening => 5000
    | .answering => 80
  capacity_le _ := (by decide : 8 ≤ 2_147_483_648)

/-- In the small session six bytes are written. Of the four that travel, two
    are read, and a second copy of their segment is dropped. -/
theorem small_accepted_prefix_written : ∃ σ, small.Reachable σ ∧
    σ.accepted .answering = [10, 20, 30, 40] ∧ σ.written .opening = [10, 20, 30, 40, 50, 60] ∧
    σ.accepted .answering <+: σ.written Side.answering.other := by
  let syn : Segment := ⟨5000, 80, .syn, 4, 4_294_967_294, []⟩
  let synAck : Segment := ⟨80, 5000, .ack, 7, 4_294_967_295, [0, 0, 0, 100]⟩
  let data : Segment := ⟨5000, 80, .data, 4, 4_294_967_295, [10, 20, 30, 40]⟩
  have asked := Reachable.start (w := small) .zero
  have spawned := asked.step (.spawn .zero ⟨syn, 0⟩ rfl (by decide +kernel) rfl)
  have answered := spawned.step (.respond .opening .zero (.segment synAck) rfl
    (Or.inr ⟨⟨synAck, 0⟩, by decide +kernel, rfl, nofun, fun _ => by decide +kernel⟩) rfl)
  have wrote := answered.step
    (.respond .opening .zero (.write [10, 20, 30, 40, 50, 60]) rfl trivial rfl)
  have arrived := wrote.step (.respond .answering .zero (.segment data) rfl
    (Or.inr ⟨⟨data, 0⟩, by decide +kernel, rfl, fun _ => by decide +kernel, nofun⟩) rfl)
  have read := arrived.step (.respond .answering .zero (.read 2) rfl trivial rfl)
  have again := read.step (.respond .answering .zero (.segment data) rfl
    (Or.inr ⟨⟨data, 0⟩, by decide +kernel, rfl, fun _ => by decide +kernel, nofun⟩) rfl)
  exact ⟨_, again, by decide +kernel, by decide +kernel, accepted_prefix_written again .answering⟩

end ReliableStream.Session
