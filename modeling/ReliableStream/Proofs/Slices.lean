import ReliableStream.Proofs.Positions
/-! # Flights as slices of the stream

    A flight is a **slice** of what is buffered: a row of data segments that
    follow each other without a gap, starting at the oldest unacknowledged
    byte and reaching as far as both windows let it. A whole run of a sender is
    a **transcript** of what was written and of every segment that was ever
    sent, each with its position in the stream. However windows are cut again,
    every segment of the transcript carries the bytes that were written at its
    position. -/

namespace ReliableStream

open Sequence

/-! ### Rows of segments -/

namespace Segment

/-- The segments follow each other, from a sequence number on. -/
def Consecutive (start : UInt32) : List Segment → Prop
  | [] => True
  | s :: rest => s.seq = start ∧ Consecutive (advance start s.payload.length) rest

/-- What a row of segments carries. -/
def payloads (segments : List Segment) : List UInt8 := segments.flatMap (·.payload)

/-- The segments of a row with the positions they start at. -/
def placed (position : Nat) : List Segment → List (Nat × Segment)
  | [] => []
  | s :: rest => (position, s) :: placed (position + s.payload.length) rest

theorem mem_of_placed {segments : List Segment} {start position : Nat} {s : Segment}
    (h : (position, s) ∈ placed start segments) : s ∈ segments := by
  induction segments generalizing start with
  | nil => cases h
  | cons first rest ih =>
    cases h with
    | head => exact List.mem_cons_self
    | tail _ htail => exact List.mem_cons_of_mem _ (ih htail)

/-- Segments that follow each other have the numbers of their positions. -/
theorem Consecutive.seq_of_placed {isn : UInt32} {segments : List Segment} {start position : Nat}
    {s : Segment} (h : Consecutive (numberAt isn start) segments)
    (hmem : (position, s) ∈ placed start segments) : s.seq = numberAt isn position := by
  induction segments generalizing start with
  | nil => cases hmem
  | cons first rest ih =>
    obtain ⟨hseq, hrest⟩ := h
    rw [advance_numberAt] at hrest
    cases hmem with
    | head => exact hseq
    | tail _ htail => exact ih hrest htail

/-- If the row carries a slice of a stream, each segment carries the bytes at
    its position. -/
theorem prefix_of_placed {stream : List UInt8} {segments : List Segment} {start position : Nat}
    {s : Segment} (h : payloads segments <+: stream.drop start)
    (hmem : (position, s) ∈ placed start segments) : s.payload <+: stream.drop position := by
  induction segments generalizing start with
  | nil => cases hmem
  | cons first rest ih =>
    have hsplit : first.payload ++ payloads rest <+: stream.drop start := h
    cases hmem with
    | head => exact (List.prefix_append _ _).trans hsplit
    | tail _ htail =>
      refine ih ?_ htail
      rw [← List.drop_drop]
      obtain ⟨tail, htail⟩ := hsplit
      rw [← htail, List.append_assoc, List.drop_left]
      exact List.prefix_append _ _

end Segment

/-! ### Cuts as rows -/

theorem Ring.slice_append (r : Ring) (offset m n : Nat) :
    r.slice offset m ++ r.slice (offset + m) n = r.slice offset (m + n) := by
  unfold slice
  rw [List.range_add, List.map_append, List.map_map]
  congr 1
  apply List.map_congr_left
  intro i _
  simp only [Function.comp_apply, Nat.add_assoc]

namespace StreamBuffer

/-- The last pieces of a cut, from a place in it on. -/
def piecesFrom (b : StreamBuffer) (srcPort dstPort : UInt16) (start : UInt32)
    (skip total offset count : Nat) : List Segment :=
  (List.range count).map fun i =>
    b.piece srcPort dstPort start skip total (offset + i * b.mss)

theorem piecesFrom_succ (b : StreamBuffer) (srcPort dstPort : UInt16) (start : UInt32)
    (skip total offset count : Nat) :
    b.piecesFrom srcPort dstPort start skip total offset (count + 1) =
      b.piece srcPort dstPort start skip total offset ::
        b.piecesFrom srcPort dstPort start skip total (offset + b.mss) count := by
  unfold piecesFrom
  rw [List.range_succ_eq_map, List.map_cons, Nat.zero_mul, Nat.add_zero, List.map_map]
  congr 1
  apply List.map_congr_left
  intro i _
  show b.piece srcPort dstPort start skip total (offset + (i + 1) * b.mss) = _
  rw [Nat.succ_mul]
  congr 1
  omega

theorem length_piece (b : StreamBuffer) (srcPort dstPort : UInt16) (start : UInt32)
    (skip total offset : Nat) :
    (b.piece srcPort dstPort start skip total offset).payload.length =
      min b.mss (total - offset) :=
  Ring.length_slice ..

/-- A piece of what is left carries data, and at most the largest segment. -/
theorem piece_of_left (b : StreamBuffer) (srcPort dstPort : UInt16) (start : UInt32)
    (skip total : Nat) {offset : Nat} (hleft : 0 < total - offset) :
    (b.piece srcPort dstPort start skip total offset).kind = .data ∧
      (b.piece srcPort dstPort start skip total offset).payload ≠ [] ∧
      (b.piece srcPort dstPort start skip total offset).payload.length ≤ b.mss := by
  have hpos := b.mss_pos
  refine ⟨rfl, ?_, ?_⟩
  · rw [← List.length_pos_iff, length_piece]
    omega
  · rw [length_piece]
    exact Nat.min_le_left _ _

/-- The last pieces of a cut follow each other and carry the rest of it. -/
theorem row_piecesFrom (b : StreamBuffer) (srcPort dstPort : UInt16) (start : UInt32)
    (skip total count : Nat) {offset : Nat} (hoffset : offset ≤ total)
    (hcount : count = (total - offset + b.mss - 1) / b.mss) :
    Segment.Consecutive (advance start offset)
        (b.piecesFrom srcPort dstPort start skip total offset count) ∧
      Segment.payloads (b.piecesFrom srcPort dstPort start skip total offset count) =
        b.ring.slice (skip + offset) (total - offset) ∧
      ∀ s ∈ b.piecesFrom srcPort dstPort start skip total offset count,
        s.kind = .data ∧ s.payload ≠ [] ∧ s.payload.length ≤ b.mss := by
  have hpos := b.mss_pos
  induction count generalizing offset with
  | zero =>
    have hnone : total - offset = 0 := by
      rcases Nat.div_eq_zero_iff.mp hcount.symm with h | h <;> omega
    rw [hnone]
    exact ⟨trivial, rfl, fun s hs => by cases hs⟩
  | succ count ih =>
    have hleft : 0 < total - offset := by
      rw [Nat.pos_iff_ne_zero]
      intro hnone
      rw [hnone, Nat.div_eq_of_lt (by omega)] at hcount
      cases hcount
    have hfirst := b.piece_of_left srcPort dstPort start skip total hleft
    rw [piecesFrom_succ]
    rcases Nat.le_total (total - offset) b.mss with hlast | hfull
    -- The last piece carries all that is left.
    · have hzero : count = 0 := by
        have hone : (total - offset + b.mss - 1) / b.mss = 1 := by
          rw [Nat.div_eq_iff hpos]
          omega
        omega
      subst hzero
      refine ⟨⟨rfl, trivial⟩, ?_, ?_⟩
      · show b.ring.slice (skip + offset) (min b.mss (total - offset)) ++ [] = _
        rw [List.append_nil, Nat.min_eq_right hlast]
      · intro s hs
        rw [List.mem_singleton.mp hs]
        exact hfirst
    -- The first piece is full, and the others carry what comes after it.
    · have hmin : min b.mss (total - offset) = b.mss := Nat.min_eq_left hfull
      have hrest : count = (total - (offset + b.mss) + b.mss - 1) / b.mss := by
        have hsplit : total - offset + b.mss - 1 =
            (total - (offset + b.mss) + b.mss - 1) + b.mss := by omega
        rw [hsplit, Nat.add_div_right _ hpos] at hcount
        omega
      have hwithin : offset + b.mss ≤ total := by omega
      obtain ⟨hrow, hcarried, hshape⟩ := ih hwithin hrest
      refine ⟨⟨rfl, ?_⟩, ?_, ?_⟩
      · rw [length_piece, hmin, ← advance_add]
        exact hrow
      · show b.ring.slice (skip + offset) (min b.mss (total - offset)) ++ Segment.payloads _ = _
        rw [hcarried, hmin, ← Nat.add_assoc, Ring.slice_append]
        congr 1
        omega
      · intro s hs
        rcases List.mem_cons.mp hs with rfl | hs
        · exact hfirst
        · exact hshape s hs

/-- A cut is a row of data segments from its number on, none of them empty or
    larger than the largest segment. Together they carry as much of the buffer
    from there as may be sent. -/
theorem row_cut {b : StreamBuffer} (srcPort dstPort : UInt16) {start : UInt32} (window : UInt32)
    {skip : Nat} (hplace : b.place? start = some skip) :
    Segment.Consecutive start (b.cut srcPort dstPort start window) ∧
      Segment.payloads (b.cut srcPort dstPort start window) =
        (b.contents.drop skip).take (b.sendable skip window) ∧
      ∀ s ∈ b.cut srcPort dstPort start window,
        s.kind = .data ∧ s.payload ≠ [] ∧ s.payload.length ≤ b.mss := by
  have hcut : b.cut srcPort dstPort start window =
      b.piecesFrom srcPort dstPort start skip (b.sendable skip window) 0
        ((b.sendable skip window + b.mss - 1) / b.mss) := by
    rw [cut_of_place? srcPort dstPort window hplace]
    simp only [piecesFrom, Nat.zero_add]
  have hfit : skip + b.sendable skip window ≤ b.ring.used := by
    have hle := le_used_of_place? hplace
    have hused : b.used = b.ring.used := rfl
    unfold sendable
    omega
  obtain ⟨hrow, hcarried, hshape⟩ := b.row_piecesFrom srcPort dstPort start skip
    (b.sendable skip window) _ (Nat.zero_le _) rfl
  rw [advance_zero] at hrow
  rw [Nat.add_zero, Nat.sub_zero, b.ring.slice_eq _ _ hfit] at hcarried
  rw [hcut]
  exact ⟨hrow, hcarried, hshape⟩

end StreamBuffer

/-! ### Flights as rows -/

namespace Sender

/-- How many bytes travel next: all that are buffered, bounded by both windows,
    each of which lets at least one byte through. -/
def allowance (s : Sender) : Nat :=
  min s.buffered (min (max s.congestion.cwnd 1) (max s.rwnd.toNat 1))

/-- The segments are the next slice of what a sender has buffered. -/
structure Slices (s : Sender) (segments : List Segment) : Prop where
  ne_nil : segments ≠ []
  consecutive : Segment.Consecutive s.sndUna segments
  shape : ∀ segment ∈ segments,
    segment.kind = .data ∧ segment.payload ≠ [] ∧ segment.payload.length ≤ s.buffer.mss
  payloads : Segment.payloads segments = s.buffer.contents.take s.allowance

theorem Slices.length_payloads {s : Sender} {segments : List Segment} (h : s.Slices segments) :
    (Segment.payloads segments).length = s.allowance := by
  rw [h.payloads, List.length_take, StreamBuffer.length_contents]
  exact Nat.min_eq_left (Nat.min_le_left _ _)

/-- What the cut lets through is what is allowed: no window of a sound sender
    is cut off by the width of the window field. -/
theorem Sound.sendable_eq {s : Sender} (h : s.Sound) :
    s.cutBuffer.sendable 0 s.cutWindow = s.allowance := by
  have hcwnd : (UInt32.ofNat (max s.congestion.cwnd 1)).toNat = max s.congestion.cwnd 1 := by
    have hle : s.congestion.cwnd ≤ 4_294_967_295 := h.congestion.cwnd
    rw [UInt32.toNat_ofNat']
    omega
  have hrwnd : s.cutWindow.toNat = max s.rwnd.toNat 1 := by
    unfold cutWindow
    split
    · next hzero =>
      rw [hzero]
      rfl
    · next hne =>
      have hpos : s.rwnd.toNat ≠ 0 := fun hzero => hne (UInt32.toNat_inj.mp hzero)
      omega
  show min (min (s.buffer.used - 0) (UInt32.ofNat (max s.congestion.cwnd 1)).toNat)
    s.cutWindow.toNat = min s.buffer.used _
  rw [hcwnd, hrwnd, Nat.sub_zero, Nat.min_assoc]

theorem Sound.slices_of_nextWindow? {s s' : Sender} {srcPort dstPort : UInt16} {now : Duration}
    {flight : Flight} (h : s.Sound)
    (e : s.nextWindow? srcPort dstPort now = some (flight, s')) : s.Slices flight.segments := by
  obtain ⟨hsegments, hne⟩ := segments_of_nextWindow? e
  have hplace : s.cutBuffer.place? s.sndUna = some 0 := by
    have hbase : s.cutBuffer.baseSeq = s.sndUna := h.base
    unfold StreamBuffer.place?
    rw [hbase, steps_self, if_pos (Nat.zero_le _)]
  obtain ⟨hrow, hcarried, hshape⟩ :=
    StreamBuffer.row_cut srcPort dstPort s.cutWindow hplace
  rw [← hsegments] at hrow hcarried hshape
  rw [List.drop_zero, h.sendable_eq] at hcarried
  exact ⟨hne, hrow, hshape, hcarried⟩

theorem Sound.slices_of_onWindowTimeout? {s s' : Sender} {generation : Nat}
    {srcPort dstPort : UInt16} {now : Duration} {flight : Flight} (h : s.Sound)
    (e : s.onWindowTimeout? generation srcPort dstPort now = some (flight, s')) :
    s.Slices flight.segments := by
  obtain ⟨-, -, cut, s'', hnext, hsegments, -⟩ := exists_of_onWindowTimeout? e
  rw [hsegments]
  exact h.slices_of_nextWindow? hnext

/-- A sender has a window to send exactly if it is not drained. -/
theorem Sound.nextWindow?_eq_none_iff {s : Sender} (h : s.Sound) (srcPort dstPort : UInt16)
    (now : Duration) : s.nextWindow? srcPort dstPort now = none ↔ s.isDrained = true := by
  constructor
  · intro hnone
    rw [← Bool.not_eq_false]
    intro hleft
    obtain ⟨flight, s', hsome⟩ := h.exists_nextWindow? hleft srcPort dstPort now
    rw [hnone] at hsome
    cases hsome
  · intro hdrained
    rw [Option.eq_none_iff_forall_ne_some]
    rintro ⟨flight, s'⟩ hsome
    have hleft := (h.launch_of_nextWindow? hsome).not_drained
    rw [hdrained] at hleft
    cases hleft

end Sender

/-! ### Transcripts -/

/-- A sender, and what happened to it so far. -/
structure Transcript where
  sender : Sender
  /-- Everything that was accepted for sending. -/
  written : List UInt8
  /-- How many bytes were freed by acknowledgments. -/
  acked : Nat
  /-- Every segment that was sent, with its position in the stream. A flight
      starts at the oldest byte that is not freed, and each of its segments
      where the one before it ends. -/
  emitted : List (Nat × Segment)

namespace Transcript

/-- A new sender, before anything is written. -/
def start (profile : Profile) (isn rwnd : UInt32) : Transcript where
  sender := .create profile.shape profile.timers isn rwnd
  written := []
  acked := 0
  emitted := []

/-- The transcript after a flight. -/
def launched (t : Transcript) (flight : Flight) (s : Sender) : Transcript :=
  { t with sender := s, emitted := t.emitted ++ Segment.placed t.acked flight.segments }

/-- What can happen to a sender, in any order and at any time. Only
    acknowledgments from exactly the opposite side of the turn are left out. -/
inductive Step (t : Transcript) : Transcript → Prop where
  | write (bytes : List UInt8) :
      Step t { t with
        sender := (t.sender.write bytes).2
        written := t.written ++ bytes.take (t.sender.write bytes).1 }
  | window (srcPort dstPort : UInt16) (now : Duration) {flight : Flight} {s : Sender}
      (h : t.sender.nextWindow? srcPort dstPort now = some (flight, s)) :
      Step t (t.launched flight s)
  | ack (ack window : UInt32) (now : Duration) {outcome : AckOutcome} {s : Sender}
      (hopposite : steps t.sender.sndUna ack ≠ 2_147_483_648)
      (h : t.sender.onAck ack window now = .ok (outcome, s)) :
      Step t { t with sender := s, acked := t.acked + outcome.freed }
  | timeout (generation : Nat) (srcPort dstPort : UInt16) (now : Duration) {flight : Flight}
      {s : Sender} (h : t.sender.onWindowTimeout? generation srcPort dstPort now = some (flight, s)) :
      Step t (t.launched flight s)
  | receiverWindow (rwnd : UInt32) :
      Step t { t with sender := t.sender.withReceiverWindow rwnd }

/-- The transcripts of the runs of a new sender. -/
inductive Reachable (profile : Profile) (isn rwnd : UInt32) : Transcript → Prop where
  | start : Reachable profile isn rwnd (start profile isn rwnd)
  | step {t t' : Transcript} (h : Reachable profile isn rwnd t) (hstep : t.Step t') :
      Reachable profile isn rwnd t'

/-- The segment carries exactly the bytes that were written at a position, under
    the number of that position. -/
structure Quotes (isn : UInt32) (written : List UInt8) (position : Nat) (s : Segment) : Prop where
  seq : s.seq = numberAt isn position
  within : position + s.payload.length ≤ written.length
  payload : s.payload = (written.drop position).take s.payload.length

/-- Writing more changes nothing that was written. -/
theorem Quotes.append {isn : UInt32} {written : List UInt8} {position : Nat} {s : Segment}
    (h : Quotes isn written position s) (more : List UInt8) :
    Quotes isn (written ++ more) position s where
  seq := h.seq
  within := by
    have hwithin := h.within
    rw [List.length_append]
    omega
  payload := by
    have hwithin := h.within
    have hdrop : s.payload.length ≤ (written.drop position).length := by
      rw [List.length_drop]
      omega
    rw [List.drop_append_of_le_length (by omega), List.take_append_of_le_length hdrop]
    exact h.payload

/-- Two segments that quote the same stream agree wherever both have a byte. -/
theorem Quotes.agree {isn : UInt32} {written : List UInt8} {position position' place : Nat}
    {s s' : Segment} (h : Quotes isn written position s) (h' : Quotes isn written position' s')
    (hplace : position ≤ place ∧ place < position + s.payload.length)
    (hplace' : position' ≤ place ∧ place < position' + s'.payload.length) :
    s.payload[place - position]? = s'.payload[place - position']? := by
  have hbyte : ∀ {position : Nat} {s : Segment}, Quotes isn written position s →
      position ≤ place ∧ place < position + s.payload.length →
      s.payload[place - position]? = written[place]? := by
    intro position s h hplace
    rw [h.payload, List.getElem?_take_of_lt (by omega), List.getElem?_drop,
      Nat.add_sub_cancel' hplace.1]
  rw [hbyte h hplace, hbyte h' hplace']

/-- What holds of every transcript. -/
structure Faithful (profile : Profile) (isn : UInt32) (t : Transcript) : Prop where
  sound : t.sender.Sound
  holds : t.sender.Holds t.written t.acked
  origin : t.sender.isn = isn
  mss : t.sender.buffer.mss = profile.shape.mss
  quotes : ∀ position s, (position, s) ∈ t.emitted → Quotes isn t.written position s

variable {profile : Profile} {isn rwnd : UInt32} {t t' : Transcript}

theorem faithful_start (hsize : profile.shape.capacity ≤ 2_147_483_648) :
    (start profile isn rwnd).Faithful profile isn where
  sound := Sender.sound_create hsize profile.timers isn rwnd
  holds := Sender.holds_create profile.shape profile.timers isn rwnd
  origin := rfl
  mss := rfl
  quotes := fun _ _ h => by cases h

/-- A flight adds segments that quote what is written. -/
theorem Faithful.launched {flight : Flight} {s : Sender} (h : t.Faithful profile isn)
    (hlaunch : t.sender.Launch flight s) (hslices : t.sender.Slices flight.segments) :
    (t.launched flight s).Faithful profile isn where
  sound := hlaunch.sound
  holds := h.holds.launch hlaunch
  origin := hlaunch.isn.trans h.origin
  mss := hlaunch.mss.trans h.mss
  quotes := by
    intro position segment hmem
    rcases List.mem_append.mp hmem with hold | hnew
    · exact h.quotes position segment hold
    · have hstart : numberAt isn t.acked = t.sender.sndUna := by rw [h.holds.sndUna, h.origin]
      have hseq : segment.seq = numberAt isn position := by
        have hrow := hslices.consecutive
        rw [← hstart] at hrow
        exact hrow.seq_of_placed hnew
      have hpayload : segment.payload <+: t.written.drop position := by
        refine Segment.prefix_of_placed ?_ hnew
        rw [hslices.payloads, h.holds.contents]
        exact List.take_prefix _ _
      have hpos : segment.payload ≠ [] :=
        (hslices.shape segment (Segment.mem_of_placed hnew)).2.1
      have hlength := hpayload.length_le
      rw [List.length_drop] at hlength
      have hlt := List.length_pos_iff.mpr hpos
      exact ⟨hseq, by show position + _ ≤ t.written.length; omega,
        List.prefix_iff_eq_take.mp hpayload⟩

/-- What an acknowledgment frees is no longer under way. -/
theorem freed_add_extent {s s' : Sender} {ack window : UInt32} {outcome : AckOutcome}
    (h : s.Acked ack window outcome s') : outcome.freed + s'.extent = s.extent := by
  cases h with
  | duplicate => exact Nat.zero_add _
  | ignored => exact Nat.zero_add _
  | advanced roundTrip probe hle =>
    show steps s.sndUna ack + steps ack s.sndMax = steps s.sndUna s.sndMax
    have hchain := steps_chain s.sndUna ack s.sndMax
    have hlt := steps_lt s.sndUna s.sndMax
    have hlt' := steps_lt ack s.sndMax
    omega

/-- Every step keeps a transcript faithful. -/
theorem Faithful.step (h : t.Faithful profile isn) (hstep : t.Step t') :
    t'.Faithful profile isn := by
  cases hstep with
  | write bytes =>
    exact
      { sound := h.sound.write bytes
        holds := h.holds.write bytes
        origin := h.origin
        mss := h.mss
        quotes := fun position s hmem => (h.quotes position s hmem).append _ }
  | window _ _ _ e =>
    exact h.launched (h.sound.launch_of_nextWindow? e) (h.sound.slices_of_nextWindow? e)
  | @ack _ _ _ outcome _ hopposite e =>
    have hacked := Sender.acked_of_onAck h.sound hopposite e
    obtain ⟨acked', hholds, hextent, -⟩ := h.holds.afterAck h.sound hacked
    have hfreed := freed_add_extent hacked
    have hacked' : acked' = t.acked + outcome.freed := by omega
    rw [hacked'] at hholds
    exact
      { sound := h.sound.acked hacked
        holds := hholds
        origin := hacked.isn.trans h.origin
        mss := hacked.mss.trans h.mss
        quotes := h.quotes }
  | timeout _ _ _ _ e =>
    exact h.launched (h.sound.launch_of_onWindowTimeout? e) (h.sound.slices_of_onWindowTimeout? e)
  | receiverWindow rwnd =>
    exact
      { sound := h.sound.withReceiverWindow rwnd
        holds := h.holds.withReceiverWindow rwnd
        origin := h.origin
        mss := h.mss
        quotes := h.quotes }

theorem faithful_of_reachable (hsize : profile.shape.capacity ≤ 2_147_483_648)
    (h : Reachable profile isn rwnd t) : t.Faithful profile isn := by
  induction h with
  | start => exact faithful_start hsize
  | step _ hstep ih => exact ih.step hstep

/-! ### Faithful flights -/

/-- What a flight is at the moment it is launched: a row of data segments from
    the oldest unacknowledged byte on, none of them empty or larger than the
    largest segment, that carries as many of the buffered bytes as both windows
    let through, each window at least one byte. -/
structure FullFlight (profile : Profile) (s : Sender) (segments : List Segment) : Prop where
  ne_nil : segments ≠ []
  shape : ∀ segment ∈ segments, segment.kind = .data ∧ segment.payload ≠ [] ∧
    segment.payload.length ≤ profile.shape.mss
  consecutive : Segment.Consecutive s.sndUna segments
  length : (Segment.payloads segments).length =
    min s.buffered (min (max s.congestion.cwnd 1) (max s.rwnd.toNat 1))

theorem Faithful.fullFlight (h : t.Faithful profile isn) {segments : List Segment}
    (hslices : t.sender.Slices segments) : FullFlight profile t.sender segments where
  ne_nil := hslices.ne_nil
  shape := by
    rw [← h.mss]
    exact hslices.shape
  consecutive := hslices.consecutive
  length := hslices.length_payloads

/-- **Faithful flights.** Whatever is done to a sender whose buffer has at most
    `2 ^ 31` slots, it has a window to send exactly if it is not drained, and
    every flight it launches, also after a timeout, fills both windows. Each
    segment it ever sent carries exactly the bytes written at the segment's
    position, so that any two of them agree on every position they share. -/
theorem flights_faithful (hsize : profile.shape.capacity ≤ 2_147_483_648)
    (h : Reachable profile isn rwnd t) :
    (∀ srcPort dstPort now,
      t.sender.nextWindow? srcPort dstPort now = none ↔ t.sender.isDrained = true) ∧
    (∀ srcPort dstPort now flight s,
      t.sender.nextWindow? srcPort dstPort now = some (flight, s) →
        FullFlight profile t.sender flight.segments) ∧
    (∀ generation srcPort dstPort now flight s,
      t.sender.onWindowTimeout? generation srcPort dstPort now = some (flight, s) →
        FullFlight profile t.sender flight.segments) ∧
    (∀ position s, (position, s) ∈ t.emitted → Quotes isn t.written position s) ∧
    (∀ position s position' s', (position, s) ∈ t.emitted → (position', s') ∈ t.emitted →
      ∀ place, position ≤ place ∧ place < position + s.payload.length →
        position' ≤ place ∧ place < position' + s'.payload.length →
        s.payload[place - position]? = s'.payload[place - position']?) := by
  have hfaithful := faithful_of_reachable hsize h
  refine ⟨?_, ?_, ?_, hfaithful.quotes, ?_⟩
  · exact hfaithful.sound.nextWindow?_eq_none_iff
  · intro srcPort dstPort now flight s e
    exact hfaithful.fullFlight (hfaithful.sound.slices_of_nextWindow? e)
  · intro generation srcPort dstPort now flight s e
    exact hfaithful.fullFlight (hfaithful.sound.slices_of_onWindowTimeout? e)
  · intro position s position' s' hs hs' place hplace hplace'
    exact (hfaithful.quotes _ _ hs).agree (hfaithful.quotes _ _ hs') hplace hplace'

/-- A profile with segments of two bytes. -/
def smallProfile : Profile where
  shape := { capacity := 16, mss := 2, two_le_capacity := by decide, mss_pos := by decide }
  initialSeq := 4_294_967_294
  ttl := 64
  timers := {}
  mss_le := by decide
  mss_lt := by decide
  capacity_lt := by decide
  ttl_ne := by decide

/-- Five bytes are written, and the first two are acknowledged. The others
    travel as two segments; then the receiver's window closes, and after a
    timeout the first of them goes out again on its own. -/
theorem small_flights_faithful : ∃ t, Reachable smallProfile smallProfile.initialSeq 7 t ∧
    t.emitted.map (fun (position, s) => (position, s.seq, s.payload)) =
      [(0, 4_294_967_295, [1, 2]), (2, 1, [3, 4]), (4, 3, [5]), (2, 1, [3])] ∧
    (∀ position s, (position, s) ∈ t.emitted →
      Quotes smallProfile.initialSeq t.written position s) := by
  have fresh : Reachable smallProfile smallProfile.initialSeq 7 _ := .start
  have wrote := fresh.step (.write [1, 2, 3, 4, 5])
  have sent := wrote.step (.window 5000 80 .zero rfl)
  have acknowledged := sent.step (.ack 1 7 .zero (by decide +kernel) rfl)
  have again := acknowledged.step (.window 5000 80 .zero rfl)
  have closed := again.step (.receiverWindow 0)
  have probed := closed.step (.timeout 2 5000 80 .zero rfl)
  exact ⟨_, probed, by decide +kernel,
    (flights_faithful (by decide) probed).2.2.2.1⟩

end Transcript

end ReliableStream
