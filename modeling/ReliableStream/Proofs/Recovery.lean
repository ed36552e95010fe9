import ReliableStream.Proofs.Pacing
/-! # Recovery

    No state of a session is stuck. One **round** of retransmission in which
    nothing is lost always moves the oldest unacknowledged byte: the window
    goes out once more, the other end answers each segment with what it
    expects next, and the answers come back.

    The round is followed through both ends. At the receiving end every
    segment finds room, so that every segment is answered, and the first answer
    is already beyond the oldest unacknowledged byte. At the sending end no
    answer ends a measurement, so that none of them can fault, and none is
    beyond what was sent. -/

namespace ReliableStream

open Sequence

/-- A plain acknowledgment of a position between two others. -/
structure Segment.Acknowledges (s : Segment) (isn : UInt32) (low high : Nat) : Prop where
  kind : s.kind = .ack
  payload : s.payload = []
  position : ∃ y, low ≤ y ∧ y ≤ high ∧ s.seq = numberAt isn y

theorem Segment.Acknowledges.mono {s : Segment} {isn : UInt32} {low low' high : Nat}
    (h : s.Acknowledges isn low high) (hle : low' ≤ low) : s.Acknowledges isn low' high := by
  obtain ⟨y, hlow, hhigh, hseq⟩ := h.position
  exact ⟨h.kind, h.payload, y, Nat.le_trans hle hlow, hhigh, hseq⟩

/-- A data segment that carries the bytes from a position on. -/
structure Segment.Loads (s : Segment) (isn : UInt32) (position : Nat) : Prop where
  kind : s.kind = .data
  seq : s.seq = numberAt isn position

/-! ### The receiving end -/

/-- The receiver expects the byte at a position, and has room up to another. -/
structure Receiver.Expects (r : Receiver) (isn : UInt32) (position limit : Nat) : Prop where
  rcvNxt : r.rcvNxt = numberAt isn position
  le : position ≤ limit
  room : limit ≤ position + r.buffer.available

/-- A segment that ends where there is room is accepted or out of order. If it
    is the next one, the receiver expects what follows it. -/
theorem Receiver.Expects.onSegment {r : Receiver} {s : Segment} {isn : UInt32}
    {position start limit : Nat} (h : r.Expects isn position limit) (hloads : s.Loads isn start)
    (hlimit : start + s.payload.length ≤ limit) (hnear : Near start position) :
    (r.onSegment s).1 ≠ .noRoom ∧ ∃ next, position ≤ next ∧
      (start = position → next = position + s.payload.length) ∧
      (r.onSegment s).2.Expects isn next limit := by
  have hroom := h.room
  by_cases hstart : start = position
  · subst hstart
    have hseq : s.seq = r.rcvNxt := hloads.seq.trans h.rcvNxt.symm
    obtain ⟨buffer, haccepted, havailable⟩ := onSegment_of_fits hseq (by omega)
    rw [haccepted]
    refine ⟨nofun, start + s.payload.length, Nat.le_add_right _ _, fun _ => rfl, ?_, hlimit, ?_⟩
    · rw [h.rcvNxt]
      exact advance_numberAt _ _ _
    · show limit ≤ _ + buffer.available
      omega
  · have hseq : s.seq ≠ r.rcvNxt := by
      rw [hloads.seq, h.rcvNxt]
      exact fun hsame => hstart (hnear.eq_of_numberAt_eq hsame)
    rw [onSegment_of_ne hseq]
    exact ⟨nofun, position, Nat.le_refl _, fun hsame => absurd hsame hstart, h⟩

namespace Connection

variable {c : Connection} {context : Duration → Context} {isn : UInt32} {low high : Nat}

/-- Takes in segments in order, each at a time of its own, and collects the
    segments that are sent in answer. -/
def receiveAll (context : Duration → Context) (c : Connection) :
    List (Duration × Segment) → Except Fault (Connection × List Segment)
  | [] => .ok (c, [])
  | (now, s) :: rest => do
    let (c, effects) ← c.onSegment (context now) s
    let (c, answers) ← c.receiveAll context rest
    return (c, segmentsOf effects ++ answers)

theorem receiveAll_cons {now : Duration} {s : Segment} {rest : List (Duration × Segment)}
    {c' c'' : Connection} {effects : List Effect} {answers : List Segment}
    (hfirst : c.onSegment (context now) s = .ok (c', effects))
    (hrest : c'.receiveAll context rest = .ok (c'', answers)) :
    c.receiveAll context ((now, s) :: rest) = .ok (c'', segmentsOf effects ++ answers) := by
  unfold receiveAll
  rw [hfirst]
  show (do
    let (c, answers) ← c'.receiveAll context rest
    return (c, segmentsOf effects ++ answers)) = _
  rw [hrest]
  rfl

/-- Data that finds room is answered with what is expected next. -/
theorem onSegment_of_room (ctx : Context) {s : Segment} {r : Receiver} (hkind : s.kind = .data)
    (hopen : c.phase.openReceiver? = some r) (hroom : (r.onSegment s).1 ≠ .noRoom) :
    ∃ c' effects, c.onSegment ctx s = .ok (c', effects) ∧
      c'.phase.openReceiver? = some (r.onSegment s).2 ∧
      segmentsOf effects = [c.ack (r.onSegment s).2] := by
  have hafter : (c.phase.withReceiver (r.onSegment s).2).openReceiver? =
      some (r.onSegment s).2 := by
    rw [Phase.openReceiver?_withReceiver, hopen]
    rfl
  have hsent : ∀ c' : Connection, segmentsOf (c'.transmit ctx [c.ack (r.onSegment s).2]).2 =
      [c.ack (r.onSegment s).2] := by
    intro c'
    apply segmentsOf_transmit
    intro s' hs'
    rw [List.mem_singleton.mp hs']
    exact Nat.zero_le _
  unfold onSegment
  rw [hkind]
  unfold onData
  rw [hopen]
  simp only
  split
  · exact ⟨_, _, rfl, hafter, hsent _⟩
  · exact ⟨_, _, rfl, hafter, hsent _⟩
  · next hrefused => exact absurd hrefused hroom

/-- One segment is answered with the position that is expected after it. -/
theorem answered_segment (ctx : Context) {s : Segment} {r : Receiver} {position start : Nat}
    (hopen : c.phase.openReceiver? = some r) (h : r.Expects isn position high)
    (hloads : s.Loads isn start) (hlimit : start + s.payload.length ≤ high)
    (hnear : Near start position) :
    ∃ c' effects r' next, c.onSegment ctx s = .ok (c', effects) ∧
      c'.phase.openReceiver? = some r' ∧ r'.Expects isn next high ∧ position ≤ next ∧
      (start = position → next = position + s.payload.length) ∧
      ∃ answer, segmentsOf effects = [answer] ∧ answer.Acknowledges isn next high := by
  obtain ⟨hroom, next, hle, hnext, hexpects⟩ := h.onSegment hloads hlimit hnear
  obtain ⟨c', effects, hsegment, hopen', hsent⟩ :=
    onSegment_of_room ctx hloads.kind hopen hroom
  refine ⟨c', effects, _, next, hsegment, hopen', hexpects, hle, hnext, _, hsent, rfl, rfl, ?_⟩
  exact ⟨next, Nat.le_refl _, hexpects.le, hexpects.rcvNxt⟩

/-- Every segment is answered with a position that the receiver expected at
    the time, and the positions never go back. -/
theorem answered_segments {first : Nat} (hhigh : high < first + 2_147_483_648)
    {arrivals : List (Duration × Segment)}
    (harrivals : ∀ arrival ∈ arrivals, ∃ start, first ≤ start ∧
      start + arrival.2.payload.length ≤ high ∧ arrival.2.Loads isn start)
    {r : Receiver} {position : Nat} (hopen : c.phase.openReceiver? = some r)
    (h : r.Expects isn position high) (hfirst : first ≤ position) :
    ∃ c' answers, c.receiveAll context arrivals = .ok (c', answers) ∧
      ∀ s ∈ answers, s.Acknowledges isn position high := by
  induction arrivals generalizing c r position with
  | nil => exact ⟨c, [], rfl, nofun⟩
  | cons arrival rest ih =>
    obtain ⟨now, s⟩ := arrival
    obtain ⟨start, hstart, hlimit, hloads⟩ := harrivals _ List.mem_cons_self
    have hle := h.le
    have hnear : Near start position := ⟨by omega, by omega⟩
    obtain ⟨c', effects, r', next, hsegment, hopen', hexpects, hgrown, -, answer, hsent, hanswer⟩ :=
      answered_segment (context now) hopen h hloads hlimit hnear
    obtain ⟨c'', answers, hrest, hanswers⟩ :=
      ih (fun arrival hmem => harrivals arrival (List.mem_cons_of_mem _ hmem)) hopen' hexpects
        (Nat.le_trans hfirst hgrown)
    refine ⟨c'', _, receiveAll_cons hsegment hrest, ?_⟩
    intro s' hs'
    rw [hsent] at hs'
    rcases List.mem_append.mp hs' with hs' | hs'
    · rw [List.mem_singleton.mp hs']
      exact hanswer.mono hgrown
    · exact (hanswers s' hs').mono hgrown

/-- A flight that starts at the oldest unacknowledged byte is answered, and
    all the answers are beyond that byte. -/
theorem answered_flight {first : Nat} (hhigh : high < first + 2_147_483_648)
    {now : Duration} {s : Segment} {rest : List (Duration × Segment)}
    (hs : s.Loads isn first) (hpos : 0 < s.payload.length)
    (hlimit : first + s.payload.length ≤ high)
    (hrest : ∀ arrival ∈ rest, ∃ start, first ≤ start ∧
      start + arrival.2.payload.length ≤ high ∧ arrival.2.Loads isn start)
    {r : Receiver} {position : Nat} (hopen : c.phase.openReceiver? = some r)
    (h : r.Expects isn position high) (hfirst : first ≤ position) :
    ∃ c' answers low, c.receiveAll context ((now, s) :: rest) = .ok (c', answers) ∧
      answers ≠ [] ∧ first < low ∧ position ≤ low ∧ low ≤ high ∧
      ∀ answer ∈ answers, answer.Acknowledges isn low high := by
  have hle := h.le
  have hnear : Near first position := ⟨by omega, by omega⟩
  obtain ⟨c', effects, r', low, hsegment, hopen', hexpects, hgrown, hnext, answer, hsent, hanswer⟩ :=
    answered_segment (context now) hopen h hs hlimit hnear
  have hlow : first < low := by
    by_cases hstart : first = position
    · have := hnext hstart
      omega
    · omega
  obtain ⟨c'', answers, hall, hanswers⟩ :=
    answered_segments (c := c') hhigh hrest hopen' hexpects (Nat.le_of_lt hlow)
  refine ⟨c'', _, low, receiveAll_cons hsegment hall, ?_, hlow, hgrown, hexpects.le, ?_⟩
  · rw [hsent]
    exact List.cons_ne_nil _ _
  · intro s' hs'
    rw [hsent] at hs'
    rcases List.mem_append.mp hs' with hs' | hs'
    · rw [List.mem_singleton.mp hs']
      exact hanswer
    · exact hanswers s' hs'

end Connection

/-! ### The sending end -/

namespace Sender

variable {s s' : Sender} {isn : UInt32} {low high position : Nat}

/-- The sender hears of positions from `low` to `high`, all of which it sent.
    Before it hears of the last one, its window is not complete; and no
    measurement that is running ends with any of them. -/
structure Hears (s : Sender) (isn : UInt32) (low high position : Nat) : Prop where
  sound : s.Sound
  sndUna : s.sndUna = numberAt isn position
  le : position ≤ high
  sent : high ≤ position + s.extent
  window : low = high ∨ high ≤ position + s.span ∧ s.span < 2_147_483_648
  probe : ∀ p, s.probe = some p → ∃ q, high < q ∧ q < high + 2_147_483_648 ∧
    p.expectedAck = numberAt isn q

theorem Hears.near (h : s.Hears isn low high position) {y : Nat} (hnear : high < low + 2_147_483_648)
    (hlow : low ≤ y) (hhigh : y ≤ high) : Near position y := by
  have hle := h.le
  have hsent := h.sent
  have hextent := h.sound.extent_lt
  exact ⟨by omega, by omega⟩

/-- An acknowledgment in the stretch moves the sender to its position, unless
    the sender is already beyond it. -/
theorem Hears.acked (h : s.Hears isn low high position) {y : Nat} {window : UInt32}
    {outcome : AckOutcome} (hnear : high < low + 2_147_483_648) (hlow : low ≤ y) (hhigh : y ≤ high)
    (hacked : s.Acked (numberAt isn y) window outcome s') :
    s'.Hears isn low high (max position y) := by
  have hclose := h.near hnear hlow hhigh
  have hsound := h.sound.acked hacked
  have hsent := h.sent
  have hextent := h.sound.extent_lt
  cases hacked with
  | duplicate hbehind =>
    rw [h.sndUna, hclose.symm.before_iff] at hbehind
    rw [Nat.max_eq_left (Nat.le_of_lt hbehind)]
    exact ⟨hsound, h.sndUna, h.le, h.sent, h.window, h.probe⟩
  | ignored hahead hbeyond =>
    -- Everything that is heard of was sent.
    rw [← Bool.not_eq_true, h.sndUna, hclose.symm.before_iff] at hahead
    rw [sndMax_eq h.sndUna, Near.before_iff isn ⟨by omega, by omega⟩] at hbeyond
    omega
  | advanced roundTrip probe hle hprobe =>
    have hforward : position ≤ y := by
      apply Nat.le_of_not_lt
      intro hlt
      rw [h.sndUna, hclose.steps_of_lt isn hlt, ← h.sndUna] at hle
      have hmax : s.extent = steps s.sndUna s.sndMax := rfl
      obtain ⟨hfar, -⟩ := hclose
      omega
    have hsteps : ∀ {q : Nat}, y ≤ q → q < position + 2_147_483_648 →
        steps (numberAt isn y) (numberAt isn q) = q - y := by
      intro q hle hlt
      exact Near.steps_of_le isn ⟨by omega, by omega⟩ hle
    rw [Nat.max_eq_right hforward]
    refine ⟨hsound, rfl, hhigh, ?_, ?_, ?_⟩
    · show high ≤ y + steps (numberAt isn y) s.sndMax
      rw [sndMax_eq h.sndUna, hsteps (by omega) (by omega)]
      omega
    · rcases h.window with hlast | ⟨hwindow, hspan⟩
      · exact Or.inl hlast
      · right
        show high ≤ y + steps (numberAt isn y) s.winEnd ∧ steps (numberAt isn y) s.winEnd < _
        rw [winEnd_eq h.sndUna, hsteps (by omega) (by omega)]
        omega
    · intro p hp
      have hp' : probe = some p := hp
      rcases hprobe with hnone | hsame
      · rw [hnone] at hp'
        cases hp'
      · exact h.probe p (hsame.symm.trans hp')

/-- A window that is complete ends with the last position that is heard of, so
    the next one lies beyond all of them. -/
theorem Hears.launch {flight : Flight} (h : s.Hears isn low high position) (hlow : low ≤ position)
    (hidle : s.isIdle = true) (hlaunch : s.Launch flight s') : s'.Hears isn low high position := by
  have hle := h.le
  have hlast : position = high := by
    rcases h.window with hsame | ⟨hwindow, hspan⟩
    · omega
    · have hcomplete : ¬ (0 < s.span ∧ s.span < 2_147_483_648) := by
        unfold isIdle at hidle
        rw [Bool.not_eq_true', ← Bool.not_eq_true, before_iff] at hidle
        exact hidle
      omega
  have hsndUna : s'.sndUna = numberAt isn position := hlaunch.sndUna.trans h.sndUna
  have hextent := hlaunch.extent
  have hlt := hlaunch.sound.extent_lt
  refine ⟨hlaunch.sound, hsndUna, hle, by omega, Or.inr ⟨by omega, by omega⟩, ?_⟩
  intro p hp
  obtain ⟨-, n, hpos, hn, hexpected⟩ := hlaunch.probe p hp
  refine ⟨position + n, by omega, by omega, ?_⟩
  rw [hexpected, h.sndUna, advance_numberAt]

/-- No acknowledgment that is heard of ends a measurement. -/
theorem Hears.ne_expected (h : s.Hears isn low high position) {y : Nat}
    (hnear : high < low + 2_147_483_648) (hlow : low ≤ y) (hhigh : y ≤ high) {p : RoundTripProbe}
    (hp : s.probe = some p) : p.expectedAck ≠ numberAt isn y := by
  obtain ⟨q, hq, hq', hexpected⟩ := h.probe p hp
  intro hsame
  have := advance_inj (hexpected.symm.trans hsame) (by omega) (by omega)
  omega

end Sender

namespace Connection

variable {c : Connection} {context : Duration → Context} {isn : UInt32} {low high position : Nat}

/-- An acknowledgment that ends no measurement cannot fault. -/
theorem exists_onAck {s : Sender} {ack : UInt32} (window : UInt32) (now : Duration)
    (hprobe : ∀ p, s.probe = some p → p.expectedAck ≠ ack) :
    ∃ answer, s.onAck ack window now = .ok answer := by
  unfold Sender.onAck
  split
  · exact ⟨_, rfl⟩
  · split
    · exact ⟨_, rfl⟩
    · unfold Sender.finishProbe
      cases hrunning : s.probe with
      | none => exact ⟨_, rfl⟩
      | some p =>
        simp only [if_neg (hprobe p hrunning)]
        exact ⟨_, rfl⟩

theorem exists_onSegment_of_ack (ctx : Context) {s : Segment} {r : Receiver}
    (hkind : s.kind = .ack) (hopen : c.phase.openReceiver? = some r)
    (hprobe : ∀ p, c.sender.probe = some p → p.expectedAck ≠ s.seq) :
    ∃ answer, c.onSegment ctx s = .ok answer := by
  have hanswer : ∃ answer, c.onOpenAck ctx r s = .ok answer := by
    unfold onOpenAck
    split
    · exact ⟨_, rfl⟩
    · split
      · exact ⟨_, rfl⟩
      · obtain ⟨answer, hack⟩ := exists_onAck s.window ctx.now hprobe
        rw [hack]
        exact ⟨_, rfl⟩
  unfold onSegment
  rw [hkind]
  cases hphase : c.phase with
  | synSent =>
    rw [hphase] at hopen
    cases hopen
  | established r' =>
    rw [hphase] at hopen
    cases hopen
    exact hanswer
  | shutdown r' finSeq =>
    rw [hphase] at hopen
    cases hopen
    exact hanswer
  | closed r' =>
    rw [hphase] at hopen
    cases hopen

/-- Every acknowledgment that is heard of moves the sender to its position, if
    it is not there yet. -/
theorem hears_ack (ctx : Context) {s : Segment} {r : Receiver}
    (hnear : high < low + 2_147_483_648) (hopen : c.phase.openReceiver? = some r)
    (h : c.sender.Hears isn low high position) (hs : s.Acknowledges isn low high) :
    ∃ c' effects next, c.onSegment ctx s = .ok (c', effects) ∧ c'.phase = c.phase ∧
      position ≤ next ∧ low ≤ next ∧ c'.sender.Hears isn low high next := by
  obtain ⟨y, hlow, hhigh, hseq⟩ := hs.position
  have hclose := h.near hnear hlow hhigh
  obtain ⟨⟨c', effects⟩, hanswer⟩ := exists_onSegment_of_ack ctx hs.kind hopen
    fun p hp => by rw [hseq]; exact h.ne_expected hnear hlow hhigh hp
  have hfacing : s.kind = .ack → steps c.sender.sndUna s.seq ≠ 2_147_483_648 := by
    intro _
    rw [h.sndUna, hseq]
    exact hclose.symm.not_opposite
  refine ⟨c', effects, max position y, hanswer, ?_⟩
  have hlater : position ≤ max position y ∧ low ≤ max position y :=
    ⟨Nat.le_max_left _ _, Nat.le_trans hlow (Nat.le_max_right _ _)⟩
  have hmoved : c.Moved ctx (.segment s) c' effects :=
    moved_of_respond h.sound (fun h => hfacing h.1 h.2) hanswer
  cases hmoved with
  | ignored hmoot => exact absurd (hopen.symm.trans (hmoot hs.kind hs.payload)) nofun
  | opened hphase =>
    rw [hphase] at hopen
    cases hopen
  | answered _ hcarrier => exact absurd hs.payload (hcarrier hs.kind)
  | data _ hkind => exact absurd (hs.kind.symm.trans hkind) nofun
  | confirmed _ _ hfirst =>
    have hnumber : numberAt isn position = numberAt isn y := by
      rw [← h.sndUna, ← hfirst, hseq]
    have hsame := hclose.eq_of_numberAt_eq hnumber
    refine ⟨rfl, hlater.1, hlater.2, ?_⟩
    rw [hsame, Nat.max_self, ← hsame]
    exact ⟨h.sound.withReceiverWindow _, h.sndUna, h.le, h.sent, h.window, h.probe⟩
  | acked _ _ _ hacked =>
    rw [hseq] at hacked
    exact ⟨rfl, hlater.1, hlater.2, h.acked hnear hlow hhigh hacked⟩
  | ackedSent _ _ _ hacked hidle hlaunch =>
    rw [hseq] at hacked
    exact ⟨rfl, hlater.1, hlater.2,
      (h.acked hnear hlow hhigh hacked).launch hlater.2 hidle hlaunch⟩
  | ended _ hkind => exact absurd (hs.kind.symm.trans hkind) nofun
  | refused _ hkind => exact absurd (hs.kind.symm.trans hkind) nofun

/-- After all acknowledgments are heard of, the sender is at least at the first
    of their positions. -/
theorem hears_acks (hnear : high < low + 2_147_483_648) {returns : List (Duration × Segment)}
    (hreturns : ∀ answer ∈ returns, answer.2.Acknowledges isn low high) {r : Receiver}
    (hopen : c.phase.openReceiver? = some r) (h : c.sender.Hears isn low high position) :
    ∃ c' answers last, c.receiveAll context returns = .ok (c', answers) ∧ position ≤ last ∧
      last ≤ high ∧ (returns ≠ [] → low ≤ last) ∧ c'.sender.sndUna = numberAt isn last := by
  induction returns generalizing c position with
  | nil => exact ⟨c, [], position, rfl, Nat.le_refl _, h.le, fun hne => absurd rfl hne, h.sndUna⟩
  | cons answer rest ih =>
    obtain ⟨now, s⟩ := answer
    obtain ⟨c', effects, next, hsegment, hphase, hgrown, hlow, hhears⟩ :=
      hears_ack (context now) hnear hopen h (hreturns _ List.mem_cons_self)
    obtain ⟨c'', answers, last, hrest, hle, hhigh, -, hsndUna⟩ :=
      ih (fun answer hmem => hreturns answer (List.mem_cons_of_mem _ hmem))
        (by rw [hphase]; exact hopen) hhears
    exact ⟨c'', _, last, receiveAll_cons hsegment hrest, Nat.le_trans hgrown hle, hhigh,
      fun _ => Nat.le_trans hlow hle, hsndUna⟩

/-! ### The two ends of a round -/

/-- What is left of a stream is under way, and is sent once more when it is
    overdue. -/
theorem exists_windowTimeout (ctx : Context) {r : Receiver} (h : c.Steady)
    (hopen : c.phase.openReceiver? = some r) (hleft : c.sender.isDrained = false)
    (hsmall : c.sender.buffer.mss ≤ Segment.maxPayload) :
    ∃ c' effects flight,
      c.respond ctx (.timer (.windowTimeout c.sender.generation)) = .ok (c', effects) ∧
      c'.phase = c.phase ∧ c.sender.isIdle = false ∧ c.sender.Launch flight c'.sender ∧
      segmentsOf effects = flight.segments := by
  have hbusy : c.sender.isIdle = false := by
    rw [← Bool.not_eq_true]
    exact fun hidle => h.moving ⟨hidle, hleft⟩
  obtain ⟨⟨flight, sender⟩, hsome⟩ : ∃ answer,
      c.sender.onWindowTimeout? c.sender.generation c.identity.localPort c.identity.remotePort
        ctx.now = some answer := by
    apply Option.ne_none_iff_exists'.mp
    rw [ne_eq, h.sound.onWindowTimeout?_eq_none_iff, hbusy]
    simp
  have hlaunch := h.sound.launch_of_onWindowTimeout? hsome
  have hsent : c.onWindowTimeout ctx c.sender.generation =
      { c with sender, stats := { c.stats with timeouts := c.stats.timeouts + 1 } }.transmitFlight
        ctx flight := by
    unfold onWindowTimeout
    rw [hopen]
    simp only [hsome]
  refine ⟨_, _, flight, congrArg Except.ok hsent, rfl, hbusy, hlaunch, ?_⟩
  apply segmentsOf_transmitFlight
  intro s hs
  exact Nat.le_trans (hlaunch.within s hs).2 hsmall

/-- After everything is read, the whole buffer is free. -/
theorem read_all {r : Receiver} {count : Nat} (hopen : c.phase.openReceiver? = some r)
    (hcount : r.buffer.used ≤ count) :
    ∃ r', (c.read count).2.phase.openReceiver? = some r' ∧ r'.rcvNxt = r.rcvNxt ∧
      r'.buffer.available = r.buffer.capacity - 1 := by
  refine ⟨(r.read count).2, ?_, rfl, ?_⟩
  · unfold Connection.read
    rw [Phase.receiver?_of_openReceiver? hopen]
    simp only
    rw [Phase.openReceiver?_withReceiver, hopen]
    rfl
  · have hcontents : (r.buffer.read count).2.contents = [] := by
      rw [StreamBuffer.contents_read]
      apply List.drop_of_length_le
      rw [StreamBuffer.length_contents]
      exact hcount
    have hempty : (r.buffer.read count).2.used = 0 :=
      (StreamBuffer.contents_eq_nil_iff _).mp hcontents
    have hroom := (r.buffer.read count).2.used_add_available
    rw [hempty, Nat.zero_add] at hroom
    exact hroom

end Connection

namespace Session

variable {w : Session} {σ : State} {side : Side} {e peer : Endpoint}

/-- A flight carries the bytes from the oldest unacknowledged one on. -/
theorem Endpoint.Valid.loads {flight : Flight} {sender : Sender} {s : Segment}
    (h : e.Valid w side) (hlaunch : e.connection.sender.Launch flight sender)
    (hmem : s ∈ flight.segments) :
    s.Loads (w.isn side) (e.acked + steps e.connection.sender.sndUna s.seq) where
  kind := by
    obtain ⟨place, hcarries⟩ := hlaunch.carries s hmem
    exact hcarries.kind
  seq := by
    rw [← advance_numberAt, ← h.isn, ← h.holds.sndUna]
    exact (advance_steps _ _).symm

/-- The other end has room for a flight as soon as everything is read there. -/
theorem Paced.room_of_launch {flight : Flight} {sender : Sender} (h : w.Paced σ)
    (hend : σ.ends side = some e) (hpeer : σ.ends side.other = some peer)
    (hlaunch : e.connection.sender.Launch flight sender) :
    e.acked ≤ peer.accepted.length ∧ peer.accepted.length ≤ e.acked + sender.extent ∧
      e.acked + sender.span ≤
        peer.accepted.length + ((w.profile side.other).shape.capacity - 1) := by
  have hopen : e.connection.peerClosed = false := by
    rw [← Bool.not_eq_true]
    intro hclosed
    have hdrained := ((h.fitted side e hend).abandoned hclosed).drained
    rw [hlaunch.not_drained] at hdrained
    cases hdrained
  obtain ⟨hbehind, hwindow⟩ := h.trails side e hend hopen
  have harrived := h.arrived side
  have hextent := hlaunch.extent_le
  have hspan := hlaunch.span_le
  have htwo := (w.profile side.other).shape.two_le_capacity
  have hread : peer.read.length ≤ peer.accepted.length := by
    unfold Endpoint.accepted
    rw [List.length_append]
    exact Nat.le_add_right _ _
  rw [State.accepted_of_end hpeer] at hbehind harrived
  rw [edge_of_end hpeer] at hwindow
  rw [State.sentEnd_of_end hend] at harrived
  unfold Endpoint.sentEnd at harrived
  refine ⟨hbehind, by omega, by omega⟩

/-- After a flight was sent once more, the sender hears of every position from
    `low` on, up to the end of the flight or to where the other end is. -/
theorem Endpoint.Valid.hears {flight : Flight} {sender : Sender} {low position : Nat}
    (h : e.Valid w side) (hbusy : e.connection.sender.isIdle = false)
    (hlaunch : e.connection.sender.Launch flight sender)
    (hposition : position ≤ e.acked + sender.extent) (hlow : position ≤ low)
    (hhigh : low ≤ max position (e.acked + sender.span)) :
    sender.Hears (w.isn side) low (max position (e.acked + sender.span)) e.acked where
  sound := hlaunch.sound
  sndUna := by rw [hlaunch.sndUna, h.holds.sndUna, h.isn]
  le := Nat.le_trans (Nat.le_add_right _ _) (Nat.le_max_right _ _)
  sent := by
    have hextent := hlaunch.extent
    omega
  window := by
    have hextent := hlaunch.extent
    have hlt := hlaunch.sound.extent_lt
    omega
  probe := by
    intro p hp
    obtain ⟨hidle, -⟩ := hlaunch.probe p hp
    rw [hbusy] at hidle
    cases hidle

/-- An end that has read everything has all its space free beyond what arrived. -/
theorem Endpoint.Valid.expects_after_read {count limit : Nat} (h : peer.Valid w side)
    (hfitted : peer.Fitted w side) (hopen : peer.connection.phase.openReceiver?.isSome = true)
    (hcount : peer.readable.length ≤ count) (hle : peer.accepted.length ≤ limit)
    (hlimit : limit ≤ peer.accepted.length + ((w.profile side).shape.capacity - 1)) :
    ∃ r, (peer.connection.read count).2.phase.openReceiver? = some r ∧
      r.Expects (w.isn side.other) peer.accepted.length limit := by
  obtain ⟨before, hbefore⟩ := Option.isSome_iff_exists.mp hopen
  have hreceiver := Phase.receiver?_of_openReceiver? hbefore
  have hused : before.buffer.used ≤ count := by
    have hreadable : peer.readable = before.buffer.contents := by
      unfold Endpoint.readable
      rw [hreceiver]
      rfl
    rw [← StreamBuffer.length_contents, ← hreadable]
    exact hcount
  obtain ⟨r, hr, hnext, havailable⟩ := Connection.read_all hbefore hused
  have hcapacity := hfitted.room before hreceiver
  exact ⟨r, hr, hnext.trans (h.rcvNxt before hreceiver), hle, by omega⟩

/-- The other end answers a flight as soon as everything is read there. All of
    its answers are beyond the oldest unacknowledged byte, and none is beyond
    the end of the flight or where the other end was already. -/
theorem answers_of_launch {count : Nat} {flight : Flight} {sender : Sender}
    {arrivals : List (Duration × Segment)} (h : w.Reachable σ) (hend : σ.ends side = some e)
    (hpeer : σ.ends side.other = some peer)
    (hopen : peer.connection.phase.openReceiver?.isSome = true)
    (hcount : peer.readable.length ≤ count) (hlaunch : e.connection.sender.Launch flight sender)
    (harrivals : arrivals.map Prod.snd = flight.segments) :
    ∃ p answers low, (peer.connection.read count).2.receiveAll (w.context side.other) arrivals =
        .ok (p, answers) ∧ answers ≠ [] ∧ e.acked < low ∧ peer.accepted.length ≤ low ∧
      low ≤ max peer.accepted.length (e.acked + sender.span) ∧ ∀ answer ∈ answers,
        answer.Acknowledges (w.isn side) low
          (max peer.accepted.length (e.acked + sender.span)) := by
  have hvalid := (coherent_of_reachable h).valid side e hend
  have hpaced := paced_of_reachable h
  obtain ⟨hbehind, hahead, hroom⟩ := hpaced.room_of_launch hend hpeer hlaunch
  obtain ⟨r, hr, hexpects⟩ := ((coherent_of_reachable h).valid side.other peer hpeer).expects_after_read
    (hpaced.fitted side.other peer hpeer) hopen hcount (Nat.le_max_left _ (e.acked + sender.span))
    (by omega)
  rw [Side.other_other] at hexpects
  -- The first segment starts at the oldest unacknowledged byte, and the others follow.
  obtain ⟨first, others, hsegments, hfirst, hfilled⟩ := hlaunch.front
  have hload : ∀ s ∈ first :: others, ∃ start, e.acked ≤ start ∧
      start + s.payload.length ≤ max peer.accepted.length (e.acked + sender.span) ∧
      s.Loads (w.isn side) start := by
    intro s hs
    rw [← hsegments] at hs
    have hwithin := (hlaunch.within s hs).1
    exact ⟨_, Nat.le_add_right _ _, by omega, hvalid.loads hlaunch hs⟩
  rw [hsegments] at harrivals
  obtain ⟨⟨time, s⟩, rest, rfl, rfl, rfl⟩ := List.map_eq_cons_iff.mp harrivals
  have hmem : s ∈ flight.segments := by
    rw [hsegments]
    exact List.mem_cons_self
  have hfront := hvalid.loads hlaunch hmem
  have hlimit := (hlaunch.within s hmem).1
  rw [hfirst, steps_self] at hfront hlimit
  have hextent := hlaunch.extent
  have hlt := hlaunch.sound.extent_lt
  refine Connection.answered_flight (by omega) hfront hfilled (by omega) ?_ hr hexpects hbehind
  intro arrival harrival
  exact hload arrival.2 (List.mem_cons_of_mem _ (List.mem_map_of_mem harrival))

/-- The answers move the sender beyond the byte that was oldest. -/
theorem advances_of_answers {c : Connection} {flight : Flight} {low position : Nat}
    {returns : List (Duration × Segment)} (h : e.Valid w side)
    (hopen : c.phase.openReceiver?.isSome = true)
    (hbusy : e.connection.sender.isIdle = false)
    (hlaunch : e.connection.sender.Launch flight c.sender)
    (hposition : position ≤ e.acked + c.sender.extent) (hbeyond : e.acked < low)
    (hlow : position ≤ low) (hhigh : low ≤ max position (e.acked + c.sender.span))
    (hsome : returns ≠ [])
    (hreturns : ∀ answer ∈ returns, answer.2.Acknowledges (w.isn side) low
      (max position (e.acked + c.sender.span))) :
    ∃ c' more, c.receiveAll (w.context side) returns = .ok (c', more) ∧
      before e.connection.sender.sndUna c'.sender.sndUna = true := by
  obtain ⟨r, hr⟩ := Option.isSome_iff_exists.mp hopen
  have hhears := h.hears hbusy hlaunch hposition hlow hhigh
  have hextent := hlaunch.extent
  have hlt := hlaunch.sound.extent_lt
  obtain ⟨c', more, last, hheard, -, hlast, hfar, hsndUna⟩ :=
    Connection.hears_acks (by omega) hreturns hr hhears
  have hle := hfar hsome
  refine ⟨c', more, hheard, ?_⟩
  rw [hsndUna, h.holds.sndUna, h.isn, Near.before_iff (w.isn side) ⟨by omega, by omega⟩]
  omega

/-- **No state is stuck.** While both ends are open and one of them has bytes
    left, its window is under way: if the other end reads all it has, the
    overdue window is sent once more, and nothing is lost on the way there and
    back, then the oldest unacknowledged byte moves forward. -/
theorem round_advances {count : Nat} (h : w.Reachable σ) (hend : σ.ends side = some e)
    (hpeer : σ.ends side.other = some peer)
    (hopen : e.connection.phase.openReceiver?.isSome = true)
    (hpeerOpen : peer.connection.phase.openReceiver?.isSome = true)
    (hleft : e.connection.sender.isDrained = false) (hcount : peer.readable.length ≤ count)
    (now : Duration) :
    ∃ c flight, e.connection.respond (w.context side now)
        (.timer (.windowTimeout e.connection.sender.generation)) = .ok (c, flight) ∧
      ∀ arrivals : List (Duration × Segment), arrivals.map Prod.snd = segmentsOf flight →
      ∃ p answers, (peer.connection.read count).2.receiveAll (w.context side.other) arrivals =
          .ok (p, answers) ∧
        ∀ returns : List (Duration × Segment), returns.map Prod.snd = answers →
        ∃ c' more, c.receiveAll (w.context side) returns = .ok (c', more) ∧
          before e.connection.sender.sndUna c'.sender.sndUna = true := by
  have hvalid := (coherent_of_reachable h).valid side e hend
  have hpaced := paced_of_reachable h
  have hfitted := hpaced.fitted side e hend
  obtain ⟨r, hr⟩ := Option.isSome_iff_exists.mp hopen
  obtain ⟨c, effects, flight, hrespond, hphase, hbusy, hlaunch, hflight⟩ :=
    Connection.exists_windowTimeout (w.context side now) hfitted.steady hr hleft
      (Nat.le_trans (Nat.le_of_eq hfitted.mss) (w.profile side).mss_le)
  obtain ⟨-, hahead, -⟩ := hpaced.room_of_launch hend hpeer hlaunch
  refine ⟨c, effects, hrespond, ?_⟩
  intro arrivals harrivals
  obtain ⟨p, answers, low, hanswered, hsome, hbeyond, hlow, hhigh, hanswers⟩ :=
    answers_of_launch h hend hpeer hpeerOpen hcount hlaunch (harrivals.trans hflight)
  refine ⟨p, answers, hanswered, ?_⟩
  intro returns hreturns
  apply advances_of_answers hvalid (by rw [hphase]; exact hopen) hbusy hlaunch hahead hbeyond hlow
    hhigh
  · rintro rfl
    exact hsome hreturns.symm
  · intro answer hanswer
    apply hanswers
    rw [← hreturns]
    exact List.mem_map_of_mem hanswer

/-- In the small session the first flight arrives, and its acknowledgment is
    lost. The receiver is ahead, and tells so when the flight comes again. -/
theorem small_round_advances : ∃ σ e peer, small.Reachable σ ∧ σ.ends .opening = some e ∧
    σ.ends Side.opening.other = some peer ∧ e.connection.phase.openReceiver?.isSome = true ∧
    peer.connection.phase.openReceiver?.isSome = true ∧
    e.connection.sender.isDrained = false ∧ peer.readable.length ≤ 4 ∧
    ∃ c flight p answers c' more,
      e.connection.respond (small.context .opening .zero)
        (.timer (.windowTimeout e.connection.sender.generation)) = .ok (c, flight) ∧
      (peer.connection.read 4).2.receiveAll (small.context .answering)
        ((segmentsOf flight).map (.zero, ·)) = .ok (p, answers) ∧
      c.receiveAll (small.context .opening) (answers.map (.zero, ·)) = .ok (c', more) ∧
      before e.connection.sender.sndUna c'.sender.sndUna = true := by
  let syn : Segment := ⟨5000, 80, .syn, 4, 4_294_967_294, []⟩
  let synAck : Segment := ⟨80, 5000, .ack, 7, 4_294_967_295, [0, 0, 0, 100]⟩
  let data : Segment := ⟨5000, 80, .data, 4, 4_294_967_295, [10, 20, 30, 40]⟩
  have hat : ∀ segments : List Segment,
      (segments.map (Duration.zero, ·)).map Prod.snd = segments := by
    intro segments
    rw [List.map_map]
    exact List.map_id segments
  have asked := Reachable.start (w := small) .zero
  have spawned := asked.step (.spawn .zero ⟨syn, 0⟩ rfl (by decide +kernel) rfl)
  have answered := spawned.step (.respond .opening .zero (.segment synAck) rfl
    (Or.inr ⟨⟨synAck, 0⟩, by decide +kernel, rfl, nofun, fun _ => by decide +kernel⟩) rfl)
  have wrote := answered.step
    (.respond .opening .zero (.write [10, 20, 30, 40, 50, 60]) rfl trivial rfl)
  have arrived := wrote.step (.respond .answering .zero (.segment data) rfl
    (Or.inr ⟨⟨data, 0⟩, by decide +kernel, rfl, fun _ => by decide +kernel, nofun⟩) rfl)
  obtain ⟨c, flight, hrespond, hround⟩ := round_advances arrived
    (rfl : State.ends _ .opening = _) (rfl : State.ends _ .answering = _) (by decide +kernel)
    (by decide +kernel) (by decide +kernel) (by decide +kernel : _ ≤ 4) .zero
  obtain ⟨p, answers, hanswered, hreturn⟩ := hround _ (hat _)
  obtain ⟨c', more, hheard, hadvanced⟩ := hreturn _ (hat _)
  exact ⟨_, _, _, arrived, rfl, rfl, by decide +kernel, by decide +kernel, by decide +kernel,
    by decide +kernel, c, flight, p, answers, c', more, hrespond, hanswered, hheard, hadvanced⟩

end Session

end ReliableStream
