import ReliableStream.Flow.Receiver
import ReliableStream.Proofs.Checked.Rings
import ReliableStream.Proofs.Sender
/-! # Both ends of a stream on checked words

    The controller of the congestion window multiplies segment sizes in words
    of 32 bits, and counts duplicates in one. Neither overflows as long as a
    segment fits a frame: the counter stops at the third duplicate, and a
    product of two segment sizes is below `2 ^ 32`.

    A sender or receiver that is **sized** keeps to this, and so do those it
    turns into. -/

namespace ReliableStream.Checked

open Sequence

/-! ### Congestion control -/

/-- An acknowledgment that does not fall behind the sender. -/
def newAck (c : Congestion) : Except Trap Congestion :=
  match c.phase with
  | .slowStart =>
    let cwnd := Congestion.addSat c.cwnd c.mss
    let phase := if c.ssthresh ≤ cwnd then .congestionAvoidance else .slowStart
    .ok { c with cwnd, phase, dupAcks := 0 }
  | .congestionAvoidance => do
    -- A window that has collapsed still divides.
    let step ← mul .bits32 c.mss (← quot c.mss (max c.cwnd 1))
    return { c with cwnd := Congestion.addSat c.cwnd step, dupAcks := 0 }
  | .fastRecovery =>
    .ok { c with cwnd := c.ssthresh, phase := .congestionAvoidance, dupAcks := 0 }

/-- An acknowledgment that falls behind the sender. -/
def duplicateAck (c : Congestion) : Except Trap Congestion :=
  match c.phase with
  -- From here on duplicates are not counted any more.
  | .fastRecovery => .ok { c with cwnd := Congestion.addSat c.cwnd c.mss }
  | _ => do
    let dupAcks ← add .bits32 c.dupAcks 1
    if dupAcks = Congestion.dupAckThreshold then
      let ssthresh ← quot c.cwnd 2
      let inflation ← mul .bits32 Congestion.dupAckThreshold c.mss
      return { c with
        dupAcks, ssthresh, cwnd := Congestion.addSat ssthresh inflation, phase := .fastRecovery }
    else return { c with dupAcks }

/-! ### Senders -/

/-- The sending end of a stream, with its buffer in flat memory. -/
structure Sender where
  buffer : Buffer
  isn : UInt32
  sndUna : UInt32
  winEnd : UInt32
  sndMax : UInt32
  rwnd : UInt32
  congestion : Congestion
  roundTrip : RoundTrip
  probe : Option RoundTripProbe
  generation : Nat

namespace Sender

/-- The sender of a connection whose handshake carried `isn`. -/
def create (shape : BufferShape) (timers : Timers) (isn rwnd : UInt32) : Except Trap Sender := do
  let first := advance isn 1
  let mss := UInt32.ofNat shape.mss
  let buffer ← Buffer.create shape.capacity shape.mss mss first
  return {
    buffer
    isn
    sndUna := first
    winEnd := first
    sndMax := first
    rwnd
    congestion := .create mss.toNat (shape.capacity % 4_294_967_296)
    roundTrip := .create timers
    probe := none
    generation := 0 }

def endSeq (s : Sender) : Except Trap UInt32 := s.buffer.endSeq

def buffered (s : Sender) : Except Trap Nat := s.buffer.used

def isIdle (s : Sender) : Bool := !before s.sndUna s.winEnd

def isDrained (s : Sender) : Bool := s.buffer.isEmpty

def withReceiverWindow (s : Sender) (rwnd : UInt32) : Sender := { s with rwnd }

/-- Queues as many of the bytes as fit, and says how many those are. -/
def write (s : Sender) (bytes : List UInt8) : Except Trap (Nat × Sender) := do
  let written ← s.buffer.write bytes
  return (written.1, { s with buffer := written.2 })

def flightTimeout (s : Sender) (n : Nat) : Duration := s.roundTrip.timeout.timesSat n

/-- Cuts the next window. -/
def nextWindow? (s : Sender) (srcPort dstPort : UInt16) (now : Duration) :
    Except Trap (Option (Flight × Sender)) := do
  let buffer := s.buffer.withCongestionWindow (UInt32.ofNat (max s.congestion.cwnd 1))
  match ← buffer.cut srcPort dstPort s.sndUna (if s.rwnd = 0 then 1 else s.rwnd) with
  | [] => return none
  | first :: rest =>
    let segments := first :: rest
    let winEnd := ((segments.getLast?).getD first).endSeq
    let retransmit := before s.sndUna s.winEnd
    let generation := s.generation + 1
    return some
      ({ segments, timeout := s.flightTimeout segments.length, generation, retransmit },
       { s with
          buffer
          winEnd
          sndMax := ReliableStream.Sender.laterOf s.sndMax winEnd
          probe := if retransmit then none else some ⟨now, first.endSeq⟩
          generation })

/-- Ends the running measurement if this is the acknowledgment it waits for. -/
def finishProbe (s : Sender) (ack : UInt32) (now : Duration) : Except Trap Sender :=
  match s.probe with
  | some probe =>
    if probe.expectedAck = ack then
      lift (fun roundTrip => { s with roundTrip, probe := none })
        (s.roundTrip.record (now.subSat probe.sentAt))
    else .ok s
  | none => .ok s

/-- Takes in an acknowledgment. -/
def onAck (s : Sender) (ack window : UInt32) (now : Duration) :
    Except Trap (AckOutcome × Sender) :=
  if before ack s.sndUna then do
    return (.duplicate, { s with congestion := ← duplicateAck s.congestion })
  else if before s.sndMax ack then .ok (.ignored, s)
  else do
    let congestion ← newAck s.congestion
    let released ← s.buffer.release ack
    let s' := { s with congestion, buffer := released.2, sndUna := ack, rwnd := window }
    return (.advanced released.1 (atOrBefore s.winEnd ack), ← s'.finishProbe ack now)

/-- The timer of a flight went off. -/
def onWindowTimeout? (s : Sender) (generation : Nat) (srcPort dstPort : UInt16)
    (now : Duration) : Except Trap (Option (Flight × Sender)) :=
  if generation ≠ s.generation ∨ s.isIdle then .ok none
  else do
    return (← s.nextWindow? srcPort dstPort now).map fun (flight, s') =>
      let s'' :=
        { s' with
          congestion := s'.congestion.onTimeout
          roundTrip := s'.roundTrip.backOff }
      ({ flight with timeout := s''.flightTimeout flight.segments.length }, s'')

/-- Gives up everything queued. -/
def abandon (s : Sender) : Except Trap Sender := do
  let buffer ← s.buffer.clear
  let last ← buffer.endSeq
  return { s with
    buffer
    sndUna := last
    winEnd := last
    sndMax := ReliableStream.Sender.laterOf s.sndMax last
    probe := none }

end Sender

/-! ### Receivers -/

/-- The receiving end of a stream, with its buffer in flat memory. -/
structure Receiver where
  buffer : Buffer
  rcvNxt : UInt32

namespace Receiver

/-- The receiver of a stream whose handshake carried `peerIsn`. -/
def create (shape : BufferShape) (peerIsn : UInt32) : Except Trap Receiver := do
  let first := advance peerIsn 1
  return { buffer := ← Buffer.create shape.capacity shape.mss 0 first, rcvNxt := first }

/-- Takes in a data segment. -/
def onSegment (r : Receiver) (segment : Segment) : Except Trap (Delivery × Receiver) :=
  if segment.seq ≠ r.rcvNxt then .ok (.outOfOrder, r)
  else do
    match ← r.buffer.writeWhole? segment.payload with
    | some buffer =>
      let n := segment.payload.length
      return (.accepted n, { buffer, rcvNxt := advance r.rcvNxt n })
    | none => return (.noRoom, r)

/-- The free space to tell the sender of. -/
def window (r : Receiver) : Except Trap UInt32 := do return UInt32.ofNat (← r.buffer.available)

def readable (r : Receiver) : Except Trap Nat := r.buffer.used

/-- Takes out up to `n` bytes. -/
def read (r : Receiver) (n : Nat) : Except Trap (List UInt8 × Receiver) := do
  let taken ← r.buffer.read n
  return (taken.1, { r with buffer := taken.2 })

end Receiver

end ReliableStream.Checked

namespace ReliableStream

open Checked

/-! ### Congestion control does not overflow -/

namespace Congestion

/-- A segment fits a frame, and duplicates are counted up to the third. -/
structure Sized (c : Congestion) : Prop where
  mss : c.mss ≤ Segment.maxPayload
  dupAcks : c.phase = .fastRecovery ∨ c.dupAcks < dupAckThreshold

variable {c : Congestion}

theorem Sized.onNewAck (h : c.Sized) : c.onNewAck.Sized := by
  unfold Congestion.onNewAck
  split
  · exact ⟨h.mss, Or.inr (Nat.zero_lt_succ 2)⟩
  · exact ⟨h.mss, Or.inr (Nat.zero_lt_succ 2)⟩
  · exact ⟨h.mss, Or.inr (Nat.zero_lt_succ 2)⟩

theorem Sized.onDuplicateAck (h : c.Sized) : c.onDuplicateAck.Sized := by
  unfold Congestion.onDuplicateAck
  split
  · next hphase => exact ⟨h.mss, Or.inl hphase⟩
  · next hphase =>
    have hcount := h.dupAcks.resolve_left hphase
    split
    · exact ⟨h.mss, Or.inl rfl⟩
    · next hthird =>
      refine ⟨h.mss, Or.inr ?_⟩
      show c.dupAcks + 1 < dupAckThreshold
      omega

theorem Sized.onTimeout (h : c.Sized) : c.onTimeout.Sized := ⟨h.mss, Or.inr (Nat.zero_lt_succ 2)⟩

/-- The step of congestion avoidance fits a word, however small the window. -/
theorem newAck_eq_ok (h : c.Sized) : newAck c = .ok c.onNewAck := by
  have hstep : c.mss * (c.mss / max c.cwnd 1) < 4_294_967_296 := by
    have hmss : c.mss ≤ 65_535 := h.mss
    calc c.mss * (c.mss / max c.cwnd 1) ≤ 65_535 * 65_535 :=
          Nat.mul_le_mul hmss (Nat.le_trans (Nat.div_le_self ..) hmss)
      _ < 4_294_967_296 := by decide
  unfold newAck Congestion.onNewAck
  cases c.phase with
  | slowStart => rfl
  | congestionAvoidance =>
    dsimp only
    rw [quot_eq_ok (by omega), ok_bind, mul_bits32 hstep, ok_bind]
    rfl
  | fastRecovery => rfl

theorem duplicateAck_eq_ok (h : c.Sized) : duplicateAck c = .ok c.onDuplicateAck := by
  have hmss : dupAckThreshold * c.mss < 4_294_967_296 := by
    have hmss : c.mss ≤ 65_535 := h.mss
    show 3 * c.mss < 4_294_967_296
    omega
  unfold duplicateAck Congestion.onDuplicateAck
  cases hphase : c.phase with
  | fastRecovery => rfl
  | _ =>
    have hcount : c.dupAcks < 3 := h.dupAcks.resolve_left (by rw [hphase]; decide)
    dsimp only
    rw [add_bits32 (by omega), ok_bind]
    by_cases hthird : c.dupAcks + 1 = dupAckThreshold
    · rw [if_pos hthird, if_pos hthird, quot_eq_ok (by decide), ok_bind, mul_bits32 hmss, ok_bind]
      rfl
    · rw [if_neg hthird, if_neg hthird]
      rfl

end Congestion

/-! ### Senders do not trap -/

namespace Sender

variable {s s' : Sender} {srcPort dstPort : UInt16} {now : Duration} {flight : Flight}

/-- A sender whose buffer a window field can tell of, and whose segments fit a
    frame. -/
structure Sized (s : Sender) : Prop where
  capacity : s.buffer.capacity < 4_294_967_296
  mss : s.buffer.mss ≤ Segment.maxPayload
  congestion : s.congestion.Sized

theorem sized_create (p : Profile) (isn rwnd : UInt32) :
    (create p.shape p.timers isn rwnd).Sized where
  capacity := p.capacity_lt
  mss := p.mss_le
  congestion := by
    have hmss : p.shape.mss ≤ 65_535 := p.mss_le
    refine ⟨?_, Or.inr (Nat.zero_lt_succ 2)⟩
    show (UInt32.ofNat p.shape.mss).toNat ≤ 65_535
    rw [UInt32.toNat_ofNat']
    omega

theorem Sized.write (h : s.Sized) (bytes : List UInt8) : (s.write bytes).2.Sized :=
  ⟨by rw [show (s.write bytes).2.buffer = (s.buffer.write bytes).2 from rfl,
    StreamBuffer.capacity_write]; exact h.capacity, h.mss, h.congestion⟩

theorem Sized.nextWindow (h : s.Sized)
    (e : s.nextWindow? srcPort dstPort now = some (flight, s')) : s'.Sized := by
  obtain ⟨-, last, probe, -, rfl⟩ := sender_of_nextWindow? e
  exact ⟨h.capacity, h.mss, h.congestion⟩

theorem Sized.windowTimeout (h : s.Sized) {generation : Nat}
    (e : s.onWindowTimeout? generation srcPort dstPort now = some (flight, s')) : s'.Sized := by
  obtain ⟨-, -, cut, s'', hnext, -, -, -, rfl⟩ := exists_of_onWindowTimeout? e
  have hcut := h.nextWindow hnext
  exact ⟨hcut.capacity, hcut.mss, hcut.congestion.onTimeout⟩

theorem Sized.noted (h : s.Sized) {ack window : UInt32} {outcome : AckOutcome}
    (hnoted : s.Noted ack window outcome s') : s'.Sized := by
  cases hnoted with
  | duplicate => exact ⟨h.capacity, h.mss, h.congestion.onDuplicateAck⟩
  | ignored => exact h
  | advanced =>
    refine ⟨?_, ?_, h.congestion.onNewAck⟩
    · show (s.buffer.release ack).2.capacity < _
      rw [StreamBuffer.capacity_release]
      exact h.capacity
    · show (s.buffer.release ack).2.mss ≤ _
      rw [StreamBuffer.mss_release]
      exact h.mss

/-- A sender in flat memory. -/
def flat (s : Sender) : Checked.Sender where
  buffer := s.buffer.flat
  isn := s.isn
  sndUna := s.sndUna
  winEnd := s.winEnd
  sndMax := s.sndMax
  rwnd := s.rwnd
  congestion := s.congestion
  roundTrip := s.roundTrip
  probe := s.probe
  generation := s.generation

@[simp] theorem buffer_flat (s : Sender) : s.flat.buffer = s.buffer.flat := rfl

@[simp] theorem isn_flat (s : Sender) : s.flat.isn = s.isn := rfl

@[simp] theorem sndUna_flat (s : Sender) : s.flat.sndUna = s.sndUna := rfl

@[simp] theorem sndMax_flat (s : Sender) : s.flat.sndMax = s.sndMax := rfl

@[simp] theorem rwnd_flat (s : Sender) : s.flat.rwnd = s.rwnd := rfl

@[simp] theorem congestion_flat (s : Sender) : s.flat.congestion = s.congestion := rfl

@[simp] theorem roundTrip_flat (s : Sender) : s.flat.roundTrip = s.roundTrip := rfl

@[simp] theorem probe_flat (s : Sender) : s.flat.probe = s.probe := rfl

@[simp] theorem generation_flat (s : Sender) : s.flat.generation = s.generation := rfl

@[simp] theorem isIdle_flat (s : Sender) : s.flat.isIdle = s.isIdle := rfl

@[simp] theorem isDrained_flat (s : Sender) : s.flat.isDrained = s.isDrained := rfl

theorem create_flat (shape : BufferShape) (timers : Timers) (isn rwnd : UInt32) :
    Checked.Sender.create shape timers isn rwnd = .ok (create shape timers isn rwnd).flat := by
  unfold Checked.Sender.create
  dsimp only
  rw [StreamBuffer.create_flat]
  rfl

theorem write_flat (h : s.Sized) (bytes : List UInt8) :
    s.flat.write bytes = .ok ((s.write bytes).1, (s.write bytes).2.flat) := by
  unfold Checked.Sender.write
  rw [buffer_flat, StreamBuffer.write_flat h.capacity]
  rfl

theorem endSeq_flat (h : s.Sized) : s.flat.endSeq = .ok s.endSeq :=
  StreamBuffer.endSeq_flat h.capacity

theorem buffered_flat (h : s.Sized) : s.flat.buffered = .ok s.buffered :=
  StreamBuffer.used_flat h.capacity

theorem nextWindow?_flat (h : s.Sized) (srcPort dstPort : UInt16) (now : Duration) :
    s.flat.nextWindow? srcPort dstPort now =
      .ok ((s.nextWindow? srcPort dstPort now).map fun r => (r.1, r.2.flat)) := by
  unfold Checked.Sender.nextWindow? nextWindow?
  generalize hbuffer : s.buffer.withCongestionWindow (UInt32.ofNat (max s.congestion.cwnd 1)) =
    buffer
  have hcapacity : buffer.capacity < 4_294_967_296 := by
    rw [← hbuffer]
    exact h.capacity
  have hflat : s.flat.buffer.withCongestionWindow (UInt32.ofNat (max s.flat.congestion.cwnd 1)) =
      buffer.flat := by
    rw [← hbuffer]
    rfl
  dsimp only
  rw [hflat, StreamBuffer.cut_flat hcapacity, ok_bind]
  rw [sndUna_flat, rwnd_flat]
  cases buffer.cut srcPort dstPort s.sndUna (if s.rwnd = 0 then 1 else s.rwnd) with
  | nil => rfl
  | cons first rest => rfl

theorem finishProbe_flat (s : Sender) (ack : UInt32) (now : Duration) :
    s.flat.finishProbe ack now = lift flat (s.finishProbe ack now) := by
  unfold Checked.Sender.finishProbe finishProbe
  rw [probe_flat]
  cases s.probe with
  | none => rfl
  | some probe =>
    dsimp only
    by_cases hack : probe.expectedAck = ack
    · rw [if_pos hack, if_pos hack, roundTrip_flat]
      cases s.roundTrip.record (now.subSat probe.sentAt) with
      | error fault => rfl
      | ok roundTrip => rfl
    · rw [if_neg hack, if_neg hack]
      rfl

theorem onAck_flat (h : s.Sized) (ack window : UInt32) (now : Duration) :
    s.flat.onAck ack window now = lift (fun r => (r.1, r.2.flat)) (s.onAck ack window now) := by
  unfold Checked.Sender.onAck onAck
  rw [sndUna_flat, sndMax_flat,
    congestion_flat, buffer_flat]
  by_cases hbehind : Sequence.before ack s.sndUna
  · rw [if_pos hbehind, if_pos hbehind, Congestion.duplicateAck_eq_ok h.congestion]
    rfl
  · rw [if_neg hbehind, if_neg hbehind]
    by_cases hbeyond : Sequence.before s.sndMax ack
    · rw [if_pos hbeyond, if_pos hbeyond]
      rfl
    · rw [if_neg hbeyond, if_neg hbeyond, Congestion.newAck_eq_ok h.congestion, ok_bind,
        StreamBuffer.release_flat h.capacity, ok_bind]
      have hfinish := finishProbe_flat { s with
        congestion := s.congestion.onNewAck
        buffer := (s.buffer.release ack).2
        sndUna := ack
        rwnd := window } ack now
      -- Only the measurement can fault, and it comes last.
      refine (congrArg (· >>= _) hfinish).trans ?_
      dsimp only
      generalize finishProbe _ ack now = finished
      cases finished with
      | error fault => rfl
      | ok s' => rfl

theorem onWindowTimeout?_flat (h : s.Sized) (generation : Nat) (srcPort dstPort : UInt16)
    (now : Duration) : s.flat.onWindowTimeout? generation srcPort dstPort now =
      .ok ((s.onWindowTimeout? generation srcPort dstPort now).map fun r => (r.1, r.2.flat)) := by
  unfold Checked.Sender.onWindowTimeout? onWindowTimeout?
  rw [generation_flat, isIdle_flat]
  by_cases hstale : generation ≠ s.generation ∨ s.isIdle
  · rw [if_pos hstale, if_pos hstale]
    rfl
  · rw [if_neg hstale, if_neg hstale, nextWindow?_flat h, ok_bind]
    cases s.nextWindow? srcPort dstPort now <;> rfl

theorem abandon_flat (h : s.Sized) : s.flat.abandon = .ok s.abandon.flat := by
  have hcapacity : s.buffer.clear.capacity < 4_294_967_296 := h.capacity
  unfold Checked.Sender.abandon
  rw [buffer_flat, StreamBuffer.clear_flat h.capacity, ok_bind,
    StreamBuffer.endSeq_flat hcapacity]
  rfl

end Sender

/-! ### Receivers do not trap -/

namespace Receiver

variable {r : Receiver}

/-- A receiver whose free space a window field can tell of. -/
def Sized (r : Receiver) : Prop := r.buffer.capacity < 4_294_967_296

theorem sized_create (p : Profile) (peerIsn : UInt32) : (create p.shape peerIsn).Sized :=
  p.capacity_lt

theorem Sized.read (h : r.Sized) (n : Nat) : (r.read n).2.Sized := h

theorem capacity_onSegment (r : Receiver) (segment : Segment) :
    (r.onSegment segment).2.buffer.capacity = r.buffer.capacity := by
  unfold onSegment StreamBuffer.writeWhole?
  by_cases hseq : segment.seq ≠ r.rcvNxt
  · rw [if_pos hseq]
  · rw [if_neg hseq]
    by_cases hroom : segment.payload.length ≤ r.buffer.available
    · rw [if_pos hroom]
      exact StreamBuffer.capacity_write ..
    · rw [if_neg hroom]

theorem Sized.onSegment (h : r.Sized) (segment : Segment) : (r.onSegment segment).2.Sized := by
  unfold Sized
  rw [capacity_onSegment]
  exact h

/-- A receiver in flat memory. -/
def flat (r : Receiver) : Checked.Receiver := { buffer := r.buffer.flat, rcvNxt := r.rcvNxt }

@[simp] theorem buffer_flat (r : Receiver) : r.flat.buffer = r.buffer.flat := rfl

@[simp] theorem rcvNxt_flat (r : Receiver) : r.flat.rcvNxt = r.rcvNxt := rfl

theorem create_flat (shape : BufferShape) (peerIsn : UInt32) :
    Checked.Receiver.create shape peerIsn = .ok (create shape peerIsn).flat := by
  unfold Checked.Receiver.create
  dsimp only
  rw [StreamBuffer.create_flat]
  rfl

theorem window_flat (h : r.Sized) : r.flat.window = .ok r.window := by
  unfold Checked.Receiver.window
  rw [buffer_flat, StreamBuffer.available_flat h]
  rfl

theorem readable_flat (h : r.Sized) : r.flat.readable = .ok r.readable :=
  StreamBuffer.used_flat h

theorem read_flat (h : r.Sized) (n : Nat) :
    r.flat.read n = .ok ((r.read n).1, (r.read n).2.flat) := by
  unfold Checked.Receiver.read
  rw [buffer_flat, StreamBuffer.read_flat h]
  rfl

theorem onSegment_flat (h : r.Sized) (segment : Segment) :
    r.flat.onSegment segment = .ok ((r.onSegment segment).1, (r.onSegment segment).2.flat) := by
  unfold Checked.Receiver.onSegment onSegment
  rw [rcvNxt_flat, buffer_flat]
  by_cases hseq : segment.seq ≠ r.rcvNxt
  · rw [if_pos hseq, if_pos hseq]
  · rw [if_neg hseq, if_neg hseq, StreamBuffer.writeWhole?_flat h, ok_bind]
    cases r.buffer.writeWhole? segment.payload with
    | none => rfl
    | some buffer => rfl

end Receiver

end ReliableStream
