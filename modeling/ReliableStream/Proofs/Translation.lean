import ReliableStream.Flow.Receiver
import ReliableStream.Proofs.Flight
import ReliableStream.Proofs.SenderRuns
/-! # Wrapping around is invisible

    Nothing depends on where the numbers of a stream start. **Shifting** a
    sender moves all its sequence numbers by the same distance, around the turn
    if need be, and leaves everything else alone. Every operation of a shifted
    sender is the shifted operation: it answers the same, with all numbers
    shifted. So runs from different initial numbers differ in the numbers only,
    and one that wraps around is like one that does not. The same holds of
    receivers. -/

namespace ReliableStream

/-! ### Numbers -/

namespace Sequence

variable (k a b : UInt32)

@[simp] theorem steps_shift : steps (a + k) (b + k) = steps a b := by
  have := k.toNat_lt
  have := a.toNat_lt
  have := b.toNat_lt
  rw [steps_eq, steps_eq]
  simp only [UInt32.toNat_add]
  omega

@[simp] theorem atOrBefore_shift : atOrBefore (a + k) (b + k) = atOrBefore a b := by
  unfold atOrBefore
  rw [steps_shift]

@[simp] theorem shift_inj : a + k = b + k ↔ a = b := by
  rw [← steps_eq_zero_iff, steps_shift, steps_eq_zero_iff]

@[simp] theorem before_shift : before (a + k) (b + k) = before a b := by
  rw [Bool.eq_iff_iff, before_iff, before_iff, steps_shift]

@[simp] theorem advance_shift (n : Nat) : advance (a + k) n = advance a n + k := by
  unfold advance
  rw [UInt32.add_assoc, UInt32.add_comm k, ← UInt32.add_assoc]

@[simp] theorem laterOf_shift : Sender.laterOf (a + k) (b + k) = Sender.laterOf a b + k := by
  unfold Sender.laterOf
  rw [before_shift]
  split
  · rfl
  · rfl

end Sequence

/-- The segment under another number. -/
def Segment.shift (k : UInt32) (segment : Segment) : Segment :=
  { segment with seq := segment.seq + k }

@[simp] theorem Segment.seq_shift (k : UInt32) (segment : Segment) :
    (segment.shift k).seq = segment.seq + k := rfl

@[simp] theorem Segment.payload_shift (k : UInt32) (segment : Segment) :
    (segment.shift k).payload = segment.payload := rfl

@[simp] theorem Segment.endSeq_shift (k : UInt32) (segment : Segment) :
    (segment.shift k).endSeq = segment.endSeq + k := Sequence.advance_shift ..

/-! ### Buffers -/

namespace StreamBuffer

variable (b : StreamBuffer) (k : UInt32)

/-- The buffer with its bytes under other numbers. -/
def shift (k : UInt32) (b : StreamBuffer) : StreamBuffer := { b with baseSeq := b.baseSeq + k }

@[simp] theorem endSeq_shift : (b.shift k).endSeq = b.endSeq + k := Sequence.advance_shift ..

@[simp] theorem place?_shift (seq : UInt32) : (b.shift k).place? (seq + k) = b.place? seq := by
  simp only [place?, shift, Sequence.steps_shift]
  rfl

theorem writeWhole?_shift (bytes : List UInt8) :
    (b.shift k).writeWhole? bytes = (b.writeWhole? bytes).map (shift k) := by
  unfold writeWhole?
  have hroom : (b.shift k).available = b.available := rfl
  rw [hroom]
  split
  · rfl
  · rfl

theorem read_shift (n : Nat) : (b.shift k).read n = ((b.read n).1, (b.read n).2.shift k) := by
  simp only [read, shift, Sequence.advance_shift]

theorem release_shift (ack : UInt32) :
    (b.shift k).release (ack + k) = ((b.release ack).1, (b.release ack).2.shift k) := by
  unfold release
  rw [place?_shift]
  cases b.place? ack with
  | none => rfl
  | some n => rfl

theorem clear_shift : (b.shift k).clear = b.clear.shift k := by
  unfold clear
  rw [endSeq_shift]
  rfl

theorem cut_shift (srcPort dstPort : UInt16) (start window : UInt32) :
    (b.shift k).cut srcPort dstPort (start + k) window =
      (b.cut srcPort dstPort start window).map (Segment.shift k) := by
  unfold cut
  rw [place?_shift]
  cases b.place? start with
  | none => rfl
  | some skip =>
    rw [List.map_map]
    apply List.map_congr_left
    intro i _
    simp only [Function.comp_apply, piece, Segment.shift, Sequence.advance_shift]
    rfl

end StreamBuffer

/-! ### Senders -/

/-- The flight with its segments under other numbers. -/
def Flight.shift (k : UInt32) (flight : Flight) : Flight :=
  { flight with segments := flight.segments.map (Segment.shift k) }

/-- The measurement that waits for another number. -/
def RoundTripProbe.shift (k : UInt32) (probe : RoundTripProbe) : RoundTripProbe :=
  { probe with expectedAck := probe.expectedAck + k }

namespace Sender

variable (k : UInt32) (s : Sender)

/-- The sender with all its sequence numbers moved. -/
def shift (k : UInt32) (s : Sender) : Sender :=
  { s with
    buffer := s.buffer.shift k
    isn := s.isn + k
    sndUna := s.sndUna + k
    winEnd := s.winEnd + k
    sndMax := s.sndMax + k
    probe := s.probe.map (RoundTripProbe.shift k) }

@[simp] theorem buffer_shift : (s.shift k).buffer = s.buffer.shift k := rfl

@[simp] theorem sndUna_shift : (s.shift k).sndUna = s.sndUna + k := rfl

@[simp] theorem winEnd_shift : (s.shift k).winEnd = s.winEnd + k := rfl

@[simp] theorem sndMax_shift : (s.shift k).sndMax = s.sndMax + k := rfl

@[simp] theorem probe_shift : (s.shift k).probe = s.probe.map (RoundTripProbe.shift k) := rfl

@[simp] theorem roundTrip_shift : (s.shift k).roundTrip = s.roundTrip := rfl

@[simp] theorem generation_shift : (s.shift k).generation = s.generation := rfl

@[simp] theorem cutWindow_shift : (s.shift k).cutWindow = s.cutWindow := rfl

@[simp] theorem cutBuffer_shift : (s.shift k).cutBuffer = s.cutBuffer.shift k := rfl

@[simp] theorem endSeq_shift : (s.shift k).endSeq = s.endSeq + k := StreamBuffer.endSeq_shift ..

theorem create_shift (shape : BufferShape) (timers : Timers) (isn rwnd : UInt32) :
    create shape timers (isn + k) rwnd = (create shape timers isn rwnd).shift k := by
  simp only [create, Sequence.advance_shift]
  rfl

@[simp] theorem isIdle_shift : (s.shift k).isIdle = s.isIdle := by
  simp only [isIdle, sndUna_shift, winEnd_shift, Sequence.before_shift]

/-- The last segment of a shifted flight is the shifted last segment. -/
theorem endSeq_getLast_shift (first : Segment) (rest : List Segment) :
    (((first :: rest).map (Segment.shift k)).getLast?.getD (first.shift k)).endSeq =
      ((first :: rest).getLast?.getD first).endSeq + k := by
  rw [List.getLast?_map, Option.getD_map, Segment.endSeq_shift]

theorem nextWindow?_shift (srcPort dstPort : UInt16) (now : Duration) :
    (s.shift k).nextWindow? srcPort dstPort now =
      (s.nextWindow? srcPort dstPort now).map fun (flight, s') => (flight.shift k, s'.shift k) := by
  have hcut : (s.shift k).cutBuffer.cut srcPort dstPort (s.sndUna + k) (s.shift k).cutWindow =
      (s.cutBuffer.cut srcPort dstPort s.sndUna s.cutWindow).map (Segment.shift k) := by
    rw [cutBuffer_shift, cutWindow_shift, StreamBuffer.cut_shift]
  unfold cutBuffer cutWindow at hcut
  unfold nextWindow?
  simp only [sndUna_shift, winEnd_shift, sndMax_shift, generation_shift, hcut,
    Sequence.before_shift]
  cases StreamBuffer.cut _ srcPort dstPort s.sndUna _ with
  | nil => rfl
  | cons first rest =>
    have hlast := endSeq_getLast_shift k first rest
    rw [List.map_cons] at hlast ⊢
    simp only [hlast, Sequence.laterOf_shift, Segment.endSeq_shift, List.length_cons,
      List.length_map, Option.map_some]
    -- Only a flight that starts afresh is timed.
    cases Sequence.before s.sndUna s.winEnd with
    | true => rfl
    | false => rfl

theorem finishProbe_shift (ack : UInt32) (now : Duration) :
    (s.shift k).finishProbe (ack + k) now = (s.finishProbe ack now).map (shift k) := by
  unfold finishProbe
  rw [roundTrip_shift, probe_shift]
  cases s.probe with
  | none => rfl
  | some probe =>
    simp only [Option.map_some, RoundTripProbe.shift, Sequence.shift_inj]
    split
    · cases s.roundTrip.record (now.subSat probe.sentAt) with
      | error fault => rfl
      | ok roundTrip => rfl
    · rfl

theorem onAck_shift (ack window : UInt32) (now : Duration) :
    (s.shift k).onAck (ack + k) window now =
      (s.onAck ack window now).map fun (outcome, s') => (outcome, s'.shift k) := by
  unfold onAck
  rw [sndUna_shift, sndMax_shift, winEnd_shift, buffer_shift, Sequence.before_shift,
    Sequence.before_shift, Sequence.atOrBefore_shift, StreamBuffer.release_shift]
  split
  · rfl
  · split
    · rfl
    -- The measurement of the shifted sender is the shifted one.
    · have hfinish := finishProbe_shift k
        { s with
          congestion := s.congestion.onNewAck
          buffer := (s.buffer.release ack).2
          sndUna := ack
          rwnd := window } ack now
      simp only [shift] at hfinish ⊢
      rw [hfinish]
      generalize finishProbe _ ack now = finished
      cases finished with
      | error fault => rfl
      | ok s' => rfl

theorem onWindowTimeout?_shift (generation : Nat) (srcPort dstPort : UInt16) (now : Duration) :
    (s.shift k).onWindowTimeout? generation srcPort dstPort now =
      (s.onWindowTimeout? generation srcPort dstPort now).map fun (flight, s') =>
        (flight.shift k, s'.shift k) := by
  unfold onWindowTimeout?
  rw [isIdle_shift, generation_shift, nextWindow?_shift]
  split
  · rfl
  · cases s.nextWindow? srcPort dstPort now with
    | none => rfl
    | some sent =>
      simp only [Option.map_some, Flight.shift, List.length_map]
      rfl

theorem abandon_shift : (s.shift k).abandon = s.abandon.shift k := by
  unfold abandon
  simp only [buffer_shift, sndMax_shift, StreamBuffer.clear_shift, StreamBuffer.endSeq_shift,
    Sequence.laterOf_shift]
  rfl

end Sender

/-- The operation with its acknowledgment under another number. -/
def SenderOperation.shift (k : UInt32) : SenderOperation → SenderOperation
  | .ack number window now => .ack (number + k) window now
  | op => op

/-- The reply with its segments under other numbers. -/
def SenderReply.shift (k : UInt32) : SenderReply → SenderReply
  | .flight sent => .flight (sent.map (Flight.shift k))
  | reply => reply

/-- What is seen of a sender, with its sequence numbers moved. -/
def SenderReport.shift (k : UInt32) (report : SenderReport) : SenderReport :=
  { report with
    isn := report.isn + k
    sndUna := report.sndUna + k
    winEnd := report.winEnd + k
    sndMax := report.sndMax + k
    endSeq := report.endSeq + k }

namespace Sender

variable (k : UInt32) (s : Sender)

theorem report_shift : (s.shift k).report = s.report.shift k := by
  unfold report
  rw [endSeq_shift, isIdle_shift]
  rfl

theorem reply_shift (sent : Option (Flight × Sender)) :
    (s.shift k).reply (sent.map fun (flight, s') => (flight.shift k, s'.shift k)) =
      ((s.reply sent).1.shift k, (s.reply sent).2.shift k) := by
  cases sent with
  | none => rfl
  | some sent => rfl

/-- Every operation of a shifted sender is the shifted operation. -/
theorem perform_shift (op : SenderOperation) :
    (s.shift k).perform (op.shift k) =
      (s.perform op).map fun (reply, s') => (reply.shift k, s'.shift k) := by
  cases op with
  | write bytes => rfl
  | nextWindow srcPort dstPort now =>
    simp only [SenderOperation.shift, perform, nextWindow?_shift, reply_shift]
    rfl
  | ack ack window now =>
    simp only [SenderOperation.shift, perform, onAck_shift]
    cases s.onAck ack window now with
    | error fault => rfl
    | ok acked => rfl
  | windowTimeout generation srcPort dstPort now =>
    simp only [SenderOperation.shift, perform, onWindowTimeout?_shift, reply_shift]
    rfl
  | receiverWindow rwnd => rfl
  | abandon =>
    simp only [SenderOperation.shift, perform, abandon_shift]
    rfl

/-- A run of a shifted sender is the shifted run. -/
theorem play_shift (operations : List SenderOperation) :
    (s.shift k).play (operations.map (SenderOperation.shift k)) =
      ((s.play operations).1.map fun (reply, report) => (reply.shift k, report.shift k),
        (s.play operations).2.map (shift k)) := by
  have hanswer : ∀ (m : Sender) (op : SenderOperation),
      transducer.answer (m.shift k) (op.shift k) =
        ((m.perform op).map (Prod.map (SenderReply.shift k) (shift k))).mapError id := by
    intro m op
    refine (m.perform_shift k op).trans ?_
    cases m.perform op <;> rfl
  have hcourse : transducer.course (s.shift k) (operations.map (SenderOperation.shift k)) =
      (transducer.course s operations).translate (shift k) (SenderOperation.shift k)
        (Prod.map (SenderReply.shift k) (shift k)) id :=
    Transducer.course_translate _ _ (Prod.map (SenderReply.shift k) (shift k)) _
      (P := fun _ _ => True) (fun _ => hanswer _ _) (fun _ => rfl) (fun _ _ => trivial) trivial
  unfold play course
  rw [hcourse]
  refine Prod.ext ?_ ?_
  · show List.map _ (List.map _ _) = List.map _ (List.map _ _)
    rw [List.map_map, List.map_map]
    simp only [Function.comp_def, Prod.map_fst, Prod.map_snd, report_shift]
  · show Except.mapError id _ = _
    cases (transducer.course s operations).final <;> rfl

end Sender

/-! ### Receivers -/

/-- What a receiver can be asked to do. -/
inductive ReceiverOperation where
  | segment (segment : Segment)
  | read (n : Nat)
  deriving DecidableEq, Repr

/-- What an operation answers. -/
inductive ReceiverReply where
  | delivery (delivery : Delivery)
  | bytes (bytes : List UInt8)
  deriving DecidableEq, Repr

/-- What can be seen of a receiver at any time. -/
@[ext]
structure ReceiverReport where
  rcvNxt : UInt32
  window : UInt32
  readable : Nat
  deriving DecidableEq, Repr

/-- The operation with its segment under another number. -/
def ReceiverOperation.shift (k : UInt32) : ReceiverOperation → ReceiverOperation
  | .segment arriving => .segment (arriving.shift k)
  | .read n => .read n

/-- What is seen of a receiver, with the next number moved. -/
def ReceiverReport.shift (k : UInt32) (report : ReceiverReport) : ReceiverReport :=
  { report with rcvNxt := report.rcvNxt + k }

namespace Receiver

/-- What can be seen of it. -/
def report (r : Receiver) : ReceiverReport where
  rcvNxt := r.rcvNxt
  window := r.window
  readable := r.readable

/-- Does what it is asked to do. -/
def perform (r : Receiver) : ReceiverOperation → ReceiverReply × Receiver
  | .segment segment => (.delivery (r.onSegment segment).1, (r.onSegment segment).2)
  | .read n => (.bytes (r.read n).1, (r.read n).2)

/-- What comes of a row of operations: the replies, each with what is seen
    after it, and the receiver in the end. -/
def play (r : Receiver) :
    List ReceiverOperation → List (ReceiverReply × ReceiverReport) × Receiver
  | [] => ([], r)
  | op :: rest =>
    let (reply, r') := r.perform op
    ((reply, r'.report) :: (r'.play rest).1, (r'.play rest).2)

variable (k : UInt32) (r : Receiver)

/-- The receiver with all its sequence numbers moved. -/
def shift (k : UInt32) (r : Receiver) : Receiver where
  buffer := r.buffer.shift k
  rcvNxt := r.rcvNxt + k

@[simp] theorem buffer_shift : (r.shift k).buffer = r.buffer.shift k := rfl

@[simp] theorem rcvNxt_shift : (r.shift k).rcvNxt = r.rcvNxt + k := rfl

theorem create_shift (shape : BufferShape) (peerIsn : UInt32) :
    create shape (peerIsn + k) = (create shape peerIsn).shift k := by
  simp only [create, Sequence.advance_shift]
  rfl

theorem onSegment_shift (segment : Segment) :
    (r.shift k).onSegment (segment.shift k) =
      ((r.onSegment segment).1, (r.onSegment segment).2.shift k) := by
  unfold onSegment
  simp only [Segment.seq_shift, Segment.payload_shift, buffer_shift, rcvNxt_shift, ne_eq,
    Sequence.shift_inj, Sequence.advance_shift, StreamBuffer.writeWhole?_shift]
  split
  · rfl
  · cases r.buffer.writeWhole? segment.payload with
    | none => rfl
    | some buffer => rfl

theorem read_shift (n : Nat) : (r.shift k).read n = ((r.read n).1, (r.read n).2.shift k) := by
  unfold read
  rw [buffer_shift, StreamBuffer.read_shift]
  rfl

/-- Every operation of a shifted receiver is the shifted operation. -/
theorem perform_shift (op : ReceiverOperation) :
    (r.shift k).perform (op.shift k) = ((r.perform op).1, (r.perform op).2.shift k) := by
  cases op with
  | segment segment =>
    simp only [ReceiverOperation.shift, perform, onSegment_shift]
  | read n =>
    simp only [ReceiverOperation.shift, perform, read_shift]

/-- A run of a shifted receiver is the shifted run. -/
theorem play_shift (operations : List ReceiverOperation) :
    (r.shift k).play (operations.map (ReceiverOperation.shift k)) =
      ((r.play operations).1.map fun (reply, report) => (reply, report.shift k),
        (r.play operations).2.shift k) := by
  induction operations generalizing r with
  | nil => rfl
  | cons op rest ih =>
    simp only [List.map_cons, play, perform_shift, ih]
    rfl

end Receiver

/-- **Wrapping around is invisible.** From wherever the numbers of a stream
    start, and by whatever they are shifted: a sender answers the same
    operations the same way and is seen the same after each of them, and so
    does a receiver, except that the sequence numbers are all shifted. -/
theorem numbering_is_relative (shape : BufferShape) (timers : Timers) (isn rwnd peerIsn k : UInt32)
    (operations : List SenderOperation) (arrivals : List ReceiverOperation) :
    (Sender.create shape timers (isn + k) rwnd).play (operations.map (SenderOperation.shift k)) =
        (((Sender.create shape timers isn rwnd).play operations).1.map
            fun (reply, report) => (reply.shift k, report.shift k),
          ((Sender.create shape timers isn rwnd).play operations).2.map (Sender.shift k)) ∧
      (Receiver.create shape (peerIsn + k)).play (arrivals.map (ReceiverOperation.shift k)) =
        (((Receiver.create shape peerIsn).play arrivals).1.map
            fun (reply, report) => (reply, report.shift k),
          ((Receiver.create shape peerIsn).play arrivals).2.shift k) := by
  rw [Sender.create_shift, Receiver.create_shift]
  exact ⟨Sender.play_shift k _ operations, Receiver.play_shift k _ arrivals⟩

end ReliableStream
