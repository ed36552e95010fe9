import ReliableStream.Flow.Sender
import ReliableStream.Proofs.Courses
/-! # Runs of a sender

    A sender is driven by whoever owns it: bytes are written, windows are sent,
    acknowledgments and timers come in, in any order and with any numbers. A
    **run** tells what a sender answers to a row of such operations and what
    can be seen of it after each. It ends early if an operation faults. -/

namespace ReliableStream

/-- What a sender can be asked to do. -/
inductive SenderOperation where
  | write (bytes : List UInt8)
  | nextWindow (srcPort dstPort : UInt16) (now : Duration)
  | ack (ack window : UInt32) (now : Duration)
  | windowTimeout (generation : Nat) (srcPort dstPort : UInt16) (now : Duration)
  | receiverWindow (rwnd : UInt32)
  | abandon
  deriving DecidableEq, Repr

/-- What an operation answers. -/
inductive SenderReply where
  /-- How many bytes were written. -/
  | count (n : Nat)
  /-- What is to be sent, if anything. -/
  | flight (flight : Option Flight)
  | outcome (outcome : AckOutcome)
  | done
  deriving DecidableEq, Repr

/-- What can be seen of a sender at any time. -/
@[ext]
structure SenderReport where
  isn : UInt32
  sndUna : UInt32
  winEnd : UInt32
  sndMax : UInt32
  endSeq : UInt32
  rwnd : UInt32
  cwnd : Nat
  ssthresh : Nat
  phase : CongestionPhase
  rto : Duration
  generation : Nat
  buffered : Nat
  isIdle : Bool
  isDrained : Bool
  deriving DecidableEq, Repr

namespace Sender

/-- What can be seen of it. -/
def report (s : Sender) : SenderReport where
  isn := s.isn
  sndUna := s.sndUna
  winEnd := s.winEnd
  sndMax := s.sndMax
  endSeq := s.endSeq
  rwnd := s.rwnd
  cwnd := s.congestion.cwnd
  ssthresh := s.congestion.ssthresh
  phase := s.congestion.phase
  rto := s.rto
  generation := s.generation
  buffered := s.buffered
  isIdle := s.isIdle
  isDrained := s.isDrained

/-- The reply that hands out a flight; without one the sender is as before. -/
def reply (s : Sender) : Option (Flight × Sender) → SenderReply × Sender
  | some (flight, s') => (.flight (some flight), s')
  | none => (.flight none, s)

/-- Does what it is asked to do. -/
def perform (s : Sender) : SenderOperation → Except Fault (SenderReply × Sender)
  | .write bytes => .ok (.count (s.write bytes).1, (s.write bytes).2)
  | .nextWindow srcPort dstPort now => .ok (s.reply (s.nextWindow? srcPort dstPort now))
  | .ack ack window now => (s.onAck ack window now).map fun (outcome, s') => (.outcome outcome, s')
  | .windowTimeout generation srcPort dstPort now =>
    .ok (s.reply (s.onWindowTimeout? generation srcPort dstPort now))
  | .receiverWindow rwnd => .ok (.done, s.withReceiverWindow rwnd)
  | .abandon => .ok (.done, s.abandon)

/-- What an operation can come to. A window, or one that is overdue, is sent, or
    there is nothing to send and all stays as it is. -/
inductive Performs (s : Sender) : SenderOperation → SenderReply → Sender → Prop where
  | write {bytes : List UInt8} :
      Performs s (.write bytes) (.count (s.write bytes).1) (s.write bytes).2
  | launched {srcPort dstPort : UInt16} {now : Duration} {flight : Flight} {s' : Sender}
      (h : s.nextWindow? srcPort dstPort now = some (flight, s')) :
      Performs s (.nextWindow srcPort dstPort now) (.flight (some flight)) s'
  | nothing {srcPort dstPort : UInt16} {now : Duration}
      (h : s.nextWindow? srcPort dstPort now = none) :
      Performs s (.nextWindow srcPort dstPort now) (.flight none) s
  | acked {ack window : UInt32} {now : Duration} {outcome : AckOutcome} {s' : Sender}
      (h : s.onAck ack window now = .ok (outcome, s')) :
      Performs s (.ack ack window now) (.outcome outcome) s'
  | relaunched {generation : Nat} {srcPort dstPort : UInt16} {now : Duration} {flight : Flight}
      {s' : Sender} (h : s.onWindowTimeout? generation srcPort dstPort now = some (flight, s')) :
      Performs s (.windowTimeout generation srcPort dstPort now) (.flight (some flight)) s'
  | moot {generation : Nat} {srcPort dstPort : UInt16} {now : Duration}
      (h : s.onWindowTimeout? generation srcPort dstPort now = none) :
      Performs s (.windowTimeout generation srcPort dstPort now) (.flight none) s
  | receiverWindow {rwnd : UInt32} :
      Performs s (.receiverWindow rwnd) .done (s.withReceiverWindow rwnd)
  | abandoned : Performs s .abandon .done s.abandon

theorem performs_of_perform {s s' : Sender} {op : SenderOperation} {reply : SenderReply}
    (h : s.perform op = .ok (reply, s')) : s.Performs op reply s' := by
  cases op with
  | write bytes =>
    cases h
    exact .write
  | nextWindow srcPort dstPort now =>
    simp only [perform] at h
    cases hsent : s.nextWindow? srcPort dstPort now with
    | none =>
      rw [hsent] at h
      cases h
      exact .nothing hsent
    | some sent =>
      rw [hsent] at h
      cases h
      exact .launched hsent
  | ack ack window now =>
    simp only [perform] at h
    cases hacked : s.onAck ack window now with
    | error fault =>
      rw [hacked] at h
      cases h
    | ok acked =>
      rw [hacked] at h
      cases h
      exact .acked hacked
  | windowTimeout generation srcPort dstPort now =>
    simp only [perform] at h
    cases hsent : s.onWindowTimeout? generation srcPort dstPort now with
    | none =>
      rw [hsent] at h
      cases h
      exact .moot hsent
    | some sent =>
      rw [hsent] at h
      cases h
      exact .relaunched hsent
  | receiverWindow rwnd =>
    cases h
    exact .receiverWindow
  | abandon =>
    cases h
    exact .abandoned

/-- A sender replies to what it is asked to do. -/
def transducer : Transducer Sender SenderOperation (SenderReply × Sender) Fault where
  answer := perform
  next := Prod.snd

/-- What comes of operations on a sender. -/
def course (s : Sender) (operations : List SenderOperation) :
    Course Sender SenderOperation (SenderReply × Sender) Fault := transducer.course s operations

/-- What comes of a row of operations: the replies, each with what is seen
    after it, and the sender in the end, unless one of them faults. -/
def play (s : Sender) (operations : List SenderOperation) :
    List (SenderReply × SenderReport) × Except Fault Sender :=
  ((s.course operations).steps.map fun step => (step.answer.1, step.answer.2.report),
    (s.course operations).final)

/-- Writing never faults. -/
theorem play_write (s : Sender) (bytes : List UInt8) :
    (s.play [.write bytes]).2 = .ok (s.write bytes).2 := rfl

/-- Whatever every operation keeps is kept by a run. -/
theorem of_play {P : Sender → Prop}
    (hstep : ∀ {s s' : Sender} {op : SenderOperation} {reply : SenderReply}, P s →
      s.Performs op reply s' → P s')
    {s s' : Sender} {operations : List SenderOperation} (hs : P s)
    (h : (s.play operations).2 = .ok s') : P s' :=
  Transducer.final_induction hs
    (fun hm hperform => hstep hm (performs_of_perform hperform)) h

end Sender

end ReliableStream
