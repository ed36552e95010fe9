/-! # Congestion control

    The **congestion window** says how many bytes a sender may have under way.
    It grows with acknowledgments and shrinks with losses, in three phases.

    * In **slow start** every new acknowledgment adds one segment size, until
      the window reaches the threshold.
    * In **congestion avoidance** it adds a share of a segment size that is
      zero as soon as the window is larger than one segment.
    * The third duplicate acknowledgment in a row halves the threshold and
      starts **fast recovery**, in which each further duplicate adds one
      segment size and the next new acknowledgment falls back to the threshold.

    A timeout leads back to slow start from every phase. Windows are 32 bit
    quantities, and sums stop at the largest of them. -/

namespace ReliableStream

/-- The three phases. -/
inductive CongestionPhase where
  | slowStart
  | congestionAvoidance
  | fastRecovery
  deriving DecidableEq, Repr

/-- The name of a phase. -/
def CongestionPhase.name : CongestionPhase → String
  | .slowStart => "SlowStart"
  | .congestionAvoidance => "CongestionAvoidance"
  | .fastRecovery => "FastRecovery"

/-- The state of the controller. -/
structure Congestion where
  mss : Nat
  cwnd : Nat
  ssthresh : Nat
  /-- Duplicate acknowledgments in a row. -/
  dupAcks : Nat
  phase : CongestionPhase
  deriving DecidableEq, Repr

namespace Congestion

/-- The largest window, `2 ^ 32 - 1`. -/
def maxWindow : Nat := 4_294_967_295

/-- Duplicate acknowledgments in a row that start fast recovery. -/
def dupAckThreshold : Nat := 3

/-- A sum of windows, at most the largest window. -/
def addSat (a b : Nat) : Nat := min (a + b) maxWindow

/-- The controller of a new connection: slow start from one segment size. -/
def create (mss ssthresh : Nat) : Congestion where
  mss := mss
  cwnd := mss
  ssthresh := ssthresh
  dupAcks := 0
  phase := .slowStart

/-- An acknowledgment that does not fall behind the sender. -/
def onNewAck (c : Congestion) : Congestion :=
  match c.phase with
  | .slowStart =>
    let cwnd := addSat c.cwnd c.mss
    { c with
      cwnd
      phase := if c.ssthresh ≤ cwnd then .congestionAvoidance else .slowStart
      dupAcks := 0 }
  | .congestionAvoidance =>
    -- The quotient is rounded down: zero as soon as the window is larger.
    { c with cwnd := addSat c.cwnd (c.mss * (c.mss / max c.cwnd 1)), dupAcks := 0 }
  | .fastRecovery => { c with cwnd := c.ssthresh, phase := .congestionAvoidance, dupAcks := 0 }

/-- An acknowledgment that falls behind the sender. -/
def onDuplicateAck (c : Congestion) : Congestion :=
  match c.phase with
  | .fastRecovery => { c with cwnd := addSat c.cwnd c.mss }
  | _ =>
    if c.dupAcks + 1 = dupAckThreshold then
      { c with
        dupAcks := c.dupAcks + 1
        ssthresh := c.cwnd / 2
        cwnd := addSat (c.cwnd / 2) (dupAckThreshold * c.mss)
        phase := .fastRecovery }
    else { c with dupAcks := c.dupAcks + 1 }

/-- No acknowledgment came in time. -/
def onTimeout (c : Congestion) : Congestion :=
  { c with ssthresh := c.cwnd / 2, cwnd := c.mss, dupAcks := 0, phase := .slowStart }

end Congestion

end ReliableStream
