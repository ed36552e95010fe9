import ReliableStream.Network.Random
import ReliableStream.Numeric.Shortest
import ReliableStream.Time.Duration
/-! # Settings of a network

    The faults of a network happen with given probabilities. A probability is
    checked once and becomes a **chance**, which decides from a random number
    whether the fault happens. -/

namespace ReliableStream

open Numeric

/-- How likely something is to happen. -/
inductive Chance where
  /-- Never; decided without a random number. -/
  | never
  /-- Always; decided without a random number. -/
  | always
  /-- If a random 64 bit number is below the threshold. -/
  | below (threshold : Nat)
  deriving DecidableEq, Repr

/-- The chance of a probability: its **threshold** is the probability times
    `2 ^ 64`, rounded down. -/
def Chance.ofProbability : Binary64 → Chance
  | .finite _ units =>
    if units = 0 then .never
    else if units = Binary64.one then .always
    else .below (units * 18_446_744_073_709_551_616 / Binary64.one)
  | _ => .never

/-- Decides, drawing a random number if one is needed. -/
def Chance.decide (c : Chance) (s : RandomStream) : Bool × RandomStream :=
  match c with
  | .never => (false, s)
  | .always => (true, s)
  | .below threshold =>
    let (v, s) := s.draw64
    (v < threshold, s)

/-- The faults that have a probability. -/
inductive FaultKind where
  | loss
  | duplication
  | reordering
  | corruption
  deriving DecidableEq, Repr

/-- The name of the setting that holds the probability of a fault. -/
def FaultKind.settingName : FaultKind → String
  | .loss => "loss_rate"
  | .duplication => "duplicate_rate"
  | .reordering => "reorder_rate"
  | .corruption => "corruption_rate"

/-- What a network is asked to be. The defaults describe one without faults. -/
structure NetworkSettings where
  /-- The time every packet takes. -/
  latency : Duration := .ofMillis 10
  /-- The most a packet takes longer at random. -/
  jitter : Duration := .zero
  lossRate : Binary64 := .zero
  duplicateRate : Binary64 := .zero
  reorderRate : Binary64 := .zero
  corruptionRate : Binary64 := .zero
  /-- How much later a reordered packet arrives. -/
  reorderDelay : Duration := .ofMillis 30
  /-- Bytes a second that a node can send, if limited. -/
  bandwidth : Option Nat := none
  seed : UInt64 := 0

/-- A setting that is no probability. -/
structure ProbabilityError where
  kind : FaultKind
  value : Binary64
  deriving DecidableEq, Repr

/-- The text an error is reported with. -/
def ProbabilityError.message (e : ProbabilityError) : String :=
  e.kind.settingName ++ " = " ++ e.value.text ++ " is not a probability in [0, 1]"

/-- The behaviour of a network, from checked settings. -/
structure LinkModel where
  latency : Duration
  /-- The most a packet takes longer at random, in nanoseconds. -/
  jitter : Nat
  jitter_lt : jitter < 18_446_744_073_709_551_616
  loss : Chance
  duplication : Chance
  reordering : Chance
  corruption : Chance
  reorderDelay : Duration
  /-- Bytes a second that a node can send; unlimited if zero. -/
  bandwidth : Nat

/-- Checks one probability. -/
def chanceOf (kind : FaultKind) (value : Binary64) : Except ProbabilityError Chance :=
  if value.isProbability then .ok (.ofProbability value) else .error ⟨kind, value⟩

/-- Checks settings: loss, duplication, reordering and corruption, in this
    order. Jitter is counted in 64 bits. -/
def NetworkSettings.check (s : NetworkSettings) : Except ProbabilityError LinkModel := do
  let loss ← chanceOf .loss s.lossRate
  let duplication ← chanceOf .duplication s.duplicateRate
  let reordering ← chanceOf .reordering s.reorderRate
  let corruption ← chanceOf .corruption s.corruptionRate
  return {
    latency := s.latency
    jitter := s.jitter.nanos % 18_446_744_073_709_551_616
    jitter_lt := Nat.mod_lt _ (by decide)
    loss, duplication, reordering, corruption
    reorderDelay := s.reorderDelay
    bandwidth := s.bandwidth.getD 0 }

end ReliableStream
