import ReliableStream.Proofs.Acceptance
import ReliableStream.Proofs.Arrivals
import ReliableStream.Proofs.Checked.Words
/-! # Clocks that do not run out

    The estimate of the round trip adds up and multiplies durations, and faults
    beyond the longest one, `2 ^ 64` seconds. It does not get there as long as
    the clock shows at most `2 ^ 59` seconds: the mean stays within `2 ^ 60`
    seconds, the deviation within `2 ^ 61`, and so their sum with the deviation
    counted four times is within `9 * 2 ^ 60`.

    The products are rounded to binary floating point on the way. A rounded
    number never passes a number of the format that the exact one does not
    pass, and the bounds here are such numbers. -/

namespace ReliableStream

/-! ### Rounding keeps bounds -/

namespace Numeric

/-- A rounded quotient is no more than a whole number that the quotient is no
    more than. -/
theorem roundHalfEven_le_of_le {num den bound : Nat} (hden : 0 < den) (h : num ≤ bound * den) :
    roundHalfEven num den ≤ bound := by
  have hquot : num / den ≤ bound := Nat.div_le_of_le_mul (Nat.mul_comm bound den ▸ h)
  rcases Nat.lt_or_eq_of_le hquot with hlt | heq
  · exact Nat.le_trans (roundHalfEven_le num den) hlt
  · -- The quotient is the bound itself, and nothing is left to round.
    have hmod : num % den = 0 := by
      have hwhole := Nat.div_add_mod num den
      rw [heq, Nat.mul_comm den bound] at hwhole
      omega
    rw [roundHalfEven_of_mod_eq_zero (Nat.ne_of_gt hden) hmod]
    exact hquot

namespace Binary64

/-- A number of units that the format has: at most 53 significant bits. -/
def Exact (units : Nat) : Prop :=
  ∃ significand shift, significand < 9_007_199_254_740_992 ∧ units = significand * (1 <<< shift)

theorem shiftLeft_pos (n : Nat) : 0 < 1 <<< n := by
  rw [Nat.one_shiftLeft]
  exact Nat.two_pow_pos n

theorem shiftLeft_add (a b : Nat) : 1 <<< (a + b) = (1 <<< a) * (1 <<< b) := by
  rw [Nat.one_shiftLeft, Nat.one_shiftLeft, Nat.one_shiftLeft, Nat.pow_add]

theorem shiftLeft_dvd {a b : Nat} (h : a ≤ b) : 1 <<< a ∣ 1 <<< b := by
  rw [Nat.one_shiftLeft, Nat.one_shiftLeft]
  exact Nat.pow_dvd_pow 2 h

theorem one_pos : 0 < one := shiftLeft_pos 1074

/-- **Rounding does not pass a number of the format.** -/
theorem nearestUnits_le {num den bound : Nat} (hbound : Exact bound) (hden : 0 < den)
    (h : num ≤ bound * den) : nearestUnits num den ≤ bound := by
  obtain ⟨significand, shift, hsignificand, rfl⟩ := hbound
  have hquot : num / den ≤ significand * (1 <<< shift) :=
    Nat.div_le_of_le_mul (Nat.mul_comm _ den ▸ h)
  unfold nearestUnits
  dsimp only
  generalize hspacing : (num / den).log2 + 1 - 53 = places
  -- The grid at this magnitude is no coarser than the one of the bound.
  have hplaces : places ≤ shift := by
    by_cases hzero : num / den = 0
    · rw [hzero, Nat.log2_zero] at hspacing
      omega
    · have hlog : (num / den).log2 < 53 + shift := by
        rw [Nat.log2_lt hzero, Nat.pow_add, ← Nat.one_shiftLeft shift]
        exact Nat.lt_of_le_of_lt hquot
          (Nat.mul_lt_mul_of_pos_right hsignificand (shiftLeft_pos shift))
      omega
  obtain ⟨steps, hsteps⟩ := Nat.dvd_mul_left_of_dvd (shiftLeft_dvd hplaces) significand
  rw [hsteps, Nat.mul_comm _ steps] at h ⊢
  refine Nat.mul_le_mul_right _
    (roundHalfEven_le_of_le (Nat.mul_pos hden (shiftLeft_pos places)) ?_)
  rw [Nat.mul_comm den, ← Nat.mul_assoc]
  exact h

end Binary64

end Numeric

/-! ### Products of durations -/

namespace Duration

open Numeric

/-- A duration is at most so many times `2 ^ 54` seconds. -/
def Within (d : Duration) (spans : Nat) : Prop :=
  d.nanos ≤ spans * 18_014_398_509_481_984 * nanosPerSecond

variable {d : Duration} {spans : Nat}

/-- As many times `2 ^ 54` seconds are a number of the format. -/
theorem exact_spans (h : spans < 9_007_199_254_740_992) :
    Binary64.Exact (spans * 18_014_398_509_481_984 * Binary64.one) := by
  have hspan : 18_014_398_509_481_984 = 1 <<< 54 := rfl
  refine ⟨spans, 54 + 1074, h, ?_⟩
  rw [Nat.mul_assoc, hspan, Binary64.one, Binary64.shiftLeft_add]

/-- In binary floating point a duration is at most one span longer. -/
theorem secondUnits_le (h : d.Within spans) (hspans : spans + 1 < 9_007_199_254_740_992) :
    d.secondUnits ≤ (spans + 1) * 18_014_398_509_481_984 * Binary64.one := by
  have hseconds : d.nanos / nanosPerSecond ≤ spans * 18_014_398_509_481_984 :=
    Nat.div_le_of_le_mul (Nat.mul_comm _ nanosPerSecond ▸ h)
  have hpart : d.nanos % nanosPerSecond ≤ nanosPerSecond :=
    Nat.le_of_lt (Nat.mod_lt _ (by decide))
  have hwhole_le : Binary64.nearestUnits (d.nanos / nanosPerSecond * Binary64.one) 1 ≤
      spans * 18_014_398_509_481_984 * Binary64.one := by
    refine Binary64.nearestUnits_le (exact_spans (by omega)) Nat.one_pos ?_
    rw [Nat.mul_one]
    exact Nat.mul_le_mul_right _ hseconds
  have hpart_le :
      Binary64.nearestUnits (d.nanos % nanosPerSecond * Binary64.one) nanosPerSecond ≤
        1 * 18_014_398_509_481_984 * Binary64.one := by
    refine Binary64.nearestUnits_le (exact_spans (by decide)) (by decide) ?_
    rw [Nat.mul_right_comm]
    refine Nat.mul_le_mul_right _ ?_
    omega
  unfold secondUnits
  dsimp only
  refine Binary64.nearestUnits_le (exact_spans hspans) Nat.one_pos ?_
  rw [Nat.mul_one, Nat.add_mul, Nat.add_mul]
  exact Nat.add_le_add hwhole_le hpart_le

/-- A fraction of a duration, with the bound that is left of it. -/
theorem Within.scale (h : d.Within spans) {num den least : Nat} (hden : 0 < den)
    (hleast : (spans + 1) * num ≤ least * den) (hspans : spans + 1 < 9_007_199_254_740_992)
    (hexact : least < 9_007_199_254_740_992) : (d.scale num den).Within least := by
  have hproduct : Binary64.nearestUnits (d.secondUnits * num) den ≤
      least * 18_014_398_509_481_984 * Binary64.one := by
    refine Binary64.nearestUnits_le (exact_spans hexact) hden ?_
    have hunits := Nat.mul_le_mul_right num (secondUnits_le h hspans)
    generalize Binary64.one = one at hunits ⊢
    calc d.secondUnits * num ≤ (spans + 1) * 18_014_398_509_481_984 * one * num := hunits
      _ = (spans + 1) * num * (18_014_398_509_481_984 * one) := by
        rw [Nat.mul_assoc _ 18_014_398_509_481_984 one, Nat.mul_right_comm]
      _ ≤ least * den * (18_014_398_509_481_984 * one) := Nat.mul_le_mul_right _ hleast
      _ = least * 18_014_398_509_481_984 * one * den := by
        rw [Nat.mul_right_comm, ← Nat.mul_assoc least]
  unfold Within Duration.scale
  dsimp only
  rw [nanos_ofNanos]
  refine Nat.le_trans (Nat.min_le_left ..) (roundHalfEven_le_of_le Binary64.one_pos ?_)
  rw [Nat.mul_right_comm]
  exact Nat.mul_le_mul_right _ hproduct

/-- Sums within the longest duration do not fault. -/
theorem Within.add {e : Duration} {more : Nat} (hd : d.Within spans) (he : e.Within more)
    (hsum : spans + more < 1_024) : ∃ sum, d.add e = .ok sum ∧ sum.Within (spans + more) := by
  unfold Within nanosPerSecond at *
  have hlt : d.nanos + e.nanos < 18_446_744_073_709_551_616_000_000_000 := by omega
  exact ⟨_, dif_pos hlt, by show d.nanos + e.nanos ≤ _; omega⟩

theorem Within.times (hd : d.Within spans) {n : Nat} (hproduct : spans * n < 1_024) :
    ∃ product, d.times n = .ok product ∧ product.Within (spans * n) := by
  unfold Within nanosPerSecond at *
  have hle : d.nanos * n ≤ spans * n * 18_014_398_509_481_984 * 1_000_000_000 := by
    have hmul := Nat.mul_le_mul_right n hd
    rw [Nat.mul_right_comm, Nat.mul_right_comm spans] at hmul
    exact hmul
  have hlt : d.nanos * n < 18_446_744_073_709_551_616_000_000_000 := by omega
  exact ⟨_, dif_pos hlt, hle⟩

/-- A fault of the arithmetic of durations. -/
def Overrun (fault : Fault) : Prop := fault = .durationSum ∨ fault = .durationMultiple

theorem overrun_of_add {e : Duration} {fault : Fault} (h : d.add e = .error fault) :
    Overrun fault := by
  unfold Duration.add exactly at h
  split at h
  · cases h
  · exact .inl (Except.error.inj h).symm

theorem overrun_of_times {n : Nat} {fault : Fault} (h : d.times n = .error fault) :
    Overrun fault := by
  unfold times exactly at h
  split at h
  · cases h
  · exact .inr (Except.error.inj h).symm

/-- A computation overruns in one of its steps. -/
theorem overrun_of_bind {α β : Type} {x : Except Fault α} {f : α → Except Fault β}
    {fault : Fault} (h : x >>= f = .error fault)
    (hx : ∀ {fault}, x = .error fault → Overrun fault)
    (hf : ∀ a, f a = .error fault → Overrun fault) : Overrun fault := by
  cases x with
  | error fault' =>
    cases h
    exact hx rfl
  | ok a => exact hf a h

theorem Within.mono (hd : d.Within spans) {more : Nat} (h : spans ≤ more) : d.Within more :=
  Nat.le_trans hd (Nat.mul_le_mul_right _ (Nat.mul_le_mul_right _ h))

theorem Within.subSat (hd : d.Within spans) (e : Duration) : (d.subSat e).Within spans :=
  Nat.le_trans (Nat.sub_le ..) hd

theorem Within.distance {e : Duration} (hd : d.Within spans) (he : e.Within spans) :
    (d.distance e).Within spans := by
  unfold Within at *
  show d.nanos - e.nanos + (e.nanos - d.nanos) ≤ _
  omega

end Duration

/-! ### Estimates -/

namespace RoundTrip

/-- An estimate that is far from the longest duration. -/
structure Modest (r : RoundTrip) : Prop where
  estimated : r.estimated.Within 64
  deviation : r.deviation.Within 128

theorem modest_create (timers : Timers) : (create timers).Modest := ⟨Nat.zero_le _, Nat.zero_le _⟩

/-- **A measurement of at most `2 ^ 59` seconds does not fault**, and leaves the
    estimate modest. -/
theorem Modest.record {r : RoundTrip} (h : r.Modest) {sample : Duration}
    (hsample : sample.Within 32) : ∃ r', r.record sample = .ok r' ∧ r'.Modest := by
  -- Each rounding can add a span: seven eighths of 65, an eighth of 33.
  have hold : (r.estimated.scale 7 8).Within 57 :=
    h.estimated.scale (by decide) (by decide) (by decide) (by decide)
  have hnew : (sample.scale 1 8).Within 5 :=
    hsample.scale (by decide) (by decide) (by decide) (by decide)
  obtain ⟨estimated, hestimated, hmean⟩ := hold.add hnew (by decide)
  -- The deviation likewise: three quarters of 129, a quarter of 63.
  have hspread : (r.deviation.scale 3 4).Within 97 :=
    h.deviation.scale (by decide) (by decide) (by decide) (by decide)
  have hdistance : (sample.distance estimated).Within 62 :=
    (hsample.mono (by decide)).distance hmean
  have hapart : ((sample.distance estimated).scale 1 4).Within 16 :=
    hdistance.scale (by decide) (by decide) (by decide) (by decide)
  obtain ⟨deviation, hdeviation, hwide⟩ := hspread.add hapart (by decide)
  -- Of the 1024 spans that a duration has, the timeout takes 514.
  obtain ⟨fourfold, hfourfold, hmargin⟩ := (hwide : deviation.Within 113).times (n := 4) (by decide)
  obtain ⟨timeout, htimeout, -⟩ := (hmean : estimated.Within 62).add hmargin (by decide)
  refine ⟨{ r with estimated, deviation, timeout := max timeout r.minRto }, ?_,
    hmean.mono (by decide), hwide.mono (by decide)⟩
  unfold RoundTrip.record
  refine (Checked.bind_of_eq_ok hestimated _).trans ?_
  refine (Checked.bind_of_eq_ok hdeviation _).trans ?_
  refine (Checked.bind_of_eq_ok hfourfold _).trans ?_
  exact Checked.bind_of_eq_ok htimeout _

/-- A measurement that faults does so in the arithmetic of durations. -/
theorem overrun_of_record {r : RoundTrip} {sample : Duration} {fault : Fault}
    (h : r.record sample = .error fault) : Duration.Overrun fault := by
  unfold record at h
  refine Duration.overrun_of_bind h Duration.overrun_of_add fun estimated h => ?_
  refine Duration.overrun_of_bind h Duration.overrun_of_add fun deviation h => ?_
  refine Duration.overrun_of_bind h Duration.overrun_of_times fun fourfold h => ?_
  exact Duration.overrun_of_bind h Duration.overrun_of_add nofun

end RoundTrip

/-! ### Senders -/

namespace Sender

variable {s : Sender} {now : Duration}

theorem finishProbe_of_modest (h : s.roundTrip.Modest) (hnow : now.Within 32) (ack : UInt32) :
    ∃ s', s.finishProbe ack now = .ok s' ∧ s'.roundTrip.Modest := by
  unfold finishProbe
  cases s.probe with
  | none => exact ⟨s, rfl, h⟩
  | some probe =>
    by_cases hack : probe.expectedAck = ack
    · obtain ⟨roundTrip, hrecord, hmodest⟩ := h.record (hnow.subSat probe.sentAt)
      refine ⟨{ s with roundTrip, probe := none }, ?_, hmodest⟩
      dsimp only
      rw [if_pos hack, hrecord]
      rfl
    · exact ⟨s, if_neg hack, h⟩

/-- An acknowledgment does not fault while the clock shows little. -/
theorem onAck_of_modest (h : s.roundTrip.Modest) (hnow : now.Within 32) (ack window : UInt32) :
    ∃ outcome s', s.onAck ack window now = .ok (outcome, s') ∧ s'.roundTrip.Modest := by
  unfold onAck
  by_cases hbehind : Sequence.before ack s.sndUna
  · exact ⟨_, _, if_pos hbehind, h⟩
  · rw [if_neg hbehind]
    by_cases hbeyond : Sequence.before s.sndMax ack
    · exact ⟨_, _, if_pos hbeyond, h⟩
    · rw [if_neg hbeyond]
      obtain ⟨s', hfinish, hmodest⟩ := finishProbe_of_modest (s := { s with
        congestion := s.congestion.onNewAck
        buffer := (s.buffer.release ack).2
        sndUna := ack
        rwnd := window }) h hnow ack
      refine ⟨.advanced (s.buffer.release ack).1 (Sequence.atOrBefore s.winEnd ack), s', ?_,
        hmodest⟩
      dsimp only
      rw [hfinish]
      rfl

end Sender

/-! ### Connections -/

namespace Connection

variable {ctx : Context} {c c' : Connection} {stimulus : Stimulus} {effects : List Effect}

theorem Responds.modest (h : c.Responds ctx stimulus c' effects)
    (hc : c.sender.roundTrip.Modest) (hnow : ctx.now.Within 32) :
    c'.sender.roundTrip.Modest := by
  have hwindow : ∀ {s s' : Sender} {flight : Flight}, c.window? ctx s = some (flight, s') →
      s.roundTrip.Modest → s'.roundTrip.Modest := by
    intro s s' flight hnext hs
    obtain ⟨-, last, probe, -, rfl⟩ := Sender.sender_of_nextWindow? hnext
    exact hs
  have hacked : ∀ {s : Segment} {outcome : AckOutcome} {sender : Sender},
      c.sender.onAck s.seq s.window ctx.now = .ok (outcome, sender) → sender.roundTrip.Modest := by
    intro s outcome sender hack
    obtain ⟨outcome', sender', hack', hmodest⟩ := Sender.onAck_of_modest hc hnow s.seq s.window
    rw [hack] at hack'
    cases hack'
    exact hmodest
  cases h with
  | wroteSent _ _ hnext => exact hwindow hnext hc
  | acked _ _ _ hack => exact hacked hack
  | ackedSent _ _ _ hack hnext => exact hwindow hnext (hacked hack)
  | repeated _ hoverdue =>
    obtain ⟨-, -, cut, s'', hnext, -, -, -, rfl⟩ := Sender.exists_of_onWindowTimeout? hoverdue
    have hcut := hwindow hnext hc
    exact ⟨hcut.estimated, hcut.deviation⟩
  | _ => exact hc

end Connection

/-! ### Nodes -/

namespace Node

variable {n n' : Node} {now : Duration} {input : Input} {effects : List Effect}

/-- Every connection of a node has a modest estimate. -/
def Modest (n : Node) : Prop :=
  ∀ id c, n.socket? id = some (.connection c) → c.sender.roundTrip.Modest

theorem Modest.of_create {addr : NodeAddr} {settings : Settings}
    (h : Node.create addr settings = .ok n) : n.Modest := by
  intro id c hsocket
  rw [socket?_of_create h] at hsocket
  cases hsocket

theorem Modest.change (h : n.Modest) (hnow : now.Within 32)
    (hchange : n.Change now input n' effects) : n'.Modest := by
  intro id c hsocket
  cases hchange.became hsocket with
  | kept hbefore => exact h id c hbefore
  | opened _ hopened =>
    obtain ⟨⟨stats, rfl⟩, -⟩ := Connection.eq_of_request hopened
    exact RoundTrip.modest_create _
  | spawned _ _ hopened =>
    obtain ⟨⟨stats, rfl⟩, -⟩ := Connection.eq_of_answer hopened
    exact RoundTrip.modest_create _
  | moved _ hbefore hrespond =>
    exact (Connection.responds_of_respond hrespond).modest (h id _ hbefore) hnow

/-- A node faults in the arithmetic of durations only. -/
theorem overrun_of_react {fault : Fault} (h : n.react now input = .error fault) :
    Duration.Overrun fault := by
  cases input with
  | call call => cases h
  | timer timer => cases h
  | packet packet =>
    obtain ⟨s, id, c, -, -, -, -, hack⟩ := onPacket_error h
    obtain ⟨-, probe, -, -, hrecord⟩ := Sender.passes_of_onAck_eq_error hack
    exact RoundTrip.overrun_of_record hrecord

/-- **A node whose clock shows at most `2 ^ 59` seconds does not fault.** -/
theorem Modest.react (h : n.Modest) (hnow : now.Within 32) (input : Input) :
    ∃ n' effects, n.react now input = .ok (n', effects) := by
  cases input with
  | call call => exact ⟨_, _, rfl⟩
  | timer timer => exact ⟨_, _, rfl⟩
  | packet packet =>
    cases hreact : n.onPacket packet now with
    | ok answer => exact ⟨answer.1, answer.2, hreact⟩
    | error fault =>
      obtain ⟨s, id, c, -, -, -, hsocket, hack⟩ := onPacket_error hreact
      obtain ⟨outcome, sender, hack', -⟩ :=
        Sender.onAck_of_modest (h id c hsocket) hnow s.seq s.window
      rw [hack] at hack'
      cases hack'

end Node

end ReliableStream
