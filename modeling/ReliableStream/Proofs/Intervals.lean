import ReliableStream.Proofs.Timeline
/-! # Runs in intervals

    A run for a span ends with the clock at the end of the span, although the
    last event may have been earlier, and one more may be due at that very
    moment. Nobody can tell: the next event sets the clock to its own time
    before any node acts. So a run may be cut in two wherever one likes, and
    everything is left as the whole run leaves it, up to the generator of
    random numbers. -/

namespace ReliableStream

namespace Simulation

variable {sim later mid : Simulation} {deadline early : Duration}
  {ending : Except Fault Simulation}

/-- The simulation with another time on its clock. -/
def atTime (sim : Simulation) (now : Duration) : Simulation :=
  { sim with net := { sim.net with now } }

@[simp] theorem now_atTime (sim : Simulation) (now : Duration) : (sim.atTime now).now = now := rfl

@[simp] theorem atTime_atTime (sim : Simulation) (now now' : Duration) :
    (sim.atTime now).atTime now' = sim.atTime now' := rfl

@[simp] theorem hasDue_atTime (sim : Simulation) (now deadline : Duration) :
    (sim.atTime now).hasDue deadline = sim.hasDue deadline := rfl

/-- The clock jumps to the next event, from wherever it was. -/
@[simp] theorem step?_atTime (sim : Simulation) (now : Duration) :
    (sim.atTime now).step? = sim.step? := rfl

/-- What is due by a time is due by any later one. -/
theorem hasDue_mono (hle : early ≤ deadline) (h : sim.hasDue early = true) :
    sim.hasDue deadline = true := by
  unfold hasDue at h ⊢
  split
  · next e hnext =>
    rw [hnext] at h
    exact decide_eq_true (Nat.le_trans (of_decide_eq_true h) hle)
  · next hnone =>
    rw [hnone] at h
    cases h

/-- Something that is due can happen. -/
theorem step?_ne_none (h : sim.hasDue deadline = true) : sim.step? ≠ .ok none := by
  intro hnone
  unfold hasDue at h
  rw [Agenda.next?_eq, (Agenda.take?_eq_none_iff _).mpr (toList_of_step?_eq_none hnone)] at h
  cases h

/-! ### How a run unfolds -/

/-- What becomes of a simulation by a deadline: event after event happens, as
    long as one is due, and then the clock is set to the deadline. A fault of
    an event is the end of it. -/
inductive Unfolds (deadline : Duration) : Simulation → Except Fault Simulation → Prop where
  | quiet {sim : Simulation} : sim.hasDue deadline = false →
      Unfolds deadline sim (.ok (sim.atTime deadline))
  | event {sim later : Simulation} {ending : Except Fault Simulation} :
      sim.hasDue deadline = true → sim.step? = .ok (some later) →
        Unfolds deadline later ending → Unfolds deadline sim ending
  | fault {sim : Simulation} {fault : Fault} : sim.hasDue deadline = true →
      sim.step? = .error fault → Unfolds deadline sim (.error fault)

theorem Unfolds.atTime (h : sim.Unfolds deadline ending) (now : Duration) :
    (sim.atTime now).Unfolds deadline ending := by
  cases h with
  | quiet hdue =>
    rw [← atTime_atTime sim now]
    exact .quiet (by rwa [hasDue_atTime])
  | event hdue hstep hrest =>
    exact .event (by rwa [hasDue_atTime]) (by rwa [step?_atTime]) hrest
  | fault hdue hstep => exact .fault (by rwa [hasDue_atTime]) (by rwa [step?_atTime])

/-- The time on the clock makes no difference. -/
theorem unfolds_atTime (now : Duration) :
    (sim.atTime now).Unfolds deadline ending ↔ sim.Unfolds deadline ending := by
  constructor
  -- The clock can be set back to where it was.
  · intro h
    exact h.atTime sim.now
  · intro h
    exact h.atTime now

/-- In the end the clock is at the deadline. -/
theorem Unfolds.now_eq (h : sim.Unfolds deadline (.ok later)) : later.now = deadline := by
  generalize hending : Except.ok later = ending at h
  induction h with
  | quiet _ =>
    cases hending
    exact now_atTime ..
  | event _ _ _ ih => exact ih hending
  | fault _ _ => cases hending

/-- A deadline that comes first cuts what unfolds in two, unless there is a
    fault before. -/
theorem Unfolds.split (h : sim.Unfolds deadline ending) (hle : early ≤ deadline) :
    (∃ mid, sim.Unfolds early (.ok mid) ∧ mid.Unfolds deadline ending) ∨
      ∃ fault, ending = .error fault ∧ sim.Unfolds early (.error fault) := by
  -- Where nothing is due by the first deadline, the cut is here.
  have hcut : ∀ {sim : Simulation} {ending : Except Fault Simulation},
      sim.hasDue early = false → sim.Unfolds deadline ending → ∃ mid,
        sim.Unfolds early (.ok mid) ∧ mid.Unfolds deadline ending := by
    intro sim ending hdue h
    exact ⟨sim.atTime early, .quiet hdue, (unfolds_atTime early).mpr h⟩
  induction h with
  | @quiet sim hdue =>
    refine Or.inl (hcut ?_ (.quiet hdue))
    rw [← Bool.not_eq_true]
    intro hearly
    rw [hasDue_mono hle hearly] at hdue
    cases hdue
  | @event sim later ending hdue hstep hrest ih =>
    by_cases hearly : sim.hasDue early = true
    · rcases ih with ⟨mid, hfirst, hsecond⟩ | ⟨fault, rfl, hfirst⟩
      · exact Or.inl ⟨mid, .event hearly hstep hfirst, hsecond⟩
      · exact Or.inr ⟨fault, rfl, .event hearly hstep hfirst⟩
    · exact Or.inl (hcut (Bool.eq_false_iff.mpr hearly) (.event hdue hstep hrest))
  | @fault sim fault hdue hstep =>
    by_cases hearly : sim.hasDue early = true
    · exact Or.inr ⟨fault, rfl, .fault hearly hstep⟩
    · exact Or.inl (hcut (Bool.eq_false_iff.mpr hearly) (.fault hdue hstep))

/-- What unfolds by one deadline and then by a later one unfolds by the later
    one. -/
theorem Unfolds.join (h : sim.Unfolds early (.ok mid)) (hle : early ≤ deadline)
    (hrest : mid.Unfolds deadline ending) : sim.Unfolds deadline ending := by
  generalize hmid : Except.ok mid = first at h
  induction h with
  | quiet _ =>
    cases hmid
    exact (unfolds_atTime early).mp hrest
  | event hdue hstep _ ih => exact .event (hasDue_mono hle hdue) hstep (ih hmid)
  | fault _ _ => cases hmid

/-- A fault by one deadline is a fault by any later one. -/
theorem Unfolds.fault_mono {fault : Fault} (h : sim.Unfolds early (.error fault))
    (hle : early ≤ deadline) : sim.Unfolds deadline (.error fault) := by
  generalize hfault : Except.error fault = first at h
  induction h with
  | quiet _ => cases hfault
  | event hdue hstep _ ih => exact .event (hasDue_mono hle hdue) hstep (ih hfault)
  | fault hdue hstep =>
    cases hfault
    exact .fault (hasDue_mono hle hdue) hstep

/-! ### Runs -/

/-- How a run for a span ends, whatever budget it is given, if only it is
    large enough. -/
def Elapses (sim : Simulation) (span : Duration) (ending : Except Fault Simulation) : Prop :=
  ∃ budget, ∀ more, budget ≤ more → sim.runFor more span = ending.mapError .fault

/-- A run stops when its deadline has come, and not before. -/
theorem runFor_eq (budget : Nat) (sim : Simulation) (span : Duration) :
    sim.runFor budget span = (sim.runTo (fun _ => false) (sim.now.addSat span) budget).map
      fun reached => reached.2.atTime (sim.now.addSat span) := rfl

/-- What unfolds by a deadline is what a run comes to that may be long
    enough. -/
theorem Unfolds.exists_budget (h : sim.Unfolds deadline ending) :
    ∃ budget, ∀ more, budget ≤ more →
      (sim.runTo (fun _ => false) deadline more).map (fun reached => reached.2.atTime deadline) =
        ending.mapError .fault := by
  induction h with
  | quiet hdue =>
    refine ⟨1, fun more hmore => ?_⟩
    obtain ⟨budget, rfl⟩ := Nat.exists_eq_add_of_le' hmore
    simp only [runTo, hdue, Bool.false_eq_true, if_false]
    rfl
  | event hdue hstep _ ih =>
    obtain ⟨budget, hends⟩ := ih
    refine ⟨budget + 1, fun more hmore => ?_⟩
    obtain ⟨beyond, rfl⟩ := Nat.exists_eq_add_of_le' hmore
    rw [← hends (beyond + budget) (Nat.le_add_left ..), ← Nat.add_assoc]
    simp [runTo, hdue, hstep]
  | fault hdue hstep =>
    refine ⟨1, fun more hmore => ?_⟩
    obtain ⟨budget, rfl⟩ := Nat.exists_eq_add_of_le' hmore
    simp only [runTo, hdue, hstep, Bool.false_eq_true, if_false, if_true]
    rfl

/-- A run that was given enough comes to what unfolds. -/
theorem unfolds_of_runTo {budget : Nat}
    (h : (sim.runTo (fun _ => false) deadline budget).map
      (fun reached => reached.2.atTime deadline) = ending.mapError .fault) :
    sim.Unfolds deadline ending := by
  induction budget generalizing sim with
  | zero => cases ending <;> cases h
  | succ budget ih =>
    cases hdue : sim.hasDue deadline with
    | false =>
      simp only [runTo, hdue, Bool.false_eq_true, if_false] at h
      cases ending with
      | error fault => cases h
      | ok later =>
        cases h
        exact .quiet hdue
    | true =>
      simp only [runTo, hdue, Bool.false_eq_true, if_false, if_true] at h
      cases hstep : sim.step? with
      | error fault =>
        rw [hstep] at h
        cases ending with
        | error fault' =>
          cases h
          exact .fault hdue hstep
        | ok later => cases h
      | ok after =>
        cases after with
        | none => exact absurd hstep (step?_ne_none hdue)
        | some later =>
          rw [hstep] at h
          exact .event hdue hstep (ih h)

theorem elapses_iff {span : Duration} :
    sim.Elapses span ending ↔ sim.Unfolds (sim.now.addSat span) ending := by
  unfold Elapses
  simp only [runFor_eq]
  constructor
  · rintro ⟨budget, hends⟩
    exact unfolds_of_runTo (hends budget (Nat.le_refl _))
  · intro h
    exact h.exists_budget

/-- A run that is over ends the same way under every larger budget. -/
theorem elapses_of_runFor {budget : Nat} {span : Duration}
    (h : sim.runFor budget span = ending.mapError .fault) : sim.Elapses span ending := by
  rw [runFor_eq] at h
  exact elapses_iff.mpr (unfolds_of_runTo h)

/-- There is one way only for a span to elapse. -/
theorem Elapses.unique {span : Duration} {later later' : Simulation}
    (h : sim.Elapses span (.ok later)) (h' : sim.Elapses span (.ok later')) : later = later' := by
  obtain ⟨budget, hends⟩ := h
  obtain ⟨budget', hends'⟩ := h'
  have heq := (hends (max budget budget') (Nat.le_max_left ..)).symm.trans
    (hends' (max budget budget') (Nat.le_max_right ..))
  cases heq
  rfl

end Simulation

/-- The end of the second of two spans is the end of their sum, even where the
    clock stops at the longest duration. -/
theorem Duration.addSat_addSat {a b c : Duration} (h : a.add b = .ok c) (now : Duration) :
    (now.addSat a).addSat b = now.addSat c := by
  apply Duration.ext
  have hsum := nanos_of_add_eq_ok h
  simp only [nanos_addSat]
  omega

namespace Simulation

/-- **A run may be cut anywhere.** Running for two spans comes to the same as
    running for their sum, whatever state the simulation is in: the first run
    ends and the second one takes it on, or both are cut short by the same
    fault in the first part. The nodes, the agenda, the clock, the trace, the
    counters, the links, the filter and the generator are left the same. -/
theorem elapses_add {a b c : Duration} (hsum : a.add b = .ok c) (sim : Simulation) :
    (∀ ending, sim.Elapses c ending ↔
      (∃ mid, sim.Elapses a (.ok mid) ∧ mid.Elapses b ending) ∨
        ∃ fault, ending = .error fault ∧ sim.Elapses a (.error fault)) ∧
      ∀ (budget budget' budget'' : Nat) (mid parted whole : Simulation),
        sim.runFor budget a = .ok mid → mid.runFor budget' b = .ok parted →
          sim.runFor budget'' c = .ok whole → parted = whole := by
  have hle : sim.now.addSat a ≤ sim.now.addSat c := by
    rw [← Duration.addSat_addSat hsum]
    exact Duration.le_addSat ..
  -- The second run has the deadline of the whole one.
  have hrest : ∀ {mid : Simulation} {ending : Except Fault Simulation},
      sim.Unfolds (sim.now.addSat a) (.ok mid) →
        (mid.Elapses b ending ↔ mid.Unfolds (sim.now.addSat c) ending) := by
    intro mid ending hfirst
    rw [elapses_iff, hfirst.now_eq, Duration.addSat_addSat hsum]
  have hjoin : ∀ {mid : Simulation} {ending : Except Fault Simulation},
      sim.Elapses a (.ok mid) → mid.Elapses b ending → sim.Elapses c ending := by
    intro mid ending hfirst hsecond
    rw [elapses_iff] at hfirst ⊢
    exact hfirst.join hle ((hrest hfirst).mp hsecond)
  constructor
  · intro ending
    constructor
    · intro h
      rcases (elapses_iff.mp h).split hle with ⟨mid, hfirst, hsecond⟩ | ⟨fault, rfl, hfirst⟩
      · exact Or.inl ⟨mid, elapses_iff.mpr hfirst, (hrest hfirst).mpr hsecond⟩
      · exact Or.inr ⟨fault, rfl, elapses_iff.mpr hfirst⟩
    · rintro (⟨mid, hfirst, hsecond⟩ | ⟨fault, rfl, hfirst⟩)
      · exact hjoin hfirst hsecond
      · exact elapses_iff.mpr ((elapses_iff.mp hfirst).fault_mono hle)
  · intro budget budget' budget'' mid parted whole hfirst hsecond hwhole
    exact (hjoin (elapses_of_runFor hfirst) (elapses_of_runFor hsecond)).unique
      (elapses_of_runFor hwhole)

/-- The last message of a greeting arrives exactly where the run is cut. -/
theorem greeting_elapses : ∃ start ∈ (Simulation.create {}).toOption,
    ∃ sim ∈ (Operation.performAll 10 start Operation.greeting).toOption,
    (Duration.ofMillis 10).add (.ofSeconds 2) = .ok (.ofMillis 2010) ∧
      ∃ mid ∈ (sim.runFor 10 (.ofMillis 10)).toOption,
      ∃ parted ∈ (mid.runFor 10 (.ofSeconds 2)).toOption,
      ∃ whole ∈ (sim.runFor 10 (.ofMillis 2010)).toOption,
        sim.net.agenda.next?.map Pending.due = some mid.now ∧
          mid.net.agenda.next?.map Pending.due = some (.ofSeconds 1) ∧
          sim.Elapses (.ofMillis 2010) (.ok parted) ∧ parted = whole := by
  have hcut : ∀ {sim mid parted whole : Simulation},
      mid ∈ (sim.runFor 10 (.ofMillis 10)).toOption →
      parted ∈ (mid.runFor 10 (.ofSeconds 2)).toOption →
      whole ∈ (sim.runFor 10 (.ofMillis 2010)).toOption →
        sim.Elapses (.ofMillis 2010) (.ok parted) ∧ parted = whole := by
    intro sim mid parted whole hmid hparted hwhole
    have hfirst := Operation.eq_ok_of_mem_toOption hmid
    have hsecond := Operation.eq_ok_of_mem_toOption hparted
    obtain ⟨helapses, hsame⟩ := elapses_add
      (rfl : (Duration.ofMillis 10).add (.ofSeconds 2) = .ok (.ofMillis 2010)) sim
    have hboth := (helapses (.ok parted)).mpr
      (Or.inl ⟨mid, elapses_of_runFor hfirst, elapses_of_runFor hsecond⟩)
    exact ⟨hboth,
      hsame 10 10 10 mid parted whole hfirst hsecond (Operation.eq_ok_of_mem_toOption hwhole)⟩
  exact ⟨_, Option.get_mem Operation.isSome_create, _, Option.get_mem (by decide +kernel), rfl,
    _, Option.get_mem (by decide +kernel), _, Option.get_mem (by decide +kernel),
    _, Option.get_mem (by decide +kernel), by decide +kernel, by decide +kernel,
    hcut (Option.get_mem _) (Option.get_mem _) (Option.get_mem _)⟩

end Simulation

end ReliableStream
