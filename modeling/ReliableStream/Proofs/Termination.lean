import ReliableStream.Proofs.Deliveries
/-! # Runs come to an end

    Virtual time could stand still for ever: the latency may be zero, every
    packet may be doubled, and whatever arrives may be answered at once. It
    does not. Cut the time up to a deadline into slices of the least span of
    all timers. Of three numbers, the first that changes gets less with every
    event:

    - how many slices are left,
    - how many timers come back within the slice; a timer that is armed comes
      back in a later one, or after the deadline,
    - the weight of the simulation, which deliveries take off.

    Nothing is assumed of what is pending, nor of the network: between two
    events it may be exchanged for another. -/

namespace ReliableStream

/-- Where every way ends, none is endless. -/
theorem not_exists_endless {α : Type} {r : α → α → Prop} {a : α}
    (h : Acc (fun later earlier => r earlier later) a) :
    ¬ ∃ run : Nat → α, run 0 = a ∧ ∀ i, r (run i) (run (i + 1)) := by
  induction h with
  | intro a _ ih =>
    rintro ⟨run, rfl, hrun⟩
    -- What follows the first step would be endless as well.
    exact ih (run 1) (hrun 0) ⟨fun i => run (i + 1), rfl, fun i => hrun (i + 1)⟩

namespace Simulation

variable {sim sim' : Simulation} {deadline : Duration} {span : Nat}

/-- The next event happens, due by a deadline, on a network that does to
    packets whatever it likes. -/
def Ticks (deadline : Duration) (sim sim' : Simulation) : Prop :=
  ∃ mid, sim.Alike mid ∧ mid.hasDue deadline = true ∧ mid.step? = .ok (some sim')

/-- The event that happens is a pending one, and none is due before it. -/
theorem Ticks.exists_takes (h : sim.Ticks deadline sim') :
    ∃ e, sim.Takes e sim' ∧ e.due ≤ deadline ∧
      ∀ other ∈ sim.net.agenda.toList, e.due ≤ other.due := by
  obtain ⟨mid, halike, hdue, hstep⟩ := h
  unfold step? at hstep
  split at hstep
  · cases hstep
  · next e agenda htake =>
    obtain ⟨after, hhandle, heq⟩ := exists_of_map_eq_ok hstep
    cases heq
    have htaken := Agenda.toList_of_take? htake
    have hfirst := Agenda.precedes_of_take? htake
    have hnext : mid.net.agenda.next? = some e := by
      rw [Agenda.next?_eq, htake]
      rfl
    rw [halike.agenda] at htaken
    refine ⟨e, ⟨mid, agenda, halike, htaken, hhandle⟩, le_due_of_hasDue hdue hnext, ?_⟩
    intro other hother
    rcases List.mem_cons.mp (htaken.mem_iff.mp hother) with rfl | hother
    · exact Nat.le_refl _
    · have hprecedes := hfirst other hother
      unfold Pending.Precedes at hprecedes
      rw [Duration.le_def]
      omega

/-! ### Slices of time -/

/-- Nothing pending is overdue. -/
def Prompt (sim : Simulation) : Prop := ∀ e ∈ sim.net.agenda.toList, sim.now ≤ e.due

theorem Ticks.prompt (h : sim.Ticks deadline sim') : sim'.Prompt := by
  obtain ⟨e, htakes, -, hfirst⟩ := h.exists_takes
  obtain ⟨mid, rest, effects, added, -, -, htrades⟩ := htakes.exists_trades
  intro later hlater
  rw [htrades.now]
  rcases List.mem_append.mp (htrades.agenda.mem_iff.mp hlater) with hlater | hlater
  · exact htrades.ahead later hlater
  · exact hfirst later (htrades.taken.mem_iff.mpr (List.mem_cons_of_mem _ hlater))

/-- A timer comes back by the deadline, and no later than in the slice of a
    point of time. -/
def Soon (deadline : Duration) (span : Nat) (now : Duration) (wait : Wait) : Prop :=
  wait.due ≤ deadline ∧ wait.due.nanos / span ≤ now.nanos / span

instance (deadline : Duration) (span : Nat) (now : Duration) :
    DecidablePred (Soon deadline span now) := fun _ => inferInstanceAs (Decidable (_ ∧ _))

/-- A timer that is armed does not come back soon. -/
theorem countP_soon_waitsOf (now : Duration) (addr : NodeAddr) {effects : List Effect}
    (hspan : 0 < span) (hdeadline : deadline < .longest)
    (hlasts : ∀ effect ∈ effects, effect.Lasts span) :
    (waitsOf now addr effects).countP (Soon deadline span now) = 0 := by
  rw [List.countP_eq_zero]
  intro wait hwait hsoon
  obtain ⟨hdue, hslice⟩ := of_decide_eq_true hsoon
  obtain ⟨effect, heffect, harmed⟩ := List.mem_filterMap.mp hwait
  cases effect with
  | send packet => cases harmed
  | arm delay timer =>
    cases harmed
    have hdelay : span ≤ delay.nanos := hlasts _ heffect
    have hlater := Nat.div_le_div_right (c := span) (Nat.add_le_add_left hdelay now.nanos)
    rw [Nat.add_div_right _ hspan] at hlater
    rw [Duration.lt_def] at hdeadline
    simp only [Duration.le_def, Duration.nanos_addSat] at hdue hslice
    -- A sum that is cut off is the longest duration, which is past the deadline.
    rw [Nat.min_eq_left (by omega)] at hslice
    omega

/-- The timers that are pending. -/
def waiting (sim : Simulation) : List Wait := sim.net.agenda.toList.filterMap Pending.wait?

theorem Trades.waiting {e : Pending} {rest added : List Pending} {effects : List Effect}
    (h : sim.Trades e rest effects added sim') :
    sim.waiting.Perm (e.wait?.toList ++ rest.filterMap Pending.wait?) ∧
      sim'.waiting.Perm
        (waitsOf e.due e.event.addr effects ++ rest.filterMap Pending.wait?) := by
  constructor
  · refine (h.taken.filterMap _).trans (List.Perm.of_eq ?_)
    cases hwait : e.wait? with
    | none => exact List.filterMap_cons_none hwait
    | some wait => exact List.filterMap_cons_some hwait
  · rw [← h.adds.waits, ← List.filterMap_append]
    exact h.agenda.filterMap _

/-- How far a simulation is from a deadline, in order of importance. -/
def distance (deadline : Duration) (span : Nat) (sim : Simulation) : Nat × Nat × Nat :=
  (deadline.nanos / span - sim.now.nanos / span,
    sim.waiting.countP (Soon deadline span sim.now), sim.weight)

/-- **Every event brings the deadline nearer.** -/
theorem Ticks.distance_lt (h : sim.Ticks deadline sim') (hspan : 0 < span)
    (hdeadline : deadline < .longest) (hsim : sim.Pausing span) (hprompt : sim.Prompt) :
    WellFoundedRelation.rel (sim'.distance deadline span) (sim.distance deadline span) := by
  obtain ⟨e, htakes, hdue, -⟩ := h.exists_takes
  obtain ⟨mid, rest, effects, added, hnodes, hhappens, htrades⟩ := htakes.exists_trades
  have hnow : sim.now ≤ e.due := hprompt e (htrades.taken.mem_iff.mpr List.mem_cons_self)
  have hpassed := Nat.div_le_div_right (c := span) hnow
  have hleft := Nat.div_le_div_right (c := span) hdue
  unfold distance
  rw [htrades.now]
  by_cases hslice : e.due.nanos / span = sim.now.nanos / span
  -- Within the slice, only those timers count that were pending before.
  · obtain ⟨hbefore, hafter⟩ := htrades.waiting
    have harmed := countP_soon_waitsOf e.due e.event.addr hspan hdeadline
      (hhappens.lasts (hsim.of_nodes hnodes))
    have hsame : Soon deadline span sim.now = Soon deadline span e.due := by
      unfold Soon
      rw [hslice]
    simp only [hsame]
    rw [hslice, hbefore.countP_eq, hafter.countP_eq, List.countP_append, List.countP_append,
      harmed, Nat.zero_add]
    refine Prod.Lex.right _ ?_
    cases hevent : e.event with
    | deliver packet =>
      have hnone : e.wait? = none := by
        unfold Pending.wait?
        rw [hevent]
      rw [hnone, Option.toList_none, List.countP_nil, Nat.zero_add]
      exact Prod.Lex.right _ (htakes.weight_lt hevent hsim)
    | timer addr timer =>
      have hsome : e.wait? = some ⟨e.due, addr, timer⟩ := by
        unfold Pending.wait?
        rw [hevent]
      have hsoon : Soon deadline span e.due ⟨e.due, addr, timer⟩ := ⟨hdue, Nat.le_refl _⟩
      rw [hsome, Option.toList_some, List.countP_singleton, if_pos (decide_eq_true hsoon)]
      exact Prod.Lex.left _ _ (Nat.lt_add_of_pos_left Nat.one_pos)
  -- The event is in a later slice, and it is due by the deadline.
  · exact Prod.Lex.left _ _ (Nat.sub_lt_sub_left (by omega) (by omega))

theorem Ticks.pausing (h : sim.Ticks deadline sim') (hsim : sim.Pausing span) :
    sim'.Pausing span := by
  obtain ⟨e, htakes, -⟩ := h.exists_takes
  exact htakes.pausing hsim

/-! ### The end of runs -/

/-- If every node is in use, the least of their spans is one of all. -/
theorem exists_pausing (h : ∀ addr node, sim.node? addr = some node → node.InUse) :
    ∃ span, 0 < span ∧ sim.Pausing span := by
  have hone : ∀ addr, ∃ span, 0 < span ∧
      ∀ node, sim.node? addr = some node → node.Pausing span := by
    intro addr
    cases hnode : sim.node? addr with
    | none => exact ⟨1, Nat.one_pos, nofun⟩
    | some node =>
      obtain ⟨span, hspan, hpausing⟩ := (h addr node hnode).exists_pausing
      refine ⟨span, hspan, fun node' hnode' => ?_⟩
      cases hnode'
      exact hpausing
  have hkeys : ∀ keys : List NodeAddr, ∃ span, 0 < span ∧
      ∀ addr ∈ keys, ∀ node, sim.node? addr = some node → node.Pausing span := by
    intro keys
    induction keys with
    | nil => exact ⟨1, Nat.one_pos, nofun⟩
    | cons addr rest ih =>
      obtain ⟨own, hown, hfirst⟩ := hone addr
      obtain ⟨span, hspan, hrest⟩ := ih
      refine ⟨min own span, by omega, fun addr' haddr node hnode => ?_⟩
      rcases List.mem_cons.mp haddr with rfl | haddr
      · exact (hfirst node hnode).mono (Nat.min_le_left ..)
      · exact (hrest addr' haddr node hnode).mono (Nat.min_le_right ..)
  obtain ⟨span, hspan, hall⟩ := hkeys sim.nodes.keys
  refine ⟨span, hspan, fun addr node hnode => hall addr ?_ node hnode⟩
  rw [Table.mem_keys_iff]
  exact Option.isSome_of_eq_some hnode

/-- Where all nodes pause and nothing is overdue, every way ends. -/
theorem acc_ticks_of_prompt (hspan : 0 < span) (hdeadline : deadline < .longest)
    (hsim : sim.Pausing span) (hprompt : sim.Prompt) :
    Acc (fun later earlier => Ticks deadline earlier later) sim := by
  -- By induction on the distance, for all simulations so far from the deadline.
  have hacc : Acc WellFoundedRelation.rel (sim.distance deadline span) :=
    WellFoundedRelation.wf.apply _
  generalize hd : sim.distance deadline span = d at hacc
  induction hacc generalizing sim with
  | intro d _ ih =>
    subst hd
    exact Acc.intro _ fun later hticks =>
      ih _ (hticks.distance_lt hspan hdeadline hsim hprompt) (hticks.pausing hsim) hticks.prompt rfl

/-- What is overdue can only come first. -/
theorem acc_ticks (h : ∀ addr node, sim.node? addr = some node → node.InUse)
    (hdeadline : deadline < .longest) :
    Acc (fun later earlier => Ticks deadline earlier later) sim := by
  obtain ⟨span, hspan, hsim⟩ := exists_pausing h
  exact Acc.intro _ fun later hticks =>
    acc_ticks_of_prompt hspan hdeadline (hticks.pausing hsim) hticks.prompt

/-- A run is over at once, or it goes on with an event that is due. -/
theorem runTo_cases (sim : Simulation) (goal : Simulation → Bool) (deadline : Duration) :
    (∃ ending, ending ≠ .error .outOfBudget ∧
      ∀ budget, sim.runTo goal deadline (budget + 1) = ending) ∨
    ∃ later, sim.Ticks deadline later ∧
      ∀ budget, sim.runTo goal deadline (budget + 1) = later.runTo goal deadline budget := by
  cases hgoal : goal sim with
  | true => exact Or.inl ⟨.ok (.reached, sim), by simp, fun _ => by simp [runTo, hgoal]⟩
  | false =>
    cases hdue : sim.hasDue deadline with
    | false =>
      exact Or.inl ⟨.ok (.notReached, sim), by simp, fun _ => by simp [runTo, hgoal, hdue]⟩
    | true =>
      cases hstep : sim.step? with
      | error fault =>
        exact Or.inl ⟨.error (.fault fault), by simp, fun _ => by
          simp [runTo, hgoal, hdue, hstep]⟩
      | ok after =>
        cases after with
        | none =>
          exact Or.inl ⟨.ok (.notReached, sim), by simp, fun _ => by
            simp [runTo, hgoal, hdue, hstep]⟩
        | some later =>
          exact Or.inr ⟨later, ⟨sim, ⟨rfl, rfl, rfl⟩, hdue, hstep⟩, fun _ => by
            simp [runTo, hgoal, hdue, hstep]⟩

/-- A run ends the same way under every budget that is large enough. -/
theorem exists_ending_of_acc
    (h : Acc (fun later earlier => Ticks deadline earlier later) sim) (goal : Simulation → Bool) :
    ∃ ending budget, ending ≠ .error .outOfBudget ∧
      ∀ more, budget ≤ more → sim.runTo goal deadline more = ending := by
  induction h with
  | intro sim _ ih =>
    rcases runTo_cases sim goal deadline with ⟨ending, hne, hends⟩ | ⟨later, hticks, hgoes⟩
    · refine ⟨ending, 1, hne, fun more hmore => ?_⟩
      obtain ⟨budget, rfl⟩ := Nat.exists_eq_add_of_le' hmore
      exact hends budget
    · obtain ⟨ending, budget, hne, hends⟩ := ih later hticks
      refine ⟨ending, budget + 1, hne, fun more hmore => ?_⟩
      obtain ⟨beyond, rfl⟩ := Nat.exists_eq_add_of_le' hmore
      exact (hgoes (beyond + budget)).trans (hends _ (Nat.le_add_left ..))

/-- **Runs come to an end.** Where every node is in use, whatever is pending
    and whatever the network does: events do not follow each other for ever
    before a deadline. So a run to a goal and a run for a span end, and a
    budget that is large enough makes no difference to them. And whatever is
    in flight, no more packets are delivered than the simulation weighs, as
    long as no timer comes back. -/
theorem run_ends (h : ∀ addr node, sim.node? addr = some node → node.InUse)
    (hdeadline : deadline < .longest) :
    (¬ ∃ run : Nat → Simulation, run 0 = sim ∧ ∀ i, (run i).Ticks deadline (run (i + 1))) ∧
      (∀ goal, ∃ ending budget, ending ≠ .error .outOfBudget ∧
        ∀ more, budget ≤ more → sim.runTo goal deadline more = ending) ∧
      (∀ span, sim.now.addSat span = deadline → ∃ ending budget,
        ending ≠ .error .outOfBudget ∧ ∀ more, budget ≤ more → sim.runFor more span = ending) ∧
      ∀ count sim', sim.Deliveries count sim' → count + sim'.weight ≤ sim.weight := by
  have hacc := acc_ticks h hdeadline
  refine ⟨not_exists_endless hacc, exists_ending_of_acc hacc, ?_, ?_⟩
  · rintro span rfl
    obtain ⟨ending, budget, hne, hends⟩ := exists_ending_of_acc hacc fun _ => false
    refine ⟨ending.map fun reached =>
      { reached.2 with net := { reached.2.net with now := sim.now.addSat span } }, budget, ?_, ?_⟩
    · cases ending with
      | error stop => exact fun heq => hne (congrArg _ (Except.error.inj heq))
      | ok reached => exact fun heq => by cases heq
    · intro more hmore
      rw [← hends more hmore]
      rfl
  · intro count sim' hdeliveries
    obtain ⟨span, -, hsim⟩ := exists_pausing h
    exact (hdeliveries.add_weight_le hsim).1

/-- A server that listens, with a request on its way to it. The server keeps
    answering the request, and nobody confirms. -/
theorem request_ends : ∃ start ∈ (Simulation.create {}).toOption,
    ∃ attached ∈ (Node.create 2 { mss := 4, bufferSize := 8 }).toOption,
    ∃ server ∈ attached.after [(.zero, .call .socket), (.zero, .call (.bind 1 80)),
      (.zero, .call (.listen 1 1))],
    ∃ request ∈ server.profile.packet? 1 2 (.control 90 80 .syn 0 8),
    ∃ sim : Simulation,
      sim = ⟨Table.empty.put 2 server, start.net.schedule .zero (.deliver request)⟩ ∧
      sim.weight = launchWeight + 15 ∧
      (∃ later ∈ (sim.runFor 7 (.ofSeconds 5)).toOption, later.state 2 2 = .established ∧
        later.net.agenda.next?.map Pending.due = some (.ofSeconds 6)) ∧
      (¬ ∃ run : Nat → Simulation, run 0 = sim ∧
        ∀ i, (run i).Ticks (.ofSeconds 5) (run (i + 1))) ∧
      ∃ ending budget, ending ≠ .error .outOfBudget ∧
        ∀ more, budget ≤ more → sim.runFor more (.ofSeconds 5) = ending := by
  refine ⟨_, Option.get_mem Operation.isSome_create, _, Option.get_mem (by decide +kernel),
    _, Option.get_mem (by decide +kernel), _, Option.get_mem (by decide +kernel), _, rfl,
    by decide +kernel, ⟨_, Option.get_mem (by decide +kernel), by decide +kernel,
      by decide +kernel⟩, ?_⟩
  refine ⟨(run_ends ?inUse (by decide)).1, (run_ends ?inUse (by decide)).2.2.1 _ rfl⟩
  intro addr node hnode
  unfold node? at hnode
  rw [Table.get?_put] at hnode
  split at hnode
  · cases hnode
    exact ⟨2, _, _, _, Operation.eq_ok_of_mem_toOption (Option.get_mem _), by decide, by decide,
      by decide, by decide, Option.get_mem _⟩
  · cases hnode

end Simulation

end ReliableStream
