import ReliableStream.Proofs.Traffic
/-! # The order of events

    An application sets a simulation up, acts on its nodes, and lets events
    happen: one, all within a span, or as many as a goal takes. Whatever it
    does can be told as a list of **deeds**, of which every one is a single
    act, a single event, or time that passes with nothing due.

    Events come up in the order of their due times and serial numbers, none
    twice and none late, and a timer comes back to the node that armed it,
    exactly when its delay is over. The clock and the trace never go back.
    What an application does to a node is arbitrary here: whatever node it
    leaves and whatever effects it asks for, the order is kept. -/

namespace ReliableStream

/-! ### The law of the agenda -/

/-- A network that is in time, after events were taken off its agenda, the
    first one taken first, and timers were armed. -/
structure Network.Punctual (n : Network) (taken : List Pending) (waits : List Wait) : Prop where
  pending : ∀ e ∈ n.agenda.toList, n.now ≤ e.due
  /-- The times of the trace never go back, nor past the clock. -/
  trace : n.trace.Pairwise fun a b => a.sentAt ≤ b.sentAt
  past : ∀ entry ∈ n.trace, entry.sentAt ≤ n.now
  order : taken.Pairwise Pending.Precedes
  passed : ∀ e ∈ taken, e.due ≤ n.now
  ahead : ∀ e ∈ taken, ∀ e' ∈ n.agenda.toList, e.Precedes e'
  /-- Each event ever put on the agenda was taken once, or is still there. -/
  once : ((taken ++ n.agenda.toList).map Pending.serial).Perm (List.range' 1 n.serial)
  /-- Each timer ever armed came back in time, or still will. -/
  waits : ((taken ++ n.agenda.toList).filterMap Pending.wait?).Perm waits

namespace Network.Punctual

variable {n n' : Network} {taken added : List Pending} {waits : List Wait}

theorem of_create {settings : NetworkSettings} (h : Network.create settings = .ok n) :
    n.Punctual [] [] := by
  obtain ⟨link, -, h⟩ := exists_of_map_eq_ok h
  cases h
  exact ⟨nofun, .nil, nofun, .nil, nofun, nofun, .nil, .nil⟩

/-- No event was numbered beyond the counter. -/
theorem serial_le (h : n.Punctual taken waits) {e : Pending} (he : e ∈ taken) :
    e.serial ≤ n.serial := by
  have hmem : e.serial ∈ (taken ++ n.agenda.toList).map Pending.serial :=
    List.mem_map_of_mem (List.mem_append_left _ he)
  have := List.mem_range'_1.mp (h.once.mem_iff.mp hmem)
  omega

/-- What is added to a punctual network comes after all that was taken. -/
theorem grows (h : n.Punctual taken waits) (hgrows : n.Grows added n') :
    n'.Punctual taken (waits ++ added.filterMap Pending.wait?) where
  pending := by
    intro e he
    rw [hgrows.now]
    rcases List.mem_append.mp (hgrows.agenda.mem_iff.mp he) with he | he
    · exact hgrows.ahead e he
    · exact h.pending e he
  trace := by
    obtain ⟨entries, hlog, hsent⟩ := hgrows.log
    unfold Network.trace
    rw [hlog, List.reverse_append, List.pairwise_append]
    refine ⟨h.trace, ?_, ?_⟩
    -- All new entries bear the time of the clock.
    · refine List.pairwise_of_forall_mem_list fun a ha b hb => ?_
      rw [hsent a (List.mem_reverse.mp ha), hsent b (List.mem_reverse.mp hb)]
      exact Nat.le_refl _
    · intro a ha b hb
      rw [hsent b (List.mem_reverse.mp hb)]
      exact h.past a ha
  past := by
    obtain ⟨entries, hlog, hsent⟩ := hgrows.log
    intro entry hentry
    unfold Network.trace at hentry
    rw [hlog, List.reverse_append, List.mem_append] at hentry
    rw [hgrows.now]
    rcases hentry with hentry | hentry
    · exact h.past entry hentry
    · rw [hsent entry (List.mem_reverse.mp hentry)]
      exact Nat.le_refl _
  order := h.order
  passed := by
    rw [hgrows.now]
    exact h.passed
  ahead := by
    intro e he e' he'
    rcases List.mem_append.mp (hgrows.agenda.mem_iff.mp he') with he' | he'
    -- A new event is due no earlier, and its number is larger.
    · have hpassed := h.passed e he
      have hahead := hgrows.ahead e' he'
      have hold := h.serial_le he
      have hnew := (hgrows.serial_bounds he').1
      unfold Pending.Precedes
      rw [Duration.le_def] at hpassed hahead
      omega
    · exact h.ahead e he e' he'
  once := by
    refine ((hgrows.agenda.append_left taken).map _).trans ?_
    have hserials := (h.once.append_right (added.map Pending.serial))
    rw [hgrows.serials, Nat.add_comm n.serial 1, List.range'_append_1, ← hgrows.serial,
      ← Nat.add_comm n.serial 1, ← hgrows.serials, ← List.map_append] at hserials
    refine List.Perm.trans (List.Perm.map _ ?_) hserials
    rw [List.append_assoc]
    exact List.Perm.append_left taken List.perm_append_comm
  waits := by
    refine ((hgrows.agenda.append_left taken).filterMap _).trans ?_
    have hwaits := h.waits.append_right (added.filterMap Pending.wait?)
    rw [← List.filterMap_append] at hwaits
    refine List.Perm.trans (List.Perm.filterMap _ ?_) hwaits
    rw [List.append_assoc]
    exact List.Perm.append_left taken List.perm_append_comm

/-- The event that is taken comes after all that were taken before, and none
    that stays comes before it. -/
theorem take (h : n.Punctual taken waits) {e : Pending} {agenda : Agenda}
    (htake : n.agenda.take? = some (e, agenda)) :
    ({ n with agenda, now := e.due } : Network).Punctual (taken ++ [e]) waits := by
  have hevents := Agenda.toList_of_take? htake
  have hfirst := Agenda.precedes_of_take? htake
  have hmem : e ∈ n.agenda.toList := hevents.mem_iff.mpr List.mem_cons_self
  have hstays : ∀ e' ∈ agenda.toList, e' ∈ n.agenda.toList := fun e' he' =>
    hevents.mem_iff.mpr (List.mem_cons_of_mem _ he')
  have hnow := h.pending e hmem
  have hparts : (taken ++ [e] ++ agenda.toList).Perm (taken ++ n.agenda.toList) := by
    rw [List.append_assoc]
    exact List.Perm.append_left taken hevents.symm
  refine ⟨?_, h.trace, ?_, ?_, ?_, ?_, (hparts.map _).trans h.once,
    (hparts.filterMap _).trans h.waits⟩
  · intro e' he'
    have := hfirst e' he'
    unfold Pending.Precedes at this
    rw [Duration.le_def]
    show e.due.nanos ≤ _
    omega
  · intro entry hentry
    exact Nat.le_trans (h.past entry hentry) hnow
  · rw [List.pairwise_append]
    refine ⟨h.order, List.pairwise_singleton .., ?_⟩
    intro a ha b hb
    cases List.mem_singleton.mp hb
    exact h.ahead a ha e hmem
  · intro a ha
    rcases List.mem_append.mp ha with ha | ha
    · exact Nat.le_trans (h.passed a ha) hnow
    · cases List.mem_singleton.mp ha
      exact Nat.le_refl _
  · intro a ha e' he'
    rcases List.mem_append.mp ha with ha | ha
    · exact h.ahead a ha e' (hstays e' he')
    · cases List.mem_singleton.mp ha
      exact hfirst e' he'

/-- The clock may go on as far as nothing is due. -/
theorem wait (h : n.Punctual taken waits) {till : Duration} (hnow : n.now ≤ till)
    (hidle : ∀ e ∈ n.agenda.toList, till ≤ e.due) :
    ({ n with now := till } : Network).Punctual taken waits :=
  { h with
    pending := hidle
    past := fun entry hentry => Nat.le_trans (h.past entry hentry) hnow
    passed := fun e he => Nat.le_trans (h.passed e he) hnow }

end Network.Punctual

/-! ### Deeds -/

/-- The node that an event is for. -/
def Event.addr : Event → NodeAddr
  | .deliver packet => packet.dest
  | .timer addr _ => addr

/-- What happens to a simulation in one go. -/
inductive Deed where
  /-- A node is attached, or a drop filter put in. -/
  | setUp
  /-- An application acts on a node, with effects. -/
  | acted (now : Duration) (addr : NodeAddr) (effects : List Effect)
  /-- An event is taken off the agenda, and its node acts with effects. -/
  | took (e : Pending) (effects : List Effect)
  /-- The clock moves on. -/
  | waited (till : Duration)

/-- The event that is taken off the agenda. -/
def Deed.event? : Deed → Option Pending
  | .took e _ => some e
  | _ => none

/-- The timers that are armed. -/
def Deed.waits : Deed → List Wait
  | .acted now addr effects => waitsOf now addr effects
  | .took e effects => waitsOf e.due e.event.addr effects
  | _ => []

/-- The events taken off the agenda, in order. -/
def takenBy (deeds : List Deed) : List Pending := deeds.filterMap Deed.event?

/-- The timers armed, in order. -/
def waitsBy (deeds : List Deed) : List Wait := deeds.flatMap Deed.waits

theorem takenBy_snoc (deeds : List Deed) (deed : Deed) :
    takenBy (deeds ++ [deed]) = takenBy deeds ++ deed.event?.toList := by
  unfold takenBy
  rw [List.filterMap_append]
  cases deed <;> rfl

theorem waitsBy_snoc (deeds : List Deed) (deed : Deed) :
    waitsBy (deeds ++ [deed]) = waitsBy deeds ++ deed.waits := by
  unfold waitsBy
  rw [List.flatMap_append, List.flatMap_singleton]

namespace Simulation

variable {sim sim' mid : Simulation} {deed : Deed} {deeds deeds' : List Deed}

/-- What an event does at the time it is due: a packet is handed to the node
    it is addressed to, a timer to the node that armed it, and without that
    node nothing happens. -/
inductive Happens (sim : Simulation) : Event → List Effect → Simulation → Prop where
  | delivered {packet node node' effects sim'} : sim.node? packet.dest = some node →
      node.onPacket packet sim.now = .ok (node', effects) →
      sim.settle packet.dest node' effects = .ok sim' →
      Happens sim (.deliver packet) effects sim'
  | fired {addr timer node sim'} : sim.node? addr = some node →
      sim.settle addr (node.onTimer timer sim.now).1 (node.onTimer timer sim.now).2 = .ok sim' →
      Happens sim (.timer addr timer) (node.onTimer timer sim.now).2 sim'
  | missed {event} : sim.node? event.addr = none → Happens sim event [] sim

/-- The simulation at the moment when an event is taken off the agenda. -/
def atEvent (sim : Simulation) (e : Pending) (agenda : Agenda) : Simulation :=
  { sim with net := { sim.net with agenda, now := e.due } }

/-- What a deed does. -/
inductive Does : Simulation → Deed → Simulation → Prop where
  | attached {sim addr settings sim'} : sim.attach addr settings = .ok sim' →
      Does sim .setUp sim'
  | filtered {sim filter} : Does sim .setUp (sim.withFilter filter)
  | acted {sim sim' addr node node' effects} : sim.node? addr = some node →
      sim.settle addr node' effects = .ok sim' → Does sim (.acted sim.now addr effects) sim'
  | took {sim sim' e agenda effects} : sim.net.agenda.take? = some (e, agenda) →
      (sim.atEvent e agenda).Happens e.event effects sim' → Does sim (.took e effects) sim'
  | waited {sim till} : sim.now ≤ till → (∀ e ∈ sim.net.agenda.toList, till < e.due) →
      Does sim (.waited till) { sim with net := { sim.net with now := till } }

/-- What deeds do, one after the other. -/
inductive Flow (sim : Simulation) : List Deed → Simulation → Prop where
  | nil : Flow sim [] sim
  | snoc {deeds : List Deed} {mid : Simulation} {deed : Deed} {sim' : Simulation} :
      Flow sim deeds mid → mid.Does deed sim' → Flow sim (deeds ++ [deed]) sim'

theorem Flow.one (h : sim.Does deed sim') : sim.Flow [deed] sim' := .snoc .nil h

theorem Flow.append (h : sim.Flow deeds mid) (h' : mid.Flow deeds' sim') :
    sim.Flow (deeds ++ deeds') sim' := by
  induction h' with
  | nil => simpa using h
  | snoc _ hdoes ih =>
    rw [← List.append_assoc]
    exact .snoc ih hdoes

theorem exists_happens {event : Event} (h : sim.handle event = .ok sim') :
    ∃ effects, sim.Happens event effects sim' := by
  unfold handle at h
  cases event with
  | deliver packet =>
    simp only at h
    split at h
    · next node hnode =>
      obtain ⟨⟨node', effects⟩, hreact, hsettle⟩ := exists_of_bind_eq_ok h
      exact ⟨effects, .delivered hnode hreact hsettle⟩
    · next hnone =>
      cases h
      exact ⟨[], .missed hnone⟩
  | timer addr timer =>
    simp only at h
    split at h
    · next node hnode => exact ⟨_, .fired hnode h⟩
    · next hnone =>
      cases h
      exact ⟨[], .missed hnone⟩

/-- A step takes the event that comes up next. -/
theorem exists_took_of_step? (h : sim.step? = .ok (some sim')) :
    ∃ e effects, sim.net.agenda.next? = some e ∧ sim.Does (.took e effects) sim' := by
  unfold step? at h
  split at h
  · cases h
  · next e agenda htake =>
    obtain ⟨sim₁, hhandle, hsome⟩ := exists_of_map_eq_ok h
    cases hsome
    obtain ⟨effects, hhappens⟩ := exists_happens hhandle
    refine ⟨e, effects, ?_, .took htake hhappens⟩
    rw [Agenda.next?_eq, htake]
    rfl

/-- There is no step only if nothing is pending. -/
theorem toList_of_step?_eq_none (h : sim.step? = .ok none) : sim.net.agenda.toList = [] := by
  unfold step? at h
  split at h
  · next hnone => exact (Agenda.take?_eq_none_iff _).mp hnone
  · obtain ⟨_, _, hsome⟩ := exists_of_map_eq_ok h
    cases hsome

/-- Only the node acts that an event is for. -/
theorem Happens.spec {event : Event} {effects : List Effect} (h : sim.Happens event effects sim') :
    (∃ added, sim.net.Grows added sim'.net ∧ AddsAll sim.now event.addr effects added) ∧
      ∀ addr, addr ≠ event.addr → sim'.node? addr = sim.node? addr := by
  have hothers : ∀ {acting : NodeAddr} {node : Node} {addr : NodeAddr},
      sim'.nodes = sim.nodes.put acting node → addr ≠ acting →
        sim'.node? addr = sim.node? addr := by
    intro acting node addr hnodes hne
    unfold node?
    rw [hnodes, Table.get?_put, if_neg (Ne.symm hne)]
  cases h with
  | delivered _ _ hsettle =>
    obtain ⟨hnodes, hadded⟩ := settle_spec hsettle
    exact ⟨hadded, fun _ => hothers hnodes⟩
  | fired _ hsettle =>
    obtain ⟨hnodes, hadded⟩ := settle_spec hsettle
    exact ⟨hadded, fun _ => hothers hnodes⟩
  | missed => exact ⟨⟨[], .refl _, .nil⟩, fun _ _ => rfl⟩

theorem net_of_attach {addr : NodeAddr} {settings : Settings}
    (h : sim.attach addr settings = .ok sim') : sim'.net = sim.net := by
  unfold attach at h
  split at h
  · cases h
  · split at h
    · cases h
      rfl
    · cases h

/-- Every deed leaves a punctual simulation punctual. -/
theorem Does.punctual (h : sim.Does deed sim') {taken : List Pending} {waits : List Wait}
    (hsim : sim.net.Punctual taken waits) :
    sim'.net.Punctual (taken ++ deed.event?.toList) (waits ++ deed.waits) := by
  cases h with
  | attached hattach =>
    rw [net_of_attach hattach]
    simpa [Deed.event?, Deed.waits] using hsim
  | @filtered filter =>
    have hgrows : sim.net.Grows [] (sim.withFilter filter).net := .quiet rfl rfl rfl rfl
    simpa [Deed.event?, Deed.waits] using hsim.grows hgrows
  | acted _ hsettle =>
    obtain ⟨-, added, hgrows, hadds⟩ := settle_spec hsettle
    simpa [Deed.event?, Deed.waits, hadds.waits] using hsim.grows hgrows
  | took htake hhappens =>
    obtain ⟨⟨added, hgrows, hadds⟩, -⟩ := hhappens.spec
    have hafter := (hsim.take htake).grows hgrows
    rw [hadds.waits] at hafter
    exact hafter
  | waited hnow hidle =>
    simpa [Deed.event?, Deed.waits] using hsim.wait hnow fun e he => Nat.le_of_lt (hidle e he)

theorem Flow.punctual (h : sim.Flow deeds sim') {taken : List Pending} {waits : List Wait}
    (hsim : sim.net.Punctual taken waits) :
    sim'.net.Punctual (taken ++ takenBy deeds) (waits ++ waitsBy deeds) := by
  induction h with
  | nil => simpa [takenBy, waitsBy] using hsim
  | snoc _ hdoes ih =>
    rw [takenBy_snoc, waitsBy_snoc, ← List.append_assoc, ← List.append_assoc]
    exact hdoes.punctual ih

/-- An event that is taken sets the clock and reaches one node, and a timer is
    handed to the node that armed it. -/
theorem Does.of_took {e : Pending} {effects : List Effect} (h : sim.Does (.took e effects) sim') :
    sim'.now = e.due ∧ (∀ addr, addr ≠ e.event.addr → sim'.node? addr = sim.node? addr) ∧
      ∀ addr timer, e.event = .timer addr timer →
        sim'.node? addr = (sim.node? addr).map fun node => (node.onTimer timer e.due).1 := by
  cases h with
  | @took _ _ agenda _ htake hhappens =>
    obtain ⟨⟨added, hgrows, -⟩, hothers⟩ := hhappens.spec
    refine ⟨hgrows.now, hothers, ?_⟩
    intro addr timer hevent
    rw [hevent] at hhappens
    change sim'.node? addr = ((sim.atEvent e agenda).node? addr).map _
    cases hhappens with
    | fired hnode hsettle =>
      rw [hnode]
      unfold node?
      rw [(settle_spec hsettle).1, Table.get?_put_self]
      rfl
    | missed hnone =>
      have hnone : (sim.atEvent e agenda).node? addr = none := hnone
      rw [hnone]
      rfl

/-- Deeds that are events keep the clock within a deadline. -/
theorem Flow.now_le (h : sim.Flow deeds sim') {deadline : Duration} (hnow : sim.now ≤ deadline)
    (hevents : ∀ deed ∈ deeds, ∃ e effects, deed = .took e effects ∧ e.due ≤ deadline) :
    sim'.now ≤ deadline := by
  cases h with
  | nil => exact hnow
  | snoc _ hdoes =>
    obtain ⟨e, effects, rfl, hdue⟩ := hevents _ (List.mem_append_right _ (List.mem_singleton_self _))
    rw [hdoes.of_took.1]
    exact hdue

/-- Nothing is due by a deadline if everything pending is due later. -/
theorem lt_due_of_hasDue {deadline : Duration} (h : sim.hasDue deadline = false) :
    ∀ e ∈ sim.net.agenda.toList, deadline < e.due := by
  intro e he
  unfold hasDue at h
  rw [Agenda.next?_eq] at h
  cases htake : sim.net.agenda.take? with
  | none =>
    rw [Agenda.take?_eq_none_iff] at htake
    rw [htake] at he
    cases he
  | some first =>
    obtain ⟨e₁, agenda⟩ := first
    rw [htake] at h
    have hlate : ¬ e₁.due ≤ deadline := of_decide_eq_false h
    rw [Duration.le_def] at hlate
    rw [Duration.lt_def]
    rcases List.mem_cons.mp ((Agenda.toList_of_take? htake).mem_iff.mp he) with rfl | he
    · omega
    · have := Agenda.precedes_of_take? htake e he
      unfold Pending.Precedes at this
      omega

theorem le_due_of_hasDue {deadline : Duration} {e : Pending} (h : sim.hasDue deadline = true)
    (hnext : sim.net.agenda.next? = some e) : e.due ≤ deadline := by
  unfold hasDue at h
  rw [hnext] at h
  exact of_decide_eq_true h

end Simulation

/-! ### Operations -/

/-- How an application watches a run: it **looks** before each event, and a
    look says whether the goal is reached. Between looks it keeps things in
    mind, and at a look it may operate the simulation as it likes. -/
structure Watch where
  Mind : Type
  start : Mind
  look : Mind → Simulation → Except Interruption (Bool × Mind × Simulation)
  operates : ∀ {mind sim reached mind' sim'}, look mind sim = .ok (reached, mind', sim') →
    ∃ deeds, sim.Flow deeds sim'

namespace Watch

/-- Lets events happen until a look finds the goal reached, or nothing is due
    by the deadline. -/
def run (watch : Watch) (deadline : Duration) :
    Nat → watch.Mind → Simulation → Except Interruption (Simulation.Outcome × Simulation)
  | 0, _, _ => .error .outOfBudget
  | budget + 1, mind, sim =>
    match watch.look mind sim with
    | .error stop => .error stop
    | .ok (true, _, sim) => .ok (.reached, sim)
    | .ok (false, mind, sim) =>
      if sim.hasDue deadline then
        match sim.step? with
        | .ok (some sim) => watch.run deadline budget mind sim
        | .ok none => .ok (.notReached, sim)
        | .error fault => .error (.fault fault)
      else .ok (.notReached, sim)

/-- A watch that only looks whether a goal holds. -/
def ofGoal (goal : Simulation → Bool) : Watch where
  Mind := Unit
  start := ()
  look _ sim := .ok (goal sim, (), sim)
  operates := by
    intro mind sim reached mind' sim' h
    cases h
    exact ⟨[], .nil⟩

/-- Looking whether a goal holds is how a simulation runs to it. -/
theorem run_ofGoal (goal : Simulation → Bool) (deadline : Duration) (budget : Nat)
    (mind : (ofGoal goal).Mind) (sim : Simulation) :
    (ofGoal goal).run deadline budget mind sim = sim.runTo goal deadline budget := by
  induction budget generalizing mind sim with
  | zero => rfl
  | succ budget ih =>
    simp only [run, Simulation.runTo, ofGoal]
    cases goal sim with
    | true => rfl
    | false =>
      simp only [Bool.false_eq_true, if_false]
      split
      · rcases sim.step? with fault | (_ | sim₁)
        · rfl
        · rfl
        · exact ih () sim₁
      · rfl

/-- A run is told by deeds of which each is an event due by the deadline, or
    one of those of a look. It ends as the last look found it, and without the
    goal only if nothing is left that is due. -/
theorem run_spec {watch : Watch} {deadline : Duration} {budget : Nat} {mind : watch.Mind}
    {sim sim' : Simulation} {outcome : Simulation.Outcome} (P : Deed → Prop)
    (hlook : ∀ {mind sim reached mind' sim'},
      watch.look mind sim = .ok (reached, mind', sim') →
        ∃ deeds, sim.Flow deeds sim' ∧ ∀ deed ∈ deeds, P deed)
    (hevent : ∀ {e effects}, e.due ≤ deadline → P (.took e effects))
    (h : watch.run deadline budget mind sim = .ok (outcome, sim')) :
    (∃ deeds, sim.Flow deeds sim' ∧ ∀ deed ∈ deeds, P deed) ∧
      (∃ mind before mind',
        watch.look mind before = .ok (decide (outcome = .reached), mind', sim')) ∧
      (outcome = .notReached → ∀ e ∈ sim'.net.agenda.toList, deadline < e.due) := by
  induction budget generalizing mind sim with
  | zero => cases h
  | succ budget ih =>
    unfold run at h
    split at h
    · cases h
    · next hreached =>
      cases h
      exact ⟨hlook hreached, ⟨_, _, _, hreached⟩, nofun⟩
    · next mind₁ sim₁ hlooked =>
      obtain ⟨deeds, hflow, hdeeds⟩ := hlook hlooked
      split at h
      · next hdue =>
        split at h
        · next sim₂ hstep =>
          obtain ⟨e, effects, hnext, hdoes⟩ := Simulation.exists_took_of_step? hstep
          obtain ⟨⟨rest, hrest, hall⟩, hend⟩ := ih h
          refine ⟨⟨deeds ++ [.took e effects] ++ rest, (hflow.append (.one hdoes)).append hrest, ?_⟩,
            hend⟩
          intro deed hdeed
          simp only [List.mem_append, List.mem_singleton] at hdeed
          rcases hdeed with (hdeed | rfl) | hdeed
          · exact hdeeds deed hdeed
          · exact hevent (Simulation.le_due_of_hasDue hdue hnext)
          · exact hall deed hdeed
        · next hnone =>
          cases h
          refine ⟨⟨deeds, hflow, hdeeds⟩, ⟨_, _, _, hlooked⟩, fun _ => ?_⟩
          rw [Simulation.toList_of_step?_eq_none hnone]
          exact fun _ he => absurd he List.not_mem_nil
        · cases h
      · next hdue =>
        cases h
        exact ⟨⟨deeds, hflow, hdeeds⟩, ⟨_, _, _, hlooked⟩,
          fun _ => Simulation.lt_due_of_hasDue (Bool.eq_false_iff.mpr hdue)⟩

end Watch

/-- What an application does with a simulation. -/
inductive Operation where
  | attach (addr : NodeAddr) (settings : Settings)
  | withFilter (filter : DropFilter)
  /-- It makes another node of a node, and asks for effects, at a time. -/
  | withNode (addr : NodeAddr) (act : Node → Duration → Node × List Effect)
  | step
  | runFor (span : Duration)
  | runUntil (span : Duration) (watch : Watch)

namespace Operation

/-- Does it, with at most `budget` events in each run. -/
def perform (budget : Nat) (sim : Simulation) : Operation → Except Interruption Simulation
  -- A node that cannot be attached changes nothing, nor does one that is missing.
  | attach addr settings => .ok ((sim.attach addr settings).toOption.getD sim)
  | withFilter filter => .ok (sim.withFilter filter)
  | withNode addr act =>
    match sim.node? addr with
    | some node => (sim.settle addr (act node sim.now).1 (act node sim.now).2).mapError .fault
    | none => .ok sim
  | step =>
    match sim.step? with
    | .ok after => .ok (after.getD sim)
    | .error fault => .error (.fault fault)
  | runFor span => sim.runFor budget span
  | runUntil span watch =>
    (watch.run (sim.now.addSat span) budget watch.start sim).map Prod.snd

/-- Does one after the other. -/
def performAll (budget : Nat) (sim : Simulation) (operations : List Operation) :
    Except Interruption Simulation :=
  operations.foldlM (perform budget) sim

/-- What is true after an operation that is told by deeds. -/
def Ends (budget : Nat) (sim : Simulation) (deeds : List Deed) (sim' : Simulation) :
    Operation → Prop
  | attach .. | withFilter .. => takenBy deeds = [] ∧ waitsBy deeds = [] ∧ sim'.now = sim.now
  | withNode addr act => takenBy deeds = [] ∧ sim'.now = sim.now ∧
      ∀ node, sim.node? addr = some node → deeds = [.acted sim.now addr (act node sim.now).2]
  -- The first event is taken, and a timer comes back to its node and no other.
  | step => takenBy deeds = sim.net.agenda.next?.toList ∧
      ∀ e, sim.net.agenda.next? = some e → sim'.now = e.due ∧
        (∀ addr, addr ≠ e.event.addr → sim'.node? addr = sim.node? addr) ∧
        ∀ addr timer, e.event = .timer addr timer →
          sim'.node? addr = (sim.node? addr).map fun node => (node.onTimer timer e.due).1
  | runFor span => sim'.now = sim.now.addSat span ∧
      (∀ e ∈ takenBy deeds, e.due ≤ sim'.now) ∧ ∀ e ∈ sim'.net.agenda.toList, sim'.now < e.due
  -- The answer is that of the last look, and what is left is not due.
  | runUntil span watch => ∀ outcome,
      watch.run (sim.now.addSat span) budget watch.start sim = .ok (outcome, sim') →
        (∃ mind before mind',
          watch.look mind before = .ok (decide (outcome = .reached), mind', sim')) ∧
        (outcome = .notReached → ∀ e ∈ sim'.net.agenda.toList, sim.now.addSat span < e.due)

variable {budget : Nat} {sim sim' : Simulation}

theorem exists_of_mapError_eq_ok {ε ε' α : Type} {f : ε → ε'} {x : Except ε α} {a : α}
    (h : x.mapError f = .ok a) : x = .ok a := by
  cases x with
  | error e => cases h
  | ok b =>
    cases h
    rfl

/-- Whatever is done is told by deeds, of which the operation leaves what it
    is to leave. -/
theorem ends_of_perform {op : Operation} (h : op.perform budget sim = .ok sim') :
    ∃ deeds, sim.Flow deeds sim' ∧ op.Ends budget sim deeds sim' := by
  cases op with
  | attach addr settings =>
    simp only [perform] at h
    cases hattach : sim.attach addr settings with
    | error e =>
      rw [hattach] at h
      cases h
      exact ⟨[], .nil, rfl, rfl, rfl⟩
    | ok sim₁ =>
      rw [hattach] at h
      cases h
      refine ⟨_, .one (.attached hattach), rfl, rfl, ?_⟩
      exact congrArg Network.now (Simulation.net_of_attach hattach)
  | withFilter filter =>
    cases h
    exact ⟨_, .one .filtered, rfl, rfl, rfl⟩
  | withNode addr act =>
    simp only [perform] at h
    split at h
    · next node hnode =>
      have hsettle := exists_of_mapError_eq_ok h
      obtain ⟨-, added, hgrows, -⟩ := Simulation.settle_spec hsettle
      refine ⟨_, .one (.acted hnode hsettle), rfl, hgrows.now, ?_⟩
      intro node' hnode'
      rw [hnode] at hnode'
      cases hnode'
      rfl
    · next hnone =>
      cases h
      refine ⟨[], .nil, rfl, rfl, ?_⟩
      intro node hnode
      rw [hnone] at hnode
      cases hnode
  | step =>
    simp only [perform] at h
    split at h
    · next after hstep =>
      cases h
      rcases after with _ | sim'
      · have hnext : sim.net.agenda.next? = none := by
          rw [Agenda.next?_eq, (Agenda.take?_eq_none_iff _).mpr
            (Simulation.toList_of_step?_eq_none hstep)]
          rfl
        refine ⟨[], .nil, ?_⟩
        simp only [Ends, hnext]
        exact ⟨rfl, nofun⟩
      · obtain ⟨e, effects, hnext, hdoes⟩ := Simulation.exists_took_of_step? hstep
        refine ⟨_, .one hdoes, ?_⟩
        simp only [Ends, hnext]
        refine ⟨rfl, ?_⟩
        intro e' he'
        cases he'
        exact hdoes.of_took
    · cases h
  | runFor span =>
    obtain ⟨⟨outcome, sim₁⟩, hrun, h⟩ := exists_of_map_eq_ok h
    cases h
    rw [← Watch.run_ofGoal _ _ _ ()] at hrun
    -- The looks do nothing, so that only events are told.
    obtain ⟨⟨deeds, hflow, hevents⟩, ⟨_, before, _, hlooked⟩, hend⟩ := Watch.run_spec
      (fun deed => ∃ e effects, deed = .took e effects ∧ e.due ≤ sim.now.addSat span)
      (fun hlook => by
        cases hlook
        exact ⟨[], .nil, nofun⟩)
      (fun hdue => ⟨_, _, rfl, hdue⟩) hrun
    have hidle : ∀ e ∈ sim₁.net.agenda.toList, sim.now.addSat span < e.due := by
      cases outcome with
      | reached => cases hlooked
      | notReached => exact hend rfl
    have hnow := hflow.now_le (Duration.le_addSat ..) hevents
    refine ⟨_, .snoc hflow (.waited hnow hidle), rfl, ?_, hidle⟩
    intro e he
    rw [takenBy_snoc, List.mem_append] at he
    rcases he with he | he
    · obtain ⟨deed, hdeed, hevent⟩ := List.mem_filterMap.mp he
      obtain ⟨e', effects, rfl, hdue⟩ := hevents deed hdeed
      cases hevent
      exact hdue
    · cases he
  | runUntil span watch =>
    obtain ⟨⟨outcome, sim₁⟩, hrun, h⟩ := exists_of_map_eq_ok h
    cases h
    obtain ⟨⟨deeds, hflow, -⟩, hend⟩ := Watch.run_spec (fun _ => True) (fun hlook => by
      obtain ⟨deeds, hflow⟩ := watch.operates hlook
      exact ⟨deeds, hflow, fun _ _ => trivial⟩) (fun _ => trivial) hrun
    refine ⟨deeds, hflow, ?_⟩
    intro outcome' hrun'
    rw [hrun] at hrun'
    cases hrun'
    exact hend

theorem exists_flow {operations : List Operation}
    (h : performAll budget sim operations = .ok sim') : ∃ deeds, sim.Flow deeds sim' := by
  induction operations generalizing sim with
  | nil =>
    cases h
    exact ⟨[], .nil⟩
  | cons op operations ih =>
    unfold performAll at h
    rw [List.foldlM_cons] at h
    obtain ⟨mid, hone, hrest⟩ := exists_of_bind_eq_ok h
    obtain ⟨deeds, hflow, -⟩ := ends_of_perform hone
    obtain ⟨deeds', hflow'⟩ := ih hrest
    exact ⟨deeds ++ deeds', hflow.append hflow'⟩

/-- Two nodes shake hands, and somebody waits for it. -/
def greeting : List Operation :=
  [.attach 1 { mss := 4, bufferSize := 8 }, .attach 2 { mss := 4, bufferSize := 8 },
    .withNode 2 fun node now => (node.serve now .socket).2,
    .withNode 2 fun node now => (node.serve now (.bind 1 80)).2,
    .withNode 2 fun node now => (node.serve now (.listen 1 1)).2,
    .withNode 1 fun node now => (node.serve now .socket).2,
    .withNode 1 fun node now => (node.serve now (.bind 1 90)).2,
    .withNode 1 fun node now => (node.serve now (.connect 1 2 80)).2,
    .runUntil (.ofSeconds 2) (.ofGoal fun sim => sim.state 1 1 = .established)]

theorem eq_ok_of_mem_toOption {ε α : Type} {x : Except ε α} {a : α} (h : a ∈ x.toOption) :
    x = .ok a := by
  cases x with
  | error e => cases h
  | ok b =>
    cases h
    rfl

theorem isSome_create : (Simulation.create {}).toOption.isSome = true := rfl

end Operation

end ReliableStream
