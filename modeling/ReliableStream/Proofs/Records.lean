import ReliableStream.Proofs.Sites
/-! # Who asked last

    Nothing in a packet tells the connections between the same two ports apart,
    but at any time at most one connection of the opening node is live on a
    line, that of the socket that **asked last** for it. All data that the
    opening node sends on a line is sent by that socket, and no letter was sent
    in the time of a socket that has not asked yet. -/

namespace ReliableStream.Exchange

variable {x : Exchange} {σ σ' : State} {side : Side} {now : Duration} {input : Input}
  {cause : Option Letter}

/-! ### Steps -/

/-- One step of an exchange: one site advances. -/
structure Steps (x : Exchange) (σ : State) (side : Side) (now : Duration) (input : Input)
    (cause : Option Letter) (σ' : State) : Prop where
  hears : σ.Hears x side input cause
  advance : Advance x side σ'.latest now input cause (σ.site side) (σ'.site side)
  other : σ'.site side.other = σ.site side.other
  latest : σ'.latest = σ.latestAfter side input
  settled : ∀ side', x.Settled side' (σ'.site side')
  change : ∃ effects, (σ.site side).node.Change now input (σ'.site side).node effects
  blank : ∀ id, (σ'.site side).node.Blank id → (σ.site side).node.Blank id

theorem steps_of_react {node : Node} {effects : List Effect}
    (h : ∀ side, x.Settled side (σ.site side)) (hhears : σ.Hears x side input cause)
    (hclash : ¬ (σ.site side).node.Clashes input)
    (hreact : (σ.site side).node.react now input = .ok (node, effects)) :
    Steps x σ side now input cause (σ.act x side now input cause) := by
  have hact : σ.act x side now input cause =
      { site := fun side' =>
          if side' = side then
            (σ.site side).after x side (σ.latestAfter side input) now input cause node effects
          else σ.site side'
        latest := σ.latestAfter side input } := by
    unfold State.act
    simp only [hreact]
  have hchange := Node.change_of_react hreact
  have hadvance : Advance x side (σ.latestAfter side input) now input cause (σ.site side)
      ((σ.site side).after x side (σ.latestAfter side input) now input cause node effects) :=
    advance_of_react h hhears hreact
  have hblank : ∀ id, node.Blank id → (σ.site side).node.Blank id :=
    fun id hid => hchange.blank hid
  rw [hact]
  refine ⟨hhears, ?_, if_neg side.other_ne, rfl, ?_, ⟨effects, ?_⟩, ?_⟩
  · simp only [if_true]
    exact hadvance
  · intro side'
    by_cases hside : side' = side
    · subst hside
      simp only [if_true]
      exact .advance h hhears hadvance ((h side').housed.change hchange hclash) hblank
    · simp only [if_neg hside]
      exact h side'
  · simp only [if_true]
    exact hchange
  · simp only [if_true]
    exact hblank

/-- Only a request of the opening node makes somebody the last to ask. -/
theorem State.latestAfter_of_none (h : (σ.site side).node.asks? input = none) :
    σ.latestAfter side input = σ.latest := by
  unfold latestAfter
  rw [h]
  cases side <;> rfl

theorem State.latestAfter_opening {id : SocketId} {identity line : Identity}
    (h : (σ.site .opening).node.asks? input = some (id, identity)) :
    σ.latestAfter .opening input line = if line = identity then some id else σ.latest line := by
  unfold latestAfter
  rw [h]

/-! ### Who asked last -/

/-- The live connection on a line is that of the socket that asked last, and
    the letters say truly in whose time they were sent. -/
structure Recorded (x : Exchange) (σ : State) : Prop where
  settled : ∀ side, x.Settled side (σ.site side)
  opens : (σ.site .opening).node.Opens
  live : ∀ id e, (σ.site .opening).endpoint? id = some e →
    e.connection.phase.isClosed = false → σ.latest e.connection.identity = some id
  spent : ∀ line id, σ.latest line = some id → ¬ (σ.site .opening).node.Blank id ∧
    ∀ e, (σ.site .opening).endpoint? id = some e → e.connection.identity = line
  eras : ∀ side, ∀ letter ∈ (σ.site side).sent, ∀ segment, letter.packet.segment? = some segment →
    segment.kind ≠ .fin → ∀ id, letter.era = some id → ¬ (σ.site .opening).node.Blank id
  data : ∀ letter ∈ (σ.site .opening).sent, ∀ segment, letter.packet.segment? = some segment →
    segment.kind = .data → letter.era = letter.sender

/-- An open connection is not closed. -/
theorem isClosed_of_isOpen {c : Connection} {r : Receiver} (h : c.phase.openReceiver? = some r) :
    c.phase.isClosed = false := by
  cases hphase : c.phase with
  | closed =>
    rw [hphase] at h
    cases h
  | _ => rfl

/-- A connection that lives on after a move lived before it. -/
theorem isClosed_of_follows {c c' : Connection} (h : c.Follows c')
    (hlive : c'.phase.isClosed = false) : c.phase.isClosed = false := by
  rw [← Bool.not_eq_true] at hlive ⊢
  exact fun hclosed => hlive (h.closed hclosed)

/-- Two live ends of a node have different identities. -/
theorem Settled.eq_of_identity {s : Site} {id id' : SocketId} {e e' : Session.Endpoint}
    (h : x.Settled side s) (he : s.endpoint? id = some e) (he' : s.endpoint? id' = some e')
    (hlive : e.connection.phase.isClosed = false) (hlive' : e'.connection.phase.isClosed = false)
    (hidentity : e'.connection.identity = e.connection.identity) : id' = id :=
  h.housed.tidy.wellRouted.unique id' id e.connection.identity
    (Node.held?_eq_some_iff.mpr ⟨_, (Site.endpoint?_eq_some_iff.mp he').1, hlive', hidentity⟩)
    (Node.held?_eq_some_iff.mpr ⟨_, (Site.endpoint?_eq_some_iff.mp he).1, hlive, rfl⟩)

/-- At the opening node a blank socket becomes an end by asking. -/
theorem asks?_of_entered {s : Site} {id : SocketId} {c : Connection} (hopens : s.node.Opens)
    (he : s.endpoint? id = some ⟨c, [], []⟩) {n : Node}
    (hkind : n.asks? input = some (id, c.identity) ∧ c.phase = .synSent ∨
      n.asks? input = none ∧ c.origin = .spawned) :
    n.asks? input = some (id, c.identity) ∧ c.phase = .synSent := by
  rcases hkind with hasked | ⟨-, hspawned⟩
  · exact hasked
  · have hopened := (hopens id _ (Site.endpoint?_eq_some_iff.mp he).1).2 c rfl
    rw [hopened] at hspawned
    cases hspawned

namespace Recorded

/-- Whoever holds a line live still asked last after a step. -/
theorem live_step (h : x.Recorded σ) (hsteps : Steps x σ .opening now input cause σ')
    (hopens : (σ'.site .opening).node.Opens) (id : SocketId) (e : Session.Endpoint)
    (he : (σ'.site .opening).endpoint? id = some e)
    (hlive : e.connection.phase.isClosed = false) :
    σ'.latest e.connection.identity = some id := by
  have hlatest := hsteps.latest
  cases hsteps.advance with
  | idle hasks hkept =>
    rw [State.latestAfter_of_none hasks] at hlatest
    rw [hlatest]
    exact h.live id e (hkept id e he) hlive
  | @entered acting c hblank hacts _ _ hnew _ hkind =>
    obtain ⟨hasks, -⟩ := asks?_of_entered hopens hacts.self hkind
    rw [hlatest, State.latestAfter_opening hasks]
    rcases hacts.endpoint_cases he with ⟨rfl, rfl⟩ | ⟨hid, hbefore⟩
    · exact if_pos rfl
    -- Another live end is on another line, as two live ends share no identity.
    · rw [if_neg]
      · exact h.live id e hbefore hlive
      · intro hsame
        exact hid ((hsteps.settled .opening).eq_of_identity hacts.self he hnew hlive hsame)
  | @moved acting e₀ _ c _ hasks _ hend _ hfollows hacts =>
    rw [State.latestAfter_of_none hasks] at hlatest
    rw [hlatest]
    rcases hacts.endpoint_cases he with ⟨rfl, rfl⟩ | ⟨-, hbefore⟩
    · show σ.latest c.identity = some id
      rw [hfollows.identity]
      exact h.live id e₀ hend (isClosed_of_follows hfollows hlive)
    · exact h.live id e hbefore hlive

/-- Who asked last for a line has asked for no other. -/
theorem spent_step (h : x.Recorded σ) (hsteps : Steps x σ .opening now input cause σ')
    (hopens : (σ'.site .opening).node.Opens) (line : Identity) (id : SocketId)
    (hline : σ'.latest line = some id) :
    ¬ (σ'.site .opening).node.Blank id ∧
      ∀ e, (σ'.site .opening).endpoint? id = some e → e.connection.identity = line := by
  have hlatest := hsteps.latest
  cases hsteps.advance with
  | idle hasks hkept =>
    rw [hlatest, State.latestAfter_of_none hasks] at hline
    obtain ⟨hspent, hidentity⟩ := h.spent line id hline
    exact ⟨fun hnow => hspent (hsteps.blank id hnow), fun e he => hidentity e (hkept id e he)⟩
  | @entered acting c hblank hacts _ _ hnew _ hkind =>
    obtain ⟨hasks, -⟩ := asks?_of_entered hopens hacts.self hkind
    rw [hlatest, State.latestAfter_opening hasks] at hline
    split at hline
    · next hsame =>
      cases hline
      refine ⟨hacts.not_blank (hsteps.settled .opening).housed, fun e he => ?_⟩
      rw [hacts.self] at he
      cases he
      exact hsame.symm
    · obtain ⟨hspent, hidentity⟩ := h.spent line id hline
      refine ⟨fun hnow => hspent (hsteps.blank id hnow), fun e he => ?_⟩
      refine hidentity e (hacts.others id e ?_ he)
      rintro rfl
      exact hspent hblank
  | @moved acting e₀ _ c _ hasks _ hend _ hfollows hacts =>
    rw [hlatest, State.latestAfter_of_none hasks] at hline
    obtain ⟨hspent, hidentity⟩ := h.spent line id hline
    refine ⟨fun hnow => hspent (hsteps.blank id hnow), fun e he => ?_⟩
    rcases hacts.endpoint_cases he with ⟨rfl, rfl⟩ | ⟨-, hbefore⟩
    · exact hfollows.identity.trans (hidentity e₀ hend)
    · exact hidentity e hbefore

end Recorded

/-- What a site has sent after an advance was sent before, or was posted by an
    end that acted, if it does not announce an end. -/
theorem Advance.sent {latest : Identity → Option SocketId} {s s' : Site}
    (h : Advance x side latest now input cause s s') {letter : Letter} {segment : Segment}
    (hletter : letter ∈ s'.sent) (hsegment : letter.packet.segment? = some segment)
    (hkind : segment.kind ≠ .fin) : letter ∈ s.sent ∨
      ∃ id e, s'.endpoint? id = some e ∧ Posted x side latest id e letter segment := by
  have hposted : ∀ {id e}, Acts x side latest s s' id e → letter ∈ s.sent ∨
      ∃ id e, s'.endpoint? id = some e ∧ Posted x side latest id e letter segment := by
    intro id e hacts
    rcases hacts.sent letter hletter with hold | ⟨segment', hposted⟩
    · exact Or.inl hold
    · obtain rfl := Option.some.inj (hposted.carried.symm.trans hsegment)
      exact Or.inr ⟨id, e, hacts.self, hposted⟩
  cases h with
  | idle _ _ _ _ _ hsent =>
    rcases hsent letter hletter with hold | ⟨-, hfin⟩
    · exact Or.inl hold
    · exact absurd (hfin segment hsegment) hkind
  | entered _ hacts => exact hposted hacts
  | moved _ _ _ _ _ hacts => exact hposted hacts

theorem Recorded.step (h : x.Recorded σ) (hsteps : Steps x σ side now input cause σ')
    (hopens : (σ'.site .opening).node.Opens) : x.Recorded σ' := by
  cases side with
  | opening =>
    have hspent := h.spent_step hsteps hopens
    have hlive := h.live_step hsteps hopens
    refine ⟨hsteps.settled, hopens, hlive, hspent, ?_, ?_⟩
    · intro side letter hletter segment hsegment hkind id hera hnow
      have hold : letter ∈ (σ.site side).sent → False := fun hold =>
        h.eras side letter hold segment hsegment hkind id hera (hsteps.blank id hnow)
      cases side with
      | answering =>
        have hother : σ'.site .answering = σ.site .answering := hsteps.other
        rw [hother] at hletter
        exact hold hletter
      | opening =>
        rcases hsteps.advance.sent hletter hsegment hkind with hbefore | ⟨actor, e, -, hposted⟩
        · exact hold hbefore
        · rw [hposted.era] at hera
          exact (hspent _ id hera).1 hnow
    · intro letter hletter segment hsegment hkind
      rcases hsteps.advance.sent hletter hsegment (by rw [hkind]; decide) with
        hold | ⟨actor, e, he, hposted⟩
      · exact h.data letter hold segment hsegment hkind
      -- Who posts data is live, so it is the one that asked last.
      · obtain ⟨r, hopen⟩ := hposted.isOpen (Or.inl hkind)
        rw [hposted.era, hposted.sender]
        exact hlive actor e he (isClosed_of_isOpen hopen)
  | answering =>
    have hother : σ'.site .opening = σ.site .opening := hsteps.other
    have hlatest : σ'.latest = σ.latest := hsteps.latest
    refine ⟨hsteps.settled, hopens, ?_, ?_, ?_, ?_⟩
    · rw [hother, hlatest]
      exact h.live
    · rw [hother, hlatest]
      exact h.spent
    · intro side letter hletter segment hsegment hkind id hera
      rw [hother]
      cases side with
      | opening =>
        rw [hother] at hletter
        exact h.eras .opening letter hletter segment hsegment hkind id hera
      | answering =>
        rcases hsteps.advance.sent hletter hsegment hkind with hold | ⟨actor, e, -, hposted⟩
        · exact h.eras .answering letter hold segment hsegment hkind id hera
        · rw [hposted.era, hlatest] at hera
          exact (h.spent _ id hera).1
    · rw [hother]
      exact h.data

end ReliableStream.Exchange
