import ReliableStream.Proofs.Records
/-! # Successive connections

    One node of an exchange opens connection after connection to the other, in
    part between the same two ports. All of them start from the same number,
    and nothing in a segment tells them apart, so a segment of an **earlier**
    connection that surfaces late can pass for one of a later.

    As long as no data and no answer to a request do so, the connections keep
    apart, whatever other segments surface when: what is delivered to a socket
    of the answering node was written on **one** socket of the opening node. A
    connection of the answering node may well outlive its peer and meet the
    next one. If it has taken nothing in, it serves the next one as a new
    connection would. If it has, its answers name a number that the next one
    does not accept, and that one is never established as long as it lives. -/

namespace ReliableStream.Exchange

open Sequence

variable {x : Exchange} {σ σ' : State} {side : Side} {now : Duration} {input : Input}
  {cause : Option Letter}

/-! ### Connections that cannot be answered -/

/-- The socket that asked last for a line cannot be answered: it waits, has
    sent no data, and no answer that it may get has the number it waits for. -/
structure Unanswered (x : Exchange) (σ : State) (line : Identity) (id : SocketId) : Prop where
  waits : ∀ e, (σ.site .opening).endpoint? id = some e → e.connection.phase.receiver? = none
  mute : ∀ letter ∈ (σ.site .opening).sent, letter.sender = some id →
    ∀ segment, letter.packet.segment? = some segment → segment.kind ≠ .data
  answers : ∀ letter ∈ (σ.site .answering).sent, ∀ segment,
    letter.packet.segment? = some segment → segment.kind = .ack → segment.payload ≠ [] →
    PortTable.identityOf segment letter.packet.src = line → letter.era = some id →
    letter.position ≠ 0

/-- An end that waits sends no data. -/
theorem Posted.kind_ne_data {latest : Identity → Option SocketId} {id : SocketId}
    {e : Session.Endpoint} {letter : Letter} {segment : Segment}
    (h : Posted x side latest id e letter segment)
    (hwaits : e.connection.phase.receiver? = none) : segment.kind ≠ .data := by
  intro hkind
  obtain ⟨r, hopen⟩ := h.isOpen (Or.inl hkind)
  rw [Phase.receiver?_of_openReceiver? hopen] at hwaits
  cases hwaits

/-- Nothing is known yet of a socket that has just asked. -/
theorem Recorded.unanswered_of_entered {id : SocketId} {c : Connection} (h : x.Recorded σ)
    (hsteps : Steps x σ .opening now input cause σ') (hblank : (σ.site .opening).node.Blank id)
    (hacts : Acts x .opening σ'.latest (σ.site .opening) (σ'.site .opening) id ⟨c, [], []⟩)
    (hphase : c.phase = .synSent) : Unanswered x σ' c.identity id where
  waits := by
    intro e he
    rw [hacts.self] at he
    cases he
    show c.phase.receiver? = none
    rw [hphase]
    rfl
  mute := by
    intro letter hletter hsender segment hsegment hkind
    rcases hacts.sent letter hletter with hold | ⟨segment', hposted⟩
    · obtain ⟨-, hfin | ⟨sender, hsender', hspent, -⟩⟩ :=
        (h.settled .opening).letters letter hold segment hsegment
      · rw [hkind] at hfin
        cases hfin
      · rw [hsender] at hsender'
        cases hsender'
        exact hspent hblank
    · obtain rfl := Option.some.inj (hposted.carried.symm.trans hsegment)
      refine hposted.kind_ne_data ?_ hkind
      show c.phase.receiver? = none
      rw [hphase]
      rfl
  answers := by
    have hother : σ'.site .answering = σ.site .answering := hsteps.other
    rw [hother]
    intro letter hletter segment hsegment hkind _ _ hera
    refine absurd hblank (h.eras .answering letter hletter segment hsegment ?_ id hera)
    rw [hkind]
    decide

/-- A socket that cannot be answered goes on waiting. -/
theorem Unanswered.waits_after {line : Identity} {id : SocketId} {e : Session.Endpoint}
    {ctx : Context} {stimulus : Stimulus} {c : Connection} {effects : List Effect}
    (h : Unanswered x σ line id) (hrecorded : x.Recorded σ) (hline : σ.latest line = some id)
    (hhears : σ.Hears x .opening input cause)
    (hreaches : (σ.site .opening).node.Reaches input id stimulus)
    (hbefore : (σ.site .opening).endpoint? id = some e)
    (hmoved : e.connection.Moved ctx stimulus c effects) : c.phase.receiver? = none := by
  rcases hmoved.waits_or_opened (h.waits e hbefore) with hwaits | hopened
  · exact hwaits
  -- The answer is timely, so it has another number.
  · obtain ⟨segment, peerIsn, rfl, hphase, hkind, hseq, hpayload⟩ := hopened
    obtain ⟨letter, -, hmeets⟩ :=
      meets_of_reaches (hrecorded.settled .opening) hhears hreaches hbefore
    obtain ⟨-, sender, -, -, hfits⟩ :=
      hmeets.fits (hrecorded.settled .answering) (by rw [hkind]; decide)
    have hcarrier : segment.payload ≠ [] := by
      intro hnil
      rw [hpayload] at hnil
      cases hnil
    have hidentity := hmeets.identity.trans ((hrecorded.spent line id hline).2 e hbefore)
    have hera := hmeets.timely.era (Or.inr ⟨hkind, hcarrier⟩)
    have hvalid := (hrecorded.settled .opening).valid id e hbefore
    have hnear := hmeets.inReach.ack hkind
    rw [hvalid.acked_of_asked hphase] at hnear
    have hsame : numberAt (x.session.isn .opening) letter.position =
        numberAt (x.session.isn .opening) 0 := by
      have hnumber := (hfits.ack hkind).1
      rw [hseq, hvalid.isn] at hnumber
      exact hnumber.symm
    refine absurd (hnear.eq_of_numberAt_eq hsame) ?_
    refine h.answers letter hmeets.mem segment hmeets.carried hkind hcarrier hidentity ?_
    rw [hera, hidentity]
    exact hline

theorem Unanswered.step_opening {line : Identity} {id : SocketId} (h : Unanswered x σ line id)
    (hrecorded : x.Recorded σ) (hsteps : Steps x σ .opening now input cause σ')
    (hline : σ.latest line = some id) : Unanswered x σ' line id := by
  have hspent := (hrecorded.spent line id hline).1
  have hwaits : ∀ e, (σ'.site .opening).endpoint? id = some e →
      e.connection.phase.receiver? = none := by
    intro e he
    cases hsteps.advance with
    | idle _ hkept => exact h.waits e (hkept id e he)
    | entered hblank hacts =>
      refine h.waits e (hacts.others id e ?_ he)
      rintro rfl
      exact hspent hblank
    | moved _ hreaches hend hmoved _ hacts =>
      rcases hacts.endpoint_cases he with ⟨rfl, rfl⟩ | ⟨-, hbefore⟩
      · exact h.waits_after hrecorded hline hsteps.hears hreaches hend hmoved
      · exact h.waits e hbefore
  refine ⟨hwaits, ?_, ?_⟩
  · intro letter hletter hsender segment hsegment hkind
    rcases hsteps.advance.sent hletter hsegment (by rw [hkind]; decide) with
      hold | ⟨actor, e, he, hposted⟩
    · exact h.mute letter hold hsender segment hsegment hkind
    · rw [hposted.sender] at hsender
      cases hsender
      exact hposted.kind_ne_data (hwaits e he) hkind
  · have hother : σ'.site .answering = σ.site .answering := hsteps.other
    rw [hother]
    exact h.answers

/-- The line and the node across make the identity. -/
theorem identity_of_line {i j : Identity} (hline : x.line .answering i = x.line .answering j)
    (hremote : i.remoteAddr = j.remoteAddr) : i = j := by
  obtain ⟨localPort, remoteAddr, remotePort⟩ := i
  obtain ⟨localPort', remoteAddr', remotePort'⟩ := j
  cases hremote
  cases hline
  rfl

/-- As long as a live end of the answering node holds the line and has taken
    something in, it gives all the answers, and none has the number that is
    waited for. -/
theorem Unanswered.step_answering {line : Identity} {id holder : SocketId} {e : Session.Endpoint}
    (h : Unanswered x σ line id) (hsteps : Steps x σ .answering now input cause σ')
    (he : (σ'.site .answering).endpoint? holder = some e)
    (hlive : e.connection.phase.isClosed = false)
    (hremote : e.connection.identity.remoteAddr = x.addr .opening)
    (hline : x.line .answering e.connection.identity = line) (hnonempty : e.accepted ≠ []) :
    Unanswered x σ' line id := by
  have hother : σ'.site .opening = σ.site .opening := hsteps.other
  refine ⟨?_, ?_, ?_⟩
  · rw [hother]
    exact h.waits
  · rw [hother]
    exact h.mute
  · intro letter hletter segment hsegment hkind hpayload hidentity hera
    rcases hsteps.advance.sent hletter hsegment (by rw [hkind]; decide) with
      hold | ⟨actor, e', he', hposted⟩
    · exact h.answers letter hold segment hsegment hkind hpayload hidentity hera
    -- Whoever answers on the line now is its holder, which has bytes already.
    · obtain ⟨r, hopen⟩ := hposted.isOpen (Or.inr hkind)
      have hsame : x.line .answering e'.connection.identity =
          x.line .answering e.connection.identity := by
        rw [← hposted.line, hline]
        exact hidentity
      have hactor := (hsteps.settled .answering).eq_of_identity he he' hlive
        (isClosed_of_isOpen hopen) (identity_of_line hsame (hposted.dest.trans hremote.symm))
      rw [hactor, he] at he'
      cases he'
      rw [hposted.position]
      unfold Session.Endpoint.positionOf
      rw [hkind]
      exact fun hzero => hnonempty (List.eq_nil_of_length_eq_zero hzero)

/-! ### Where the bytes come from -/

/-- What a live end of the answering node has taken in: nothing yet, bytes of
    the socket that asked last, or bytes of an earlier one, and then the one
    that asked last cannot be answered. -/
inductive Sourced (x : Exchange) (σ : State) (id : SocketId) (e : Session.Endpoint) : Prop where
  | nothing (hempty : e.accepted = []) (hsources : (σ.site .answering).sources id = [])
  | current {asker : SocketId} (hremote : e.connection.identity.remoteAddr = x.addr .opening)
      (hlatest : σ.latest (x.line .answering e.connection.identity) = some asker)
      (hnonempty : e.accepted ≠ []) (hwrote : e.accepted <+: (σ.site .opening).written asker)
      (hsources : ∀ letter ∈ (σ.site .answering).sources id, letter.sender = some asker)
  | outdated {asker : SocketId} (hremote : e.connection.identity.remoteAddr = x.addr .opening)
      (hlatest : σ.latest (x.line .answering e.connection.identity) = some asker)
      (hnonempty : e.accepted ≠ [])
      (hunanswered : Unanswered x σ (x.line .answering e.connection.identity) asker)

theorem Sourced.step_opening {id : SocketId} {e : Session.Endpoint} (h : x.Sourced σ id e)
    (hrecorded : x.Recorded σ) (hsteps : Steps x σ .opening now input cause σ')
    (hopens : (σ'.site .opening).node.Opens) : x.Sourced σ' id e := by
  have hother : σ'.site .answering = σ.site .answering := hsteps.other
  have hkeep : σ'.latest (x.line .answering e.connection.identity) =
      σ.latest (x.line .answering e.connection.identity) → x.Sourced σ' id e := by
    intro hsame
    cases h with
    | nothing hempty hsources => exact .nothing hempty (hother ▸ hsources)
    | current hremote hlatest hnonempty hwrote hsources =>
      refine .current hremote (hsame.trans hlatest) hnonempty (hwrote.trans ?_) (hother ▸ hsources)
      exact (hrecorded.settled .opening).written_grows hsteps.advance _
    | outdated hremote hlatest hnonempty hunanswered =>
      exact .outdated hremote (hsame.trans hlatest) hnonempty
        (hunanswered.step_opening hrecorded hsteps hlatest)
  have hlatest := hsteps.latest
  cases hsteps.advance with
  | idle hasks => exact hkeep (by rw [hlatest, State.latestAfter_of_none hasks])
  | moved hasks => exact hkeep (by rw [hlatest, State.latestAfter_of_none hasks])
  | @entered acting c hblank hacts _ _ _ _ hkind =>
    obtain ⟨hasks, hphase⟩ := asks?_of_entered hopens hacts.self hkind
    by_cases hline : x.line .answering e.connection.identity = c.identity
    · have hnow : σ'.latest (x.line .answering e.connection.identity) = some acting := by
        rw [hlatest, State.latestAfter_opening hasks, if_pos hline]
      have hunanswered := hrecorded.unanswered_of_entered hsteps hblank hacts hphase
      rw [← hline] at hunanswered
      -- The new request outdates what was taken in, if anything was.
      cases h with
      | nothing hempty hsources => exact .nothing hempty (hother ▸ hsources)
      | current hremote _ hnonempty => exact .outdated hremote hnow hnonempty hunanswered
      | outdated hremote _ hnonempty => exact .outdated hremote hnow hnonempty hunanswered
    · exact hkeep (by rw [hlatest, State.latestAfter_opening hasks, if_neg hline])

/-- A live end that has taken in nothing more is sourced as before. -/
theorem Sourced.step_answering {id : SocketId} {e e' : Session.Endpoint} (h : x.Sourced σ id e)
    (hsteps : Steps x σ .answering now input cause σ')
    (he' : (σ'.site .answering).endpoint? id = some e')
    (hlive : e'.connection.phase.isClosed = false)
    (hidentity : e'.connection.identity = e.connection.identity)
    (haccepted : e'.accepted = e.accepted)
    (hsources : (σ'.site .answering).sources id = (σ.site .answering).sources id) :
    x.Sourced σ' id e' := by
  have hother : σ'.site .opening = σ.site .opening := hsteps.other
  have hlatest : σ'.latest = σ.latest := hsteps.latest
  cases h with
  | nothing hempty hnone => exact .nothing (haccepted.trans hempty) (hsources.trans hnone)
  | current hremote hasker hnonempty hwrote hsame =>
    rw [← hidentity, ← hlatest] at hasker
    rw [← hidentity] at hremote
    rw [← haccepted] at hnonempty hwrote
    rw [← hother] at hwrote
    rw [← hsources] at hsame
    exact .current hremote hasker hnonempty hwrote hsame
  | outdated hremote hasker hnonempty hunanswered =>
    rw [← hidentity] at hremote hasker hunanswered
    rw [← haccepted] at hnonempty
    rw [← hlatest] at hasker
    exact .outdated hremote hasker hnonempty
      (hunanswered.step_answering hsteps he' hlive hremote rfl hnonempty)

/-- Whatever a live end of the answering node takes in was written on the
    socket that asked last, and so was all that it took in before. -/
theorem Sourced.accepted {id : SocketId} {e e' : Session.Endpoint} {letter : Letter}
    {segment : Segment} {writer : SocketId} (h : x.Sourced σ id e) (hrecorded : x.Recorded σ)
    (haccepted : x.Accepted σ .answering e e' letter segment writer) :
    e.connection.identity.remoteAddr = x.addr .opening ∧
      σ.latest (x.line .answering e.connection.identity) = some writer ∧
      e'.accepted <+: (σ.site .opening).written writer ∧
      ∀ source ∈ (σ.site .answering).sources id ++ [letter], source.sender = some writer := by
  have hmeets := haccepted.meets
  have hremote : e.connection.identity.remoteAddr = x.addr .opening := by
    rw [← hmeets.identity]
    exact haccepted.src
  have hera := hmeets.timely.era (Or.inl haccepted.kind)
  rw [hmeets.identity, hrecorded.data letter hmeets.mem segment hmeets.carried haccepted.kind,
    haccepted.sender] at hera
  -- The letter is timely, so its sender is the socket that asked last.
  have hpayload : segment.payload <+:
      ((σ.site .opening).written writer).drop e.accepted.length := haccepted.payload
  refine ⟨hremote, hera.symm, ?_, ?_⟩
  · rw [haccepted.accepted]
    cases h with
    | nothing hempty =>
      rw [hempty] at hpayload ⊢
      exact hpayload
    | current _ hlatest _ hwrote =>
      rw [hlatest] at hera
      cases hera
      obtain ⟨rest, hrest⟩ := hwrote
      rw [← hrest, List.drop_left] at hpayload
      rw [← hrest]
      exact (List.prefix_append_right_inj _).mpr hpayload
    | outdated _ hlatest _ hunanswered =>
      rw [hlatest] at hera
      cases hera
      exact absurd haccepted.kind
        (hunanswered.mute letter hmeets.mem haccepted.sender segment hmeets.carried)
  · intro source hsource
    rcases List.mem_append.mp hsource with hold | hnew
    · cases h with
      | nothing _ hnone =>
        rw [hnone] at hold
        cases hold
      | current _ hlatest _ _ hsources =>
        rw [hlatest] at hera
        cases hera
        exact hsources source hold
      | outdated _ hlatest _ hunanswered =>
        rw [hlatest] at hera
        cases hera
        exact absurd haccepted.kind
          (hunanswered.mute letter hmeets.mem haccepted.sender segment hmeets.carried)
    · rw [List.mem_singleton.mp hnew]
      exact haccepted.sender

/-! ### Connections keep apart -/

/-- What was delivered to a socket of the answering node is **attributed** to
    one socket of the opening node. -/
structure Attributed (x : Exchange) (σ : State) (id : SocketId) : Prop where
  sourced : ∀ e, (σ.site .answering).endpoint? id = some e →
    e.connection.phase.isClosed = false → x.Sourced σ id e
  single : ∃ writer,
    (σ.site .answering).delivered id <+: (σ.site .opening).written writer ∧
      ∀ letter ∈ (σ.site .answering).sources id, letter.sender = some writer

/-- The connections of an exchange are **separate**: what was delivered to a
    socket of the answering node comes from one socket of the opening node, and
    what was delivered to a socket of the opening node was sent in its time. -/
structure Separate (x : Exchange) (σ : State) : Prop where
  recorded : x.Recorded σ
  attributed : ∀ id, x.Attributed σ id
  timed : ∀ id, ∀ letter ∈ (σ.site .opening).sources id, letter.era = some id

namespace Attributed

variable {id : SocketId}

theorem step_opening (h : x.Attributed σ id) (hrecorded : x.Recorded σ)
    (hsteps : Steps x σ .opening now input cause σ') (hopens : (σ'.site .opening).node.Opens) :
    x.Attributed σ' id := by
  have hother : σ'.site .answering = σ.site .answering := hsteps.other
  obtain ⟨writer, hwrote, hsources⟩ := h.single
  refine ⟨?_, writer, ?_, ?_⟩
  · intro e he hlive
    rw [hother] at he
    exact (h.sourced e he hlive).step_opening hrecorded hsteps hopens
  · rw [hother]
    exact hwrote.trans ((hrecorded.settled .opening).written_grows hsteps.advance writer)
  · rw [hother]
    exact hsources

/-- A socket that stays as it is stays attributed. -/
theorem kept (h : x.Attributed σ id) (hsteps : Steps x σ .answering now input cause σ')
    (hkept : ∀ e, (σ'.site .answering).endpoint? id = some e →
      (σ.site .answering).endpoint? id = some e)
    (hread : (σ'.site .answering).read id = (σ.site .answering).read id)
    (hsources : (σ'.site .answering).sources id = (σ.site .answering).sources id) :
    x.Attributed σ' id where
  sourced e he hlive :=
    (h.sourced e (hkept e he) hlive).step_answering hsteps he hlive rfl rfl hsources
  single := by
    have hother : σ'.site .opening = σ.site .opening := hsteps.other
    obtain ⟨writer, hwrote, hsame⟩ := h.single
    rw [hother, hsources]
    exact ⟨writer, (delivered_of_kept hkept hread).trans hwrote, hsame⟩

/-- To a socket that has just become an end nothing was delivered. -/
theorem entered {e : Session.Endpoint} (hend : (σ.site .answering).endpoint? id = some e)
    (hempty : e.accepted = []) (hsources : (σ.site .answering).sources id = []) :
    x.Attributed σ id where
  sourced e' he' _ := by
    rw [hend] at he'
    cases he'
    exact .nothing hempty hsources
  single := by
    refine ⟨0, ?_, ?_⟩
    · rw [Site.delivered_of_endpoint? hend, hempty]
      exact List.nil_prefix
    · rw [hsources]
      exact fun _ hletter => absurd hletter List.not_mem_nil

/-- An end that moves keeps what it has, or takes in bytes of the only writer. -/
theorem moved {e : Session.Endpoint} {ctx : Context} {stimulus : Stimulus} {c : Connection}
    {effects : List Effect} (h : x.Attributed σ id) (hrecorded : x.Recorded σ)
    (hsteps : Steps x σ .answering now input cause σ')
    (hreaches : (σ.site .answering).node.Reaches input id stimulus)
    (hend : (σ.site .answering).endpoint? id = some e)
    (hmoved : e.connection.Moved ctx stimulus c effects) (hfollows : e.connection.Follows c)
    (hafter : (σ'.site .answering).endpoint? id = some (e.after ctx stimulus c))
    (hsources : (σ'.site .answering).sources id =
      if e.accepted.length < (e.after ctx stimulus c).accepted.length then
        (σ.site .answering).sources id ++ cause.toList
      else (σ.site .answering).sources id) : x.Attributed σ' id := by
  have hother : σ'.site .opening = σ.site .opening := hsteps.other
  have hlatest : σ'.latest = σ.latest := hsteps.latest
  rcases sources_cases hrecorded.settled hsteps.hears hreaches hend hmoved hsources with
    ⟨hsame, hsources⟩ | ⟨letter, segment, writer, hgrown, haccepted⟩
  · refine ⟨fun e' he' hlive => ?_, ?_⟩
    · rw [hafter] at he'
      cases he'
      exact (h.sourced e hend (isClosed_of_follows hfollows hlive)).step_answering hsteps hafter
        hlive hfollows.identity hsame hsources
    · obtain ⟨writer, hwrote, hsingle⟩ := h.single
      rw [Site.delivered_of_endpoint? hend, ← hsame, ← hother] at hwrote
      rw [Site.delivered_of_endpoint? hafter, hsources]
      exact ⟨writer, hwrote, hsingle⟩
  · obtain ⟨hremote, hasker, hwrote, hsingle⟩ :=
      (h.sourced e hend haccepted.meets.live).accepted hrecorded haccepted
    rw [← hfollows.identity] at hremote hasker
    rw [← hlatest] at hasker
    rw [← hother] at hwrote
    rw [← hgrown] at hsingle
    have hnonempty : (e.after ctx stimulus c).accepted ≠ [] := by
      rw [haccepted.accepted]
      exact List.append_ne_nil_of_right_ne_nil _ haccepted.nonempty
    refine ⟨fun e' he' _ => ?_, writer, ?_, hsingle⟩
    · rw [hafter] at he'
      cases he'
      exact .current hremote hasker hnonempty hwrote hsingle
    · rw [Site.delivered_of_endpoint? hafter]
      exact hwrote

theorem step_answering (h : x.Attributed σ id) (hrecorded : x.Recorded σ)
    (hsteps : Steps x σ .answering now input cause σ') : x.Attributed σ' id := by
  cases hsteps.advance with
  | idle _ hends _ hread hsources => exact h.kept hsteps (hends id) (hread id) (hsources id)
  | @entered acting _ hblank hacts _ hempty _ hsources =>
    by_cases hid : id = acting
    · subst hid
      refine entered hacts.self hempty ?_
      rw [hsources]
      exact ((hrecorded.settled .answering).blank id hblank).2.2
    · refine h.kept hsteps (fun e he => hacts.others id e hid he) ?_ (hacts.sources id hid)
      rw [hacts.read, if_neg (Ne.symm hid)]
  | @moved acting _ _ _ _ _ hreaches hend hmoved hfollows hacts hsources =>
    by_cases hid : id = acting
    · subst hid
      exact h.moved hrecorded hsteps hreaches hend hmoved hfollows hacts.self hsources
    · refine h.kept hsteps (fun e he => hacts.others id e hid he) ?_ (hacts.sources id hid)
      rw [hacts.read, if_neg (Ne.symm hid)]

end Attributed

namespace Separate

theorem timed_step (h : x.Separate σ) (hsteps : Steps x σ .opening now input cause σ')
    (id : SocketId) : ∀ letter ∈ (σ'.site .opening).sources id, letter.era = some id := by
  have hbefore := h.timed id
  cases hsteps.advance with
  | idle _ _ _ _ hsources =>
    rw [hsources]
    exact hbefore
  | @entered acting _ _ hacts _ _ _ hsources =>
    by_cases hid : id = acting
    · subst hid
      rw [hsources]
      exact hbefore
    · rw [hacts.sources id hid]
      exact hbefore
  | @moved acting e _ _ _ _ hreaches hend hmoved _ hacts hsources =>
    by_cases hid : id = acting
    · subst hid
      rcases sources_cases h.recorded.settled hsteps.hears hreaches hend hmoved hsources with
        ⟨-, hsame⟩ | ⟨arrived, segment, writer, hgrown, haccepted⟩
      · rw [hsame]
        exact hbefore
      · intro letter hletter
        rw [hgrown] at hletter
        rcases List.mem_append.mp hletter with hold | hnew
        · exact hbefore letter hold
        -- A live end of the opening node is that of the socket that asked last.
        · rw [List.mem_singleton.mp hnew, haccepted.meets.timely.era (Or.inl haccepted.kind),
            haccepted.meets.identity]
          exact h.recorded.live id e hend haccepted.meets.live
    · rw [hacts.sources id hid]
      exact hbefore

theorem step_opening (h : x.Separate σ) (hsteps : Steps x σ .opening now input cause σ')
    (hopens : (σ'.site .opening).node.Opens) : x.Separate σ' where
  recorded := h.recorded.step hsteps hopens
  attributed id := (h.attributed id).step_opening h.recorded hsteps hopens
  timed := h.timed_step hsteps

theorem step_answering (h : x.Separate σ) (hsteps : Steps x σ .answering now input cause σ') :
    x.Separate σ' := by
  have hother : σ'.site .opening = σ.site .opening := hsteps.other
  refine ⟨h.recorded.step hsteps ?_, fun id => (h.attributed id).step_answering h.recorded hsteps,
    ?_⟩
  · rw [hother]
    exact h.recorded.opens
  · rw [hother]
    exact h.timed

/-! ### Whole runs -/

theorem act (h : x.Separate σ) (hhears : σ.Hears x side input cause)
    (hclash : ¬ (σ.site side).node.Clashes input)
    (hlisten : side = .opening → ∀ id limit, input ≠ .call (.listen id limit)) :
    x.Separate (σ.act x side now input cause) := by
  cases hreact : (σ.site side).node.react now input with
  | error fault =>
    unfold State.act
    simp only [hreact]
    exact h
  | ok answer =>
    have hsteps := steps_of_react h.recorded.settled hhears hclash hreact
    cases side with
    | opening =>
      obtain ⟨effects, hchange⟩ := hsteps.change
      exact h.step_opening hsteps (h.recorded.opens.change hchange (hlisten rfl))
    | answering => exact h.step_answering hsteps

/-- **A regular event keeps the connections separate.** -/
theorem next {event : Event} (h : x.Separate σ) (hregular : x.Regular σ event) :
    x.Separate (σ.next x event) := by
  cases event with
  | call side now call =>
    have hhears : σ.Hears x side (.call call) none := fun _ _ hinput => nomatch hinput
    refine h.act hhears ?_ ?_
    · cases side with
      | opening => exact h.recorded.opens.not_clashes (h.recorded.settled .opening).housed.orderly _
      | answering => exact hregular
    · rintro rfl id limit heq
      cases heq
      exact hregular
  | timer side now timer =>
    have hhears : σ.Hears x side (.timer timer) none := fun _ _ hinput => nomatch hinput
    exact h.act hhears id fun _ _ _ hinput => nomatch hinput
  | arrival side now number =>
    simp only [State.next]
    cases hletter : (σ.site side.other).sent[number]? with
    | none => exact h
    | some letter =>
      have hhears : σ.Hears x side (.packet letter.packet) (some letter) := by
        rintro packet segment ⟨rfl⟩ hsegment
        exact ⟨letter, List.mem_of_getElem? hletter, rfl, rfl,
          hregular letter hletter segment hsegment⟩
      exact h.act hhears id fun _ _ _ hinput => nomatch hinput

theorem run {events : List Event} (h : x.Separate σ) (hregulated : x.Regulated σ events) :
    x.Separate (σ.run x events) := by
  -- Each event is regular in the state that the ones before it leave.
  induction events generalizing σ with
  | nil => exact h
  | cons event rest ih => exact ih (h.next hregulated.1) hregulated.2

end Separate

theorem separate_start (x : Exchange) : x.Separate x.start := by
  have hsocket : ∀ side id, (x.start.site side).node.socket? id = none := fun side id =>
    Node.socket?_of_create (x.created side) id
  have hend : ∀ side id e, (x.start.site side).endpoint? id ≠ some e := by
    intro side id e he
    have hconnection := (Site.endpoint?_eq_some_iff.mp he).1
    rw [hsocket] at hconnection
    cases hconnection
  refine ⟨⟨x.settled_start, ?_, ?_, nofun, ?_, nofun⟩, fun id => ⟨?_, 0, ?_, nofun⟩, nofun⟩
  · intro id s hs
    rw [hsocket] at hs
    cases hs
  · exact fun id e he => absurd he (hend _ id e)
  · exact fun _ _ hletter => absurd hletter List.not_mem_nil
  · exact fun e he => absurd he (hend _ id e)
  · unfold Site.delivered
    cases he : (x.start.site .answering).endpoint? id with
    | none => exact List.nil_prefix
    | some e => exact absurd he (hend _ id e)

/-- **Successive connections do not mix.** In a regulated run the bytes that
    were delivered to a socket of the answering node are the first bytes that
    were written on one socket of the opening node, and come from letters of
    that socket alone. All bytes that were delivered to a socket of the opening
    node come from letters that were sent in its time. -/
theorem streams_separate (x : Exchange) {events : List Event}
    (h : x.Regulated x.start events) (id : SocketId) :
    (∃ writer,
      ((x.start.run x events).site .answering).delivered id <+:
        ((x.start.run x events).site .opening).written writer ∧
      ∀ letter ∈ ((x.start.run x events).site .answering).sources id,
        letter.sender = some writer) ∧
    ∀ letter ∈ ((x.start.run x events).site .opening).sources id, letter.era = some id :=
  have hseparate := x.separate_start.run h
  ⟨(hseparate.attributed id).single, hseparate.timed id⟩

/-- Two nodes with small segments and buffers. -/
def small : Exchange where
  addr
    | .opening => 1
    | .answering => 2
  settings _ := { mss := 2, bufferSize := 8 }
  node
    | .opening => (Node.create 1 { mss := 2, bufferSize := 8 }).toOption.get rfl
    | .answering => (Node.create 2 { mss := 2, bufferSize := 8 }).toOption.get rfl
  created side := by cases side <;> rfl
  capacity_le side := by cases side <;> decide

/-- A socket sends two bytes and is released, and the next one asks on the same
    port. The connection of the first still has what was sent, and answers with
    a number that is lost on the way. Once its application has let go of it,
    the request is repeated, and a new connection takes two other bytes, though
    an old acknowledgment surfaces between them. -/
def reconnecting : List Event :=
  [.call .answering .zero .socket, .call .answering .zero (.bind 1 80),
    .call .answering .zero (.listen 1 5), .call .opening .zero .socket,
    .call .opening .zero (.bind 1 5000), .call .opening .zero (.connect 1 2 80),
    .arrival .answering .zero 0, .arrival .opening .zero 0,
    .call .opening .zero (.write 1 [10, 11]), .arrival .answering .zero 2,
    .call .answering .zero (.read 2 2), .call .opening .zero (.release 1),
    .call .opening .zero .socket, .call .opening .zero (.bind 2 5000),
    .call .opening .zero (.connect 2 2 80), .arrival .answering .zero 3,
    .call .answering .zero (.release 2), .timer .opening .zero ⟨2, .retransmitSyn 0⟩,
    .arrival .answering .zero 4, .arrival .answering .zero 1, .arrival .opening .zero 3,
    .call .opening .zero (.write 2 [20, 21]), .arrival .answering .zero 6]

theorem small_streams_separate :
    small.Regulated small.start reconnecting ∧
    ((small.start.run small reconnecting).site .answering).delivered 2 = [10, 11] ∧
    ((small.start.run small reconnecting).site .answering).delivered 3 = [20, 21] ∧
    ∃ writer, [20, 21] <+: ((small.start.run small reconnecting).site .opening).written writer := by
  have hregulated : small.Regulated small.start reconnecting :=
    ⟨id, id, id, trivial, trivial, trivial, by decide +kernel, by decide +kernel, trivial,
      by decide +kernel, id, trivial, trivial, trivial, trivial, by decide +kernel, id, trivial,
      by decide +kernel, by decide +kernel, by decide +kernel, trivial, by decide +kernel, trivial⟩
  have hdelivered : ((small.start.run small reconnecting).site .answering).delivered 3 =
      [20, 21] := by decide +kernel
  obtain ⟨⟨writer, hwrote, -⟩, -⟩ := small.streams_separate hregulated 3
  rw [hdelivered] at hwrote
  exact ⟨hregulated, by decide +kernel, hdelivered, writer, hwrote⟩

/-! ### Connections that mix -/

/-- An input writes nothing on a socket, unless it is a write on it. -/
theorem State.written_act {side' : Side} {id : SocketId}
    (hwrites : ∀ bytes, side' = side → input ≠ .call (.write id bytes)) :
    ((σ.act x side' now input cause).site side).written id = (σ.site side).written id := by
  unfold act
  cases (σ.site side').node.react now input with
  | error fault => rfl
  | ok answer =>
    by_cases hside : side = side'
    · subst hside
      simp only [if_true, Site.after, Site.moved]
      split
      · next hactor =>
        have htaken : (σ.site side).node.taken now input = [] := by
          unfold Node.taken
          split
          · next bytes =>
            cases hactor
            exact absurd rfl (hwrites bytes rfl)
          · rfl
        rw [htaken, List.append_nil]
      · rfl
    · simp only [if_neg hside]

/-- What is written on a socket stays as it is while nobody writes on it. -/
theorem State.written_run {events : List Event} {id : SocketId}
    (hwrites : ∀ now bytes, .call side now (.write id bytes) ∉ events) :
    ((σ.run x events).site side).written id = (σ.site side).written id := by
  induction events generalizing σ with
  | nil => rfl
  | cons event rest ih =>
    refine (ih fun now bytes hmem => hwrites now bytes (List.mem_cons_of_mem _ hmem)).trans ?_
    cases event with
    | call side' now call =>
      simp only [next]
      refine written_act fun bytes hside hinput => ?_
      cases hside
      cases hinput
      exact hwrites now bytes List.mem_cons_self
    | timer side' now timer =>
      simp only [next]
      exact written_act fun _ _ hinput => nomatch hinput
    | arrival side' now number =>
      simp only [next]
      split
      · exact written_act fun _ _ hinput => nomatch hinput
      · rfl

/-- The answer to a first socket is sent twice. The first socket sends two of
    four bytes and is released, and the next one asks on the same port. The
    second copy of the old answer opens it, and the four bytes that it writes
    meet the connection of the first. -/
def mixing : List Event :=
  [.call .answering .zero .socket, .call .answering .zero (.bind 1 80),
    .call .answering .zero (.listen 1 5), .call .opening .zero .socket,
    .call .opening .zero (.bind 1 5000), .call .opening .zero (.connect 1 2 80),
    .arrival .answering .zero 0, .timer .answering .zero ⟨2, .retransmitSynAck 1⟩,
    .arrival .opening .zero 0, .call .opening .zero (.write 1 [10, 11, 12, 13]),
    .call .opening .zero (.release 1), .call .opening .zero .socket,
    .call .opening .zero (.bind 2 5000), .call .opening .zero (.connect 2 2 80),
    .arrival .answering .zero 2, .arrival .opening .zero 1,
    .call .opening .zero (.write 2 [20, 21, 22, 23]), .arrival .answering .zero 5,
    .arrival .opening .zero 3, .arrival .answering .zero 6]

/-- If an answer of an earlier connection surfaces late, then the bytes of two
    sockets end up in one stream. -/
theorem small_streams_mix :
    ((small.start.run small mixing).site .answering).delivered 2 = [10, 11, 22, 23] ∧
    (((small.start.run small mixing).site .answering).sources 2).map Letter.sender =
      [some 1, some 2] ∧
    ¬ ∃ writer, ((small.start.run small mixing).site .answering).delivered 2 <+:
      ((small.start.run small mixing).site .opening).written writer := by
  have hdelivered : ((small.start.run small mixing).site .answering).delivered 2 =
      [10, 11, 22, 23] := by decide +kernel
  refine ⟨hdelivered, by decide +kernel, ?_⟩
  rw [hdelivered]
  rintro ⟨writer, hwrote⟩
  by_cases hfirst : writer = 1
  · subst hfirst
    revert hwrote
    decide +kernel
  by_cases hsecond : writer = 2
  · subst hsecond
    revert hwrote
    decide +kernel
  -- No other socket is ever written on.
  have hnone : ((small.start.run small mixing).site .opening).written writer = [] := by
    refine State.written_run fun now bytes hmem => ?_
    simp [mixing, hfirst, hsecond] at hmem
  rw [hnone] at hwrote
  cases List.eq_nil_of_prefix_nil hwrote

end ReliableStream.Exchange
