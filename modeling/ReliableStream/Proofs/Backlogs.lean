import ReliableStream.Proofs.LifeCycle
/-! # The queues of listeners

    A request that a listener takes in spawns a connection, whose handle waits
    in the queue of the listener until it is handed out. The handle is shared
    between two owners: the queue, and the node with its sockets. While it
    waits the connection may end, or be released by its handle; and the
    listener may be released with its queue.

    Handles are given out in increasing order, and a queue only grows at its
    end and loses from its front. So a queue is increasing, and a handle that
    has left it never comes back. Beside the node it is put on **record** which
    limit was given to each listener, and what was handed out. -/

namespace ReliableStream

namespace Table

variable {κ α : Type} [DecidableEq κ]

theorem putEntry_filter_putEntry {k k' : κ} (h : k ≠ k') (a b : α) (es : List (κ × α)) :
    putEntry k b ((putEntry k a es).filter (fun e => e.1 ≠ k')) =
      (putEntry k b es).filter (fun e => e.1 ≠ k') := by
  induction es with
  | nil => simp [putEntry, h]
  | cons e rest ih =>
    obtain ⟨j, c⟩ := e
    by_cases hj : j = k
    · subst hj
      simp [putEntry, h]
    · by_cases hj' : j = k'
      · subst hj'
        simpa [putEntry, hj] using ih
      · simpa [putEntry, hj, hj'] using ih

/-- Of two values of a key only the later one is left, whatever other key goes
    in between. -/
theorem put_erase_put (t : Table κ α) {k k' : κ} (h : k ≠ k') (a b : α) :
    ((t.put k a).erase k').put k b = (t.put k b).erase k' :=
  Table.ext (putEntry_filter_putEntry h a b t.entries)

/-- A value that is there already is put without effect. -/
theorem putEntry_self {k : κ} {a : α} {es : List (κ × α)} (h : lookup k es = some a) :
    putEntry k a es = es := by
  induction es with
  | nil => cases h
  | cons e rest ih =>
    obtain ⟨j, b⟩ := e
    by_cases hj : j = k
    · subst hj
      simp only [lookup, if_true, Option.some.injEq] at h
      simp [putEntry, h]
    · simp only [lookup, if_neg hj] at h
      simp [putEntry, hj, ih h]

theorem put_self {t : Table κ α} {k : κ} {a : α} (h : t.get? k = some a) : t.put k a = t :=
  Table.ext (putEntry_self h)

end Table

/-- A list is cut at the same place by tests that agree on it. -/
theorem takeWhile_dropWhile_congr {α : Type} {p q : α → Bool} {l : List α}
    (h : ∀ a ∈ l, p a = q a) : l.takeWhile p = l.takeWhile q ∧ l.dropWhile p = l.dropWhile q := by
  induction l with
  | nil => exact ⟨rfl, rfl⟩
  | cons a rest ih =>
    obtain ⟨htake, hdrop⟩ := ih fun b hb => h b (List.mem_cons_of_mem _ hb)
    simp [List.takeWhile_cons, List.dropWhile_cons, h a List.mem_cons_self, htake, hdrop]

namespace Node

variable {n n' : Node} {now : Duration} {input : Input} {effects : List Effect}
  {id id' child : SocketId} {port : UInt16} {limit : Nat} {backlog rest ended : List SocketId}
  {answer answer' : Option SocketId}

/-! ### Handing out a connection -/

/-- The loop of an accept. The front of the queue is taken off. If its socket
    is closed or gone it is removed, and the loop goes on. -/
inductive Polls (id : SocketId) : Node → Option SocketId → Node → Prop where
  | deaf {n : Node}
      (hother : ∀ port limit backlog, n.socket? id ≠ some (.listener port limit backlog)) :
      Polls id n none n
  | empty {n : Node} {port : UInt16} {limit : Nat}
      (hsocket : n.socket? id = some (.listener port limit [])) : Polls id n none n
  | hands {n : Node} {port : UInt16} {limit : Nat} {child : SocketId} {rest : List SocketId}
      (hsocket : n.socket? id = some (.listener port limit (child :: rest)))
      (hlive : (n.withSocket id (.listener port limit rest)).isClosed child = false) :
      Polls id n (some child) (n.withSocket id (.listener port limit rest))
  | skips {n n' : Node} {port : UInt16} {limit : Nat} {child : SocketId} {rest : List SocketId}
      {answer : Option SocketId}
      (hsocket : n.socket? id = some (.listener port limit (child :: rest)))
      (hclosed : (n.withSocket id (.listener port limit rest)).isClosed child = true)
      (hrest : Polls id ((n.withSocket id (.listener port limit rest)).discard [child]) answer n') :
      Polls id n answer n'

/-- The loop goes one way only. -/
theorem Polls.unique {n'' : Node} (h : Polls id n answer n') (h' : Polls id n answer' n'') :
    answer' = answer ∧ n'' = n' := by
  induction h with
  | deaf hother =>
    cases h' with
    | deaf => exact ⟨rfl, rfl⟩
    | empty hsocket => exact absurd hsocket (hother _ _ _)
    | hands hsocket => exact absurd hsocket (hother _ _ _)
    | skips hsocket => exact absurd hsocket (hother _ _ _)
  | empty hsocket =>
    cases h' with
    | deaf hother => exact absurd hsocket (hother _ _ _)
    | empty => exact ⟨rfl, rfl⟩
    | hands hsocket' => cases hsocket.symm.trans hsocket'
    | skips hsocket' => cases hsocket.symm.trans hsocket'
  | hands hsocket hlive =>
    cases h' with
    | deaf hother => exact absurd hsocket (hother _ _ _)
    | empty hsocket' => cases hsocket.symm.trans hsocket'
    | hands hsocket' =>
      cases hsocket.symm.trans hsocket'
      exact ⟨rfl, rfl⟩
    | skips hsocket' hclosed =>
      cases hsocket.symm.trans hsocket'
      cases hlive.symm.trans hclosed
  | skips hsocket hclosed _ ih =>
    cases h' with
    | deaf hother => exact absurd hsocket (hother _ _ _)
    | empty hsocket' => cases hsocket.symm.trans hsocket'
    | hands hsocket' hlive =>
      cases hsocket.symm.trans hsocket'
      cases hlive.symm.trans hclosed
    | skips hsocket' _ hrest =>
      cases hsocket.symm.trans hsocket'
      exact ih hrest

theorem accept_of_listener (hsocket : n.socket? id = some (.listener port limit backlog)) :
    n.accept id = ((backlog.dropWhile n.isClosed).head?,
      (n.withSocket id (.listener port limit (backlog.dropWhile n.isClosed).tail)).discard
        (backlog.takeWhile n.isClosed)) := by
  unfold accept
  rw [hsocket]
  simp only
  cases backlog.dropWhile n.isClosed with
  | nil => rfl
  | cons child rest => rfl

theorem accept_of_not_listener
    (hother : ∀ port limit backlog, n.socket? id ≠ some (.listener port limit backlog)) :
    n.accept id = (none, n) := by
  unfold accept
  split
  · next hsocket => exact absurd hsocket (hother _ _ _)
  · rfl

theorem isClosed_congr (h : n'.socket? child = n.socket? child) :
    n'.isClosed child = n.isClosed child := by
  unfold isClosed state
  rw [h]

theorem discard_nil (n : Node) : n.discard [] = n := rfl

/-- While the front of the queue is removed, only the last queue counts. -/
theorem discard_withSocket (n : Node) (h : id ≠ child) (s s' : Socket) :
    ((n.withSocket id s).discard [child]).withSocket id s' =
      (n.withSocket id s').discard [child] := by
  unfold discard withSocket
  simp only [List.foldl_cons, List.foldl_nil, Node.mk.injEq, true_and, and_true]
  exact Table.put_erase_put n.sockets h s s'

/-- The loop ends, and comes to what the call returns. The handles of the
    queue have to be different, and none is the listener. -/
theorem polls_accept (hsocket : n.socket? id = some (.listener port limit backlog))
    (hnodup : backlog.Nodup) (hid : id ∉ backlog) :
    Polls id n (n.accept id).1 (n.accept id).2 := by
  induction backlog generalizing n with
  | nil =>
    have hsame : n.withSocket id (.listener port limit []) = n := by
      unfold withSocket
      rw [Table.put_self hsocket]
    rw [accept_of_listener hsocket]
    simp only [List.dropWhile_nil, List.takeWhile_nil, List.head?_nil, List.tail_nil, discard_nil,
      hsame]
    exact .empty hsocket
  | cons child rest ih =>
    obtain ⟨hchild, hnodup⟩ := List.nodup_cons.mp hnodup
    rw [List.mem_cons, not_or] at hid
    have hput : (n.withSocket id (.listener port limit rest)).isClosed child = n.isClosed child :=
      isClosed_congr ((socket?_withSocket n id child _).trans (if_neg hid.1))
    rw [accept_of_listener hsocket]
    cases hclosed : n.isClosed child with
    | false =>
      simp only [List.dropWhile_cons, List.takeWhile_cons, hclosed]
      exact .hands hsocket (hput.trans hclosed)
    | true =>
      simp only [List.dropWhile_cons, List.takeWhile_cons, hclosed, if_true]
      apply Polls.skips hsocket (hput.trans hclosed)
      -- What is left of the queue finds the other sockets as they were.
      have hleft : ((n.withSocket id (.listener port limit rest)).discard [child]).socket? id =
          some (.listener port limit rest) := by
        rw [socket?_discard, if_neg (mt List.mem_singleton.mp hid.1), socket?_withSocket,
          if_pos rfl]
      have hothers : ∀ other ∈ rest,
          ((n.withSocket id (.listener port limit rest)).discard [child]).isClosed other =
            n.isClosed other := by
        intro other hother
        have hne : other ≠ child := fun heq => hchild (heq ▸ hother)
        have hne' : id ≠ other := fun heq => hid.2 (heq ▸ hother)
        apply isClosed_congr
        rw [socket?_discard, if_neg (mt List.mem_singleton.mp hne), socket?_withSocket,
          if_neg hne']
      obtain ⟨htake, hdrop⟩ := takeWhile_dropWhile_congr hothers
      have hpolls := ih hleft hnodup hid.2
      rw [accept_of_listener hleft, htake, hdrop, discard_withSocket n hid.1] at hpolls
      exact hpolls

/-- What the call does to a listener and its queue. -/
structure Accepts (n : Node) (id : SocketId) (port : UInt16) (limit : Nat)
    (backlog : List SocketId) (answer : Option SocketId) (n' : Node) : Prop where
  /-- The queue begins with sockets that are closed or gone. The first one that
      is not is the answer; if there is none, nothing else is left. -/
  split : ∃ ended rest, backlog = ended ++ answer.toList ++ rest ∧ (answer = none → rest = []) ∧
    (∀ child ∈ ended, n.state child = .closed) ∧
    (∀ child, answer = some child → (n.socket? child).isSome ∧ n.state child ≠ .closed) ∧
    -- Exactly those before it are removed, and the queue goes on behind it.
    ∀ id', n'.socket? id' = if id' ∈ ended then none else
      if id = id' then some (.listener port limit rest) else n.socket? id'
  /-- The port table knew of nobody who was removed. -/
  others : n'.ports = n.ports ∧ n'.nextId = n.nextId ∧ n'.addr = n.addr ∧ n'.profile = n.profile

theorem state_of_isClosed_false (h : n.isClosed child = false) :
    (n.socket? child).isSome ∧ n.state child ≠ .closed := by
  have hstate : n.state child ≠ .closed := by
    intro hclosed
    unfold isClosed at h
    rw [hclosed] at h
    cases h
  refine ⟨?_, hstate⟩
  cases hsocket : n.socket? child with
  | some s => rfl
  | none =>
    unfold state at hstate
    rw [hsocket] at hstate
    exact absurd rfl hstate

theorem accepts_of_listener (hsocket : n.socket? id = some (.listener port limit backlog)) :
    n.Accepts id port limit backlog (n.accept id).1 (n.accept id).2 := by
  rw [accept_of_listener hsocket]
  refine ⟨⟨backlog.takeWhile n.isClosed, (backlog.dropWhile n.isClosed).tail, ?_, ?_, ?_, ?_, ?_⟩,
    rfl, rfl, rfl, rfl⟩
  · have hcut := List.takeWhile_append_dropWhile (p := n.isClosed) (l := backlog)
    cases hdrop : backlog.dropWhile n.isClosed with
    | nil =>
      rw [hdrop] at hcut
      simpa using hcut.symm
    | cons child rest =>
      rw [hdrop] at hcut
      simpa using hcut.symm
  · intro hnone
    rw [List.head?_eq_none_iff.mp hnone]
    rfl
  · intro child hchild
    have hclosed : n.isClosed child = true := List.all_eq_true.mp List.all_takeWhile child hchild
    exact beq_iff_eq.mp hclosed
  · intro child hchild
    have hlive := List.head?_dropWhile_not n.isClosed backlog
    replace hchild : (backlog.dropWhile n.isClosed).head? = some child := hchild
    rw [hchild] at hlive
    exact state_of_isClosed_false hlive
  · intro id'
    rw [socket?_discard, socket?_withSocket]

/-! ### Queues -/

/-- The limit and the queue of a listener. -/
def queue? (n : Node) (id : SocketId) : Option (Nat × List SocketId) :=
  match n.socket? id with
  | some (.listener _ limit backlog) => some (limit, backlog)
  | _ => none

theorem queue?_of_listener (hsocket : n.socket? id = some (.listener port limit backlog)) :
    n.queue? id = some (limit, backlog) := by
  unfold queue?
  rw [hsocket]

theorem queue?_eq_some_iff : n.queue? id = some (limit, backlog) ↔
    ∃ port, n.socket? id = some (.listener port limit backlog) := by
  constructor
  · intro h
    unfold queue? at h
    split at h
    · next port limit' backlog' hsocket =>
      cases h
      exact ⟨port, hsocket⟩
    · cases h
  · rintro ⟨port, hsocket⟩
    exact queue?_of_listener hsocket

theorem queue?_congr (h : n'.socket? id = n.socket? id) : n'.queue? id = n.queue? id := by
  unfold queue?
  rw [h]

/-- A socket that is put in place of another has the queue that it brings. -/
theorem queue?_of_put {s : Socket} {q : Nat × List SocketId}
    (hsockets : n'.socket? id' = if id = id' then some s else n.socket? id')
    (hother : ∀ port limit backlog, s ≠ .listener port limit backlog)
    (h : n'.queue? id' = some q) : n.queue? id' = some q := by
  obtain ⟨limit, backlog⟩ := q
  obtain ⟨port, hsocket⟩ := queue?_eq_some_iff.mp h
  rw [hsockets] at hsocket
  split at hsocket
  · exact absurd (Option.some.inj hsocket) (hother port limit backlog)
  · exact queue?_of_listener hsocket

/-- What a change does to the queues, if it is no call that sets one up or
    takes from one. -/
inductive Requeues (n n' : Node) : Prop where
  /-- Queues go with their listeners, and that is all. -/
  | loses (hkept : ∀ id q, n'.queue? id = some q → n.queue? id = some q)
  /-- A new handle is put at the end of a queue that has room. -/
  | joins {id : SocketId} {limit : Nat} {backlog : List SocketId}
      (hnext : n.nextId < n'.nextId) (hbefore : n.queue? id = some (limit, backlog))
      (hroom : backlog.length < limit)
      (hself : n'.queue? id = some (limit, backlog ++ [n.nextId]))
      (hkept : ∀ id' q, id' ≠ id → n'.queue? id' = some q → n.queue? id' = some q)

theorem Change.requeues (h : n.Change now input n' effects) (hnumbered : n.Numbered)
    (hlisten : ∀ id limit, input ≠ .call (.listen id limit))
    (haccept : ∀ id, input ≠ .call (.accept id)) : n.Requeues n' := by
  have hfresh : ∀ {own}, ∀ port limit backlog, Socket.fresh own ≠ .listener port limit backlog :=
    fun _ _ _ heq => by cases heq
  have hconnection : ∀ {c}, ∀ port limit backlog,
      Socket.connection c ≠ .listener port limit backlog := fun _ _ _ heq => by cases heq
  cases h with
  | unmoved => exact .loses fun _ _ hq => hq
  | reset => exact .loses fun _ _ hq => hq
  | created =>
    exact .loses fun id _ hq => queue?_of_put (socket?_withSocket n n.nextId id _) hfresh hq
  | bound => exact .loses fun id _ hq => queue?_of_put (socket?_withSocket n _ id _) hfresh hq
  | listening => exact absurd rfl (hlisten _ _)
  | connecting =>
    exact .loses fun id _ hq => queue?_of_put (socket?_withSocket n _ id _) hconnection hq
  | accepted => exact absurd rfl (haccept _)
  | released =>
    refine .loses fun id q hq => ?_
    obtain ⟨port, hsocket⟩ := queue?_eq_some_iff.mp hq
    exact queue?_of_listener (socket?_of_release hsocket).1
  | @spawned packet s id port limit backlog c _ _ _ hsocket hroom =>
    have hold : n.nextId ≠ id := Nat.ne_of_gt (hnumbered id _ hsocket)
    have hsockets : ∀ id',
        ((n.withSocket id (.listener port limit (backlog ++ [n.nextId]))).withSocket n.nextId
          (.connection c)).socket? id' = if n.nextId = id' then some (.connection c) else
            if id = id' then some (.listener port limit (backlog ++ [n.nextId]))
            else n.socket? id' := by
      intro id'
      rw [socket?_withSocket, socket?_withSocket]
    have hself := (hsockets id).trans (if_neg hold)
    rw [if_pos rfl] at hself
    refine .joins (Nat.lt_succ_self _) (queue?_of_listener hsocket) hroom
      (queue?_of_listener hself) fun id' q hne hq => ?_
    · obtain ⟨limit', backlog'⟩ := q
      obtain ⟨port', hs⟩ := queue?_eq_some_iff.mp hq
      replace hs := (hsockets id').symm.trans hs
      rw [if_neg (Ne.symm hne)] at hs
      split at hs
      · cases hs
      · exact queue?_of_listener hs
  | moved => exact .loses fun id _ hq => queue?_of_put (socket?_settle n _ id _ _) hconnection hq

/-! ### Spawned connections are never asked for -/

/-- A spawned connection is past the handshake of the one that asks. -/
def Greeted (n : Node) : Prop :=
  ∀ id c, n.socket? id = some (.connection c) → c.origin = .spawned → c.phase.state ≠ .synSent

theorem Greeted.change (h : n.Greeted) (hchange : n.Change now input n' effects) : n'.Greeted := by
  intro id c hc horigin hstate
  cases hchange.became hc with
  | kept hsocket => exact h id c hsocket horigin hstate
  | opened _ hopened =>
    obtain ⟨⟨stats, rfl⟩, -, -⟩ := Connection.eq_of_request hopened
    cases horigin
  | spawned _ _ hopened =>
    obtain ⟨⟨stats, rfl⟩, -, -⟩ := Connection.eq_of_answer hopened
    cases hstate
  | @moved _ c₀ _ _ hsocket hrespond =>
    have hfollows := Connection.follows_of_respond hrespond
    rcases (Connection.responds_of_respond hrespond).passes.1 with hsame | hpasses
    · exact h id c₀ hsocket (hfollows.origin ▸ horigin) (hsame.symm.trans hstate)
    · -- Only a closed socket asks, and a closed connection stays closed.
      rw [hstate] at hpasses
      cases hbefore : c₀.phase.state with
      | closed =>
        have hclosed := hfollows.closed (Phase.isClosed_eq_true_iff.mpr hbefore)
        rw [Phase.isClosed_eq_true_iff, hstate] at hclosed
        cases hclosed
      | _ =>
        rw [hbefore] at hpasses
        cases hpasses

/-- A spawned connection that is not closed can be handed out. -/
theorem Greeted.state_of_spawned (h : n.Greeted) (hspawned : n.Spawned child)
    (hlive : n.state child ≠ .closed) :
    n.state child = .established ∨ n.state child = .shutdown := by
  unfold state at hlive ⊢
  cases hsocket : n.socket? child with
  | none =>
    rw [hsocket] at hlive
    exact absurd rfl hlive
  | some s =>
    obtain ⟨c, rfl, horigin⟩ := hspawned s hsocket
    have hgreeted := h child c hsocket horigin
    rw [hsocket] at hlive
    show c.phase.state = .established ∨ c.phase.state = .shutdown
    replace hlive : c.phase.state ≠ .closed := hlive
    cases hphase : c.phase with
    | synSent =>
      rw [hphase] at hgreeted
      exact absurd rfl hgreeted
    | established => exact Or.inl rfl
    | shutdown => exact Or.inr rfl
    | closed =>
      rw [hphase] at hlive
      exact absurd rfl hlive

/-! ### What the application is told -/

/-- The limit that a call gives to a listener, if it succeeds. -/
def listened? (n : Node) (now : Duration) (id : SocketId) : Input → Option Nat
  | .call (.listen id' limit) =>
    if id' = id ∧ (n.serve now (.listen id' limit)).1 = .done then some limit else none
  | _ => none

/-- The connection that a call hands out. -/
def handsOut? (n : Node) (now : Duration) : Input → Option SocketId
  | .call (.accept id) =>
    match (n.serve now (.accept id)).1 with
    | .accepted child => child
    | _ => none
  | _ => none

end Node

/-! ### The record of the queues -/

/-- A node with what is on record of its queues. -/
structure Reception where
  node : Node
  /-- The limit that each listener was given. -/
  limit? : SocketId → Option Nat := fun _ => none
  /-- What was handed out, in order, and in which state it was then. -/
  handed : List (SocketId × SocketState) := []

namespace Reception

variable {addr : NodeAddr} {settings : Settings} {ρ : Reception} {n' : Node} {now : Duration}
  {input : Input} {effects : List Effect} {id : SocketId}

/-- What the node answered is put on record. -/
def after (ρ : Reception) (now : Duration) (input : Input) (n' : Node) : Reception where
  node := n'
  limit? id := (ρ.node.listened? now id input).or (ρ.limit? id)
  handed := ρ.handed ++
    ((ρ.node.handsOut? now input).map fun child => (child, n'.state child)).toList

/-- A step of the node is entered. -/
def enter (ρ : Reception) (step : Node.Step) : Reception :=
  ρ.after step.input.1 step.input.2 step.answer.1

/-- The record after a run, if no input faults. -/
def run (ρ : Reception) (inputs : List (Duration × Input)) : Option Reception :=
  Node.observed node enter ρ inputs

/-- The discipline of queues. -/
structure Disciplined (ρ : Reception) : Prop where
  /-- A queue is no longer than the limit that its listener was given. -/
  limited : ∀ id limit backlog, ρ.node.queue? id = some (limit, backlog) →
    ρ.limit? id = some limit ∧ backlog.length ≤ limit
  /-- Handles wait in the order in which they were given out. -/
  increasing : ∀ id limit backlog, ρ.node.queue? id = some (limit, backlog) →
    backlog.Pairwise (· < ·) ∧ ∀ child ∈ backlog, child < ρ.node.nextId
  /-- No handle waits in two queues. -/
  apart : ∀ id id' q q', ρ.node.queue? id = some q → ρ.node.queue? id' = some q' →
    ∀ child ∈ q.2, child ∈ q'.2 → id = id'
  /-- No handle waits once it was handed out. -/
  unhanded : ∀ id q, ρ.node.queue? id = some q → ∀ child ∈ q.2, child ∉ ρ.handed.map Prod.fst
  /-- No handle is handed out twice. -/
  once : (ρ.handed.map Prod.fst).Nodup
  /-- Whatever is handed out is established or shutting down. -/
  live : ∀ entry ∈ ρ.handed, entry.2 = .established ∨ entry.2 = .shutdown

/-- The discipline, and what it rests on. -/
structure Kept (ρ : Reception) : Prop where
  orderly : ρ.node.Orderly
  greeted : ρ.node.Greeted
  handedOut : ∀ child ∈ ρ.handed.map Prod.fst, child < ρ.node.nextId
  disciplined : ρ.Disciplined

/-- What has to be shown of a step that gives one listener another queue, and
    hands out nothing: the queue is as it should be, and what waits in it waits
    in no other. -/
theorem Disciplined.requeue {σ : Reception} {limit : Nat} {backlog : List SocketId}
    (h : ρ.Disciplined) (hnext : ρ.node.nextId ≤ σ.node.nextId)
    (hlimit : ∀ id', id' ≠ id → ρ.limit? id' ≠ none → σ.limit? id' = ρ.limit? id')
    (hqueues : ∀ id' q, σ.node.queue? id' = some q →
      id' = id ∧ q = (limit, backlog) ∨ id' ≠ id ∧ ρ.node.queue? id' = some q)
    (hself : σ.limit? id = some limit) (hroom : backlog.length ≤ limit)
    (hincreasing : backlog.Pairwise (· < ·) ∧ ∀ child ∈ backlog, child < σ.node.nextId)
    (hapart : ∀ id' q, id' ≠ id → ρ.node.queue? id' = some q → ∀ child ∈ backlog, child ∉ q.2)
    (hunhanded : ∀ child ∈ backlog, child ∉ σ.handed.map Prod.fst)
    (hothers : ∀ id' q, id' ≠ id → ρ.node.queue? id' = some q →
      ∀ child ∈ q.2, child ∉ σ.handed.map Prod.fst)
    (honce : (σ.handed.map Prod.fst).Nodup)
    (hlive : ∀ entry ∈ σ.handed, entry.2 = .established ∨ entry.2 = .shutdown) :
    σ.Disciplined := by
  refine ⟨fun id' limit' backlog' hq => ?_, fun id' limit' backlog' hq => ?_,
    fun id₁ id₂ q₁ q₂ h₁ h₂ child hchild hchild' => ?_, fun id' q hq => ?_, honce, hlive⟩
  · rcases hqueues id' _ hq with ⟨rfl, heq⟩ | ⟨hne, hbefore⟩
    · cases heq
      exact ⟨hself, hroom⟩
    · obtain ⟨hsame, hlength⟩ := h.limited id' _ _ hbefore
      refine ⟨(hlimit id' hne ?_).trans hsame, hlength⟩
      rw [hsame]
      exact Option.some_ne_none _
  · rcases hqueues id' _ hq with ⟨-, heq⟩ | ⟨-, hbefore⟩
    · cases heq
      exact hincreasing
    · obtain ⟨hsorted, hlt⟩ := h.increasing id' _ _ hbefore
      exact ⟨hsorted, fun child hchild => Nat.lt_of_lt_of_le (hlt child hchild) hnext⟩
  · rcases hqueues id₁ _ h₁ with ⟨hid₁, heq₁⟩ | ⟨hne₁, hbefore₁⟩
    · rcases hqueues id₂ _ h₂ with ⟨hid₂, -⟩ | ⟨hne₂, hbefore₂⟩
      · rw [hid₁, hid₂]
      · rw [heq₁] at hchild
        exact absurd hchild' (hapart id₂ q₂ hne₂ hbefore₂ child hchild)
    · rcases hqueues id₂ _ h₂ with ⟨hid₂, heq₂⟩ | ⟨-, hbefore₂⟩
      · rw [heq₂] at hchild'
        exact absurd hchild (hapart id₁ q₁ hne₁ hbefore₁ child hchild')
      · exact h.apart id₁ id₂ q₁ q₂ hbefore₁ hbefore₂ child hchild hchild'
  · rcases hqueues id' q hq with ⟨-, rfl⟩ | ⟨hne, hbefore⟩
    · exact hunhanded
    · exact hothers id' q hne hbefore

/-- Queues go with their listeners, and nothing is handed out. -/
theorem Disciplined.loses {σ : Reception} (h : ρ.Disciplined)
    (hnext : ρ.node.nextId ≤ σ.node.nextId)
    (hlimit : ∀ id, σ.limit? id = ρ.limit? id) (hhanded : σ.handed = ρ.handed)
    (hkept : ∀ id q, σ.node.queue? id = some q → ρ.node.queue? id = some q) :
    σ.Disciplined where
  limited id limit backlog hq := by
    rw [hlimit]
    exact h.limited id limit backlog (hkept id _ hq)
  increasing id limit backlog hq := by
    obtain ⟨hsorted, hlt⟩ := h.increasing id limit backlog (hkept id _ hq)
    exact ⟨hsorted, fun child hchild => Nat.lt_of_lt_of_le (hlt child hchild) hnext⟩
  apart id id' q q' hq hq' := h.apart id id' q q' (hkept id q hq) (hkept id' q' hq')
  unhanded id q hq := by
    rw [hhanded]
    exact h.unhanded id q (hkept id q hq)
  once := by
    rw [hhanded]
    exact h.once
  live := by
    rw [hhanded]
    exact h.live

/-- A new handle was never seen: it waits nowhere and was not handed out. -/
theorem Kept.joins {σ : Reception} {limit : Nat} {backlog : List SocketId} (h : ρ.Kept)
    (hnext : ρ.node.nextId < σ.node.nextId)
    (hlimit : ∀ id, σ.limit? id = ρ.limit? id) (hhanded : σ.handed = ρ.handed)
    (hbefore : ρ.node.queue? id = some (limit, backlog)) (hroom : backlog.length < limit)
    (hself : σ.node.queue? id = some (limit, backlog ++ [ρ.node.nextId]))
    (hkept : ∀ id' q, id' ≠ id → σ.node.queue? id' = some q → ρ.node.queue? id' = some q) :
    σ.Disciplined := by
  obtain ⟨hsame, -⟩ := h.disciplined.limited id _ _ hbefore
  obtain ⟨hsorted, hlt⟩ := h.disciplined.increasing id _ _ hbefore
  have hnew : ∀ id' q, ρ.node.queue? id' = some q → ρ.node.nextId ∉ q.2 := by
    intro id' q hq hmem
    exact Nat.lt_irrefl _ ((h.disciplined.increasing id' q.1 q.2 hq).2 _ hmem)
  have hunhanded : ρ.node.nextId ∉ ρ.handed.map Prod.fst :=
    fun hmem => Nat.lt_irrefl _ (h.handedOut _ hmem)
  have hqueues : ∀ id' q, σ.node.queue? id' = some q →
      id' = id ∧ q = (limit, backlog ++ [ρ.node.nextId]) ∨
        id' ≠ id ∧ ρ.node.queue? id' = some q := by
    intro id' q hq
    by_cases hid : id' = id
    · rw [hid, hself] at hq
      exact Or.inl ⟨hid, (Option.some.inj hq).symm⟩
    · exact Or.inr ⟨hid, hkept id' q hid hq⟩
  refine h.disciplined.requeue (Nat.le_of_lt hnext) (fun id' _ _ => hlimit id') hqueues
    ((hlimit id).trans hsame) ?_ ⟨?_, fun child hchild => ?_⟩ (fun id' q hne hq child hchild => ?_)
    (fun child hchild => ?_) (fun id' q _ hq => ?_) ?_ ?_
  · rw [List.length_append]
    exact hroom
  · rw [List.pairwise_append]
    refine ⟨hsorted, List.pairwise_singleton _ _, fun a ha b hb => ?_⟩
    rw [List.mem_singleton.mp hb]
    exact hlt a ha
  · rcases List.mem_append.mp hchild with hold | hlast
    · exact Nat.lt_trans (hlt child hold) hnext
    · rw [List.mem_singleton.mp hlast]
      exact hnext
  · rcases List.mem_append.mp hchild with hold | hlast
    · exact fun hmem => hne (h.disciplined.apart id' id q _ hq hbefore child hmem hold)
    · rw [List.mem_singleton.mp hlast]
      exact hnew id' q hq
  · rw [hhanded]
    rcases List.mem_append.mp hchild with hold | hlast
    · exact h.disciplined.unhanded id _ hbefore child hold
    · rw [List.mem_singleton.mp hlast]
      exact hunhanded
  · rw [hhanded]
    exact h.disciplined.unhanded id' q hq
  · rw [hhanded]
    exact h.disciplined.once
  · rw [hhanded]
    exact h.disciplined.live

/-- A new listener starts with an empty queue. -/
theorem Kept.listens {σ : Reception} {limit : Nat} (h : ρ.Kept)
    (hnext : ρ.node.nextId ≤ σ.node.nextId)
    (hlimit : ∀ id', σ.limit? id' = if id = id' then some limit else ρ.limit? id')
    (hhanded : σ.handed = ρ.handed)
    (hqueues : ∀ id' q, σ.node.queue? id' = some q →
      id' = id ∧ q = (limit, []) ∨ id' ≠ id ∧ ρ.node.queue? id' = some q) : σ.Disciplined := by
  refine h.disciplined.requeue hnext (fun id' hne _ => ?_) hqueues ((hlimit id).trans (if_pos rfl))
    (Nat.zero_le _) ⟨List.Pairwise.nil, fun _ hchild => absurd hchild List.not_mem_nil⟩
    (fun _ _ _ _ _ hchild => absurd hchild List.not_mem_nil)
    (fun _ hchild => absurd hchild List.not_mem_nil) (fun id' q _ hq => ?_) ?_ ?_
  · rw [hlimit, if_neg (Ne.symm hne)]
  · rw [hhanded]
    exact h.disciplined.unhanded id' q hq
  · rw [hhanded]
    exact h.disciplined.once
  · rw [hhanded]
    exact h.disciplined.live

/-- What is handed out was in the queue and leaves it, with all that stood
    before it. -/
theorem Kept.accepts {σ : Reception} {port : UInt16} {limit : Nat}
    {backlog ended rest : List SocketId} {answer : Option SocketId} (h : ρ.Kept)
    (hnext : σ.node.nextId = ρ.node.nextId) (hlimit : ∀ id, σ.limit? id = ρ.limit? id)
    (hhanded : σ.handed = ρ.handed ++
      (answer.map fun child => (child, σ.node.state child)).toList)
    (hbefore : ρ.node.socket? id = some (.listener port limit backlog))
    (hsplit : backlog = ended ++ answer.toList ++ rest)
    (hstate : ∀ child, answer = some child →
      σ.node.state child = ρ.node.state child ∧ ρ.node.state child ≠ .closed)
    (hqueues : ∀ id' q, σ.node.queue? id' = some q →
      id' = id ∧ q = (limit, rest) ∨ id' ≠ id ∧ ρ.node.queue? id' = some q) :
    σ.Disciplined ∧ ∀ child ∈ σ.handed.map Prod.fst, child < σ.node.nextId := by
  have hqueue : ρ.node.queue? id = some (limit, backlog) := Node.queue?_of_listener hbefore
  obtain ⟨hsame, hlength⟩ := h.disciplined.limited id _ _ hqueue
  obtain ⟨hsorted, hlt⟩ := h.disciplined.increasing id _ _ hqueue
  have hnodup : backlog.Nodup := hsorted.imp Nat.ne_of_lt
  have hrest : rest.Sublist backlog := by
    rw [hsplit]
    exact List.sublist_append_right _ _
  have hanswered : ∀ child, answer = some child → child ∈ backlog ∧ child ∉ rest := by
    rintro child rfl
    rw [hsplit] at hnodup ⊢
    refine ⟨by simp, fun hmem => ?_⟩
    obtain ⟨-, -, hdisjoint⟩ := List.nodup_append.mp hnodup
    exact hdisjoint child (by simp) child hmem rfl
  have hfirst : σ.handed.map Prod.fst = ρ.handed.map Prod.fst ++ answer.toList := by
    rw [hhanded, List.map_append]
    cases answer <;> rfl
  -- Whatever waits on was not handed out before, and is not handed out now.
  have hunhanded : ∀ child ∈ rest, child ∉ σ.handed.map Prod.fst := by
    intro child hchild hmem
    rw [hfirst] at hmem
    rcases List.mem_append.mp hmem with hold | hnow
    · exact h.disciplined.unhanded id _ hqueue child (hrest.subset hchild) hold
    · exact (hanswered child (Option.mem_toList.mp hnow)).2 hchild
  refine ⟨h.disciplined.requeue (Nat.le_of_eq hnext.symm) (fun id' _ _ => hlimit id') hqueues
    ((hlimit id).trans hsame) (Nat.le_trans hrest.length_le hlength)
    ⟨hsorted.sublist hrest, fun child hchild => ?_⟩ (fun id' q hne hq child hchild hmem => ?_)
    hunhanded (fun id' q hne hq child hchild hmem => ?_) ?_ (fun entry hentry => ?_),
    fun child hchild => ?_⟩
  · rw [hnext]
    exact hlt child (hrest.subset hchild)
  · exact hne (h.disciplined.apart id' id q _ hq hqueue child hmem (hrest.subset hchild))
  · rw [hfirst] at hmem
    rcases List.mem_append.mp hmem with hold | hnow
    · exact h.disciplined.unhanded id' q hq child hchild hold
    · have hmine := (hanswered child (Option.mem_toList.mp hnow)).1
      exact hne (h.disciplined.apart id' id q _ hq hqueue child hchild hmine)
  · rw [hfirst, List.nodup_append]
    refine ⟨h.disciplined.once, by cases answer <;> simp, fun a ha b hb heq => ?_⟩
    have hmine := (hanswered b (Option.mem_toList.mp hb)).1
    exact h.disciplined.unhanded id _ hqueue b hmine (heq ▸ ha)
  · rw [hhanded] at hentry
    rcases List.mem_append.mp hentry with hold | hnow
    · exact h.disciplined.live entry hold
    · cases answer with
      | none => cases hnow
      | some child =>
        rw [List.mem_singleton.mp hnow]
        obtain ⟨hkeeps, hopen⟩ := hstate child rfl
        simp only [hkeeps]
        have hmine := (hanswered child rfl).1
        exact h.greeted.state_of_spawned
          (h.orderly.queued id port limit backlog hbefore child hmine).2 hopen
  · rw [hnext]
    rw [hfirst] at hchild
    rcases List.mem_append.mp hchild with hold | hnow
    · exact h.handedOut child hold
    · exact hlt child (hanswered child (Option.mem_toList.mp hnow)).1

/-- A call that sets up no queue and takes from none. -/
theorem Kept.step_other (h : ρ.Kept) (hreact : ρ.node.react now input = .ok (n', effects))
    (hlisten : ∀ id limit, input ≠ .call (.listen id limit))
    (haccept : ∀ id, input ≠ .call (.accept id)) :
    (ρ.after now input n').Disciplined ∧ (ρ.after now input n').handed = ρ.handed := by
  have hchange := Node.change_of_react hreact
  have hlimit : ∀ id, (ρ.after now input n').limit? id = ρ.limit? id := by
    intro id
    show (ρ.node.listened? now id input).or (ρ.limit? id) = ρ.limit? id
    cases input with
    | call call =>
      cases call with
      | listen id' limit => exact absurd rfl (hlisten id' limit)
      | _ => rfl
    | _ => rfl
  have hhanded : (ρ.after now input n').handed = ρ.handed := by
    show ρ.handed ++ _ = ρ.handed
    cases input with
    | call call =>
      cases call with
      | accept id' => exact absurd rfl (haccept id')
      | _ => exact List.append_nil _
    | _ => exact List.append_nil _
  refine ⟨?_, hhanded⟩
  cases hchange.requeues h.orderly.numbered hlisten haccept with
  | loses hkept => exact h.disciplined.loses hchange.nextId_le hlimit hhanded hkept
  | joins hnext hbefore hroom hself hkept =>
    exact h.joins hnext hlimit hhanded hbefore hroom hself hkept

theorem Kept.step_listen {limit : Nat} (h : ρ.Kept)
    (hreact : ρ.node.react now (.call (.listen id limit)) = .ok (n', effects)) :
    (ρ.after now (.call (.listen id limit)) n').Disciplined := by
  have hhanded : (ρ.after now (.call (.listen id limit)) n').handed = ρ.handed :=
    List.append_nil _
  cases hlisten : ρ.node.listen id limit with
  | error e =>
    have hserve : ρ.node.serve now (.listen id limit) = (.failed e, ρ.node, []) := by
      simp only [Node.serve, hlisten]
      rfl
    obtain rfl : ρ.node = n' := by
      have hnode := congrArg Prod.fst (Except.ok.inj hreact)
      rw [hserve] at hnode
      exact hnode
    refine h.disciplined.loses (Nat.le_refl _) (fun id' => ?_) hhanded fun _ _ hq => hq
    show (if id = id' ∧ (ρ.node.serve now (.listen id limit)).1 = .done then some limit
      else none).or (ρ.limit? id') = ρ.limit? id'
    rw [hserve]
    simp
  | ok m =>
    have hserve : ρ.node.serve now (.listen id limit) = (.done, m, []) := by
      simp only [Node.serve, hlisten]
      rfl
    obtain rfl : m = n' := by
      have hnode := congrArg Prod.fst (Except.ok.inj hreact)
      rw [hserve] at hnode
      exact hnode
    obtain ⟨port, hsocket, rfl⟩ := Node.listen_eq_ok hlisten
    have hqueues : ∀ id' q, (ρ.node.withSocket id (.listener port limit [])).queue? id' = some q →
        id' = id ∧ q = (limit, []) ∨ id' ≠ id ∧ ρ.node.queue? id' = some q := by
      intro id' q hq
      by_cases hid : id' = id
      · subst hid
        have hself := Node.queue?_of_listener ((Node.socket?_withSocket ρ.node id' id'
          (.listener port limit [])).trans (if_pos rfl))
        exact Or.inl ⟨rfl, Option.some.inj (hq.symm.trans hself)⟩
      · have hother := Node.queue?_congr ((Node.socket?_withSocket ρ.node id id'
          (.listener port limit [])).trans (if_neg (Ne.symm hid)))
        exact Or.inr ⟨hid, hother.symm.trans hq⟩
    refine h.listens (Nat.le_refl _) (fun id' => ?_) hhanded hqueues
    · show (if id = id' ∧ (ρ.node.serve now (.listen id limit)).1 = .done then some limit
        else none).or (ρ.limit? id') = _
      rw [hserve]
      by_cases hid : id = id' <;> simp [hid]

theorem Kept.step_accept (h : ρ.Kept)
    (hreact : ρ.node.react now (.call (.accept id)) = .ok (n', effects)) :
    (ρ.after now (.call (.accept id)) n').Disciplined ∧
      ∀ child ∈ (ρ.after now (.call (.accept id)) n').handed.map Prod.fst, child < n'.nextId := by
  obtain rfl : (ρ.node.accept id).2 = n' := congrArg Prod.fst (Except.ok.inj hreact)
  have hlimit : ∀ id', (ρ.after now (.call (.accept id)) (ρ.node.accept id).2).limit? id' =
      ρ.limit? id' := fun _ => rfl
  by_cases hlistener : ∃ port limit backlog, ρ.node.socket? id = some (.listener port limit backlog)
  · obtain ⟨port, limit, backlog, hsocket⟩ := hlistener
    obtain ⟨⟨ended, rest, hsplit, -, hended, hanswer, hsockets⟩, -, hnext, -⟩ :=
      Node.accepts_of_listener hsocket
    -- The listener and what is handed out are not among those that are removed.
    have hkeeps : ∀ child, child ∉ ended → child ≠ id →
        (ρ.node.accept id).2.socket? child = ρ.node.socket? child := by
      intro child hchild hne
      rw [hsockets, if_neg hchild, if_neg (Ne.symm hne)]
    have hlisten : id ∉ ended := by
      intro hmem
      have hclosed := hended id hmem
      unfold Node.state at hclosed
      rw [hsocket] at hclosed
      cases hclosed
    have hlost : ∀ child, child ∈ ended → (ρ.node.accept id).2.socket? child = none :=
      fun child hmem => (hsockets child).trans (if_pos hmem)
    have hqueues : ∀ id' q, (ρ.node.accept id).2.queue? id' = some q →
        id' = id ∧ q = (limit, rest) ∨ id' ≠ id ∧ ρ.node.queue? id' = some q := by
      intro id' q hq
      by_cases hid : id' = id
      · subst hid
        have hself : (ρ.node.accept id').2.socket? id' = some (.listener port limit rest) := by
          rw [hsockets, if_neg hlisten, if_pos rfl]
        exact Or.inl ⟨rfl, Option.some.inj (hq.symm.trans (Node.queue?_of_listener hself))⟩
      · refine Or.inr ⟨hid, ?_⟩
        by_cases hmem : id' ∈ ended
        · obtain ⟨limit', backlog'⟩ := q
          obtain ⟨port', hs⟩ := Node.queue?_eq_some_iff.mp hq
          cases (hlost id' hmem).symm.trans hs
        · exact (Node.queue?_congr (hkeeps id' hmem hid)).symm.trans hq
    refine h.accepts hnext hlimit rfl hsocket hsplit (fun child hchild => ?_) hqueues
    replace hchild : (ρ.node.accept id).1 = some child := hchild
    obtain ⟨-, hopen⟩ := hanswer child hchild
    refine ⟨?_, hopen⟩
    have hqueued : child ∈ backlog := by
      rw [hsplit, hchild]
      simp
    have hne : child ≠ id := by
      rintro rfl
      obtain ⟨c, hc, -⟩ := (h.orderly.queued child port limit backlog hsocket child hqueued).2 _
        hsocket
      cases hc
    show (ρ.node.accept id).2.state child = ρ.node.state child
    unfold Node.state
    rw [hkeeps child (fun hmem => hopen (hended child hmem)) hne]
  · have hother : ∀ port limit backlog, ρ.node.socket? id ≠ some (.listener port limit backlog) :=
      fun port limit backlog hsocket => hlistener ⟨port, limit, backlog, hsocket⟩
    have haccept := Node.accept_of_not_listener hother
    have hhanded : (ρ.after now (.call (.accept id)) (ρ.node.accept id).2).handed = ρ.handed := by
      show ρ.handed ++ (Option.map _ (ρ.node.accept id).1).toList = ρ.handed
      rw [haccept]
      exact List.append_nil _
    rw [hhanded, haccept]
    refine ⟨h.disciplined.loses (Nat.le_refl _) (fun _ => rfl) ?_ fun _ _ hq => hq, h.handedOut⟩
    rw [haccept] at hhanded
    exact hhanded

/-- **The discipline is kept** by every step. -/
theorem Kept.step (h : ρ.Kept) (hreact : ρ.node.react now input = .ok (n', effects)) :
    (ρ.after now input n').Kept := by
  have hchange := Node.change_of_react hreact
  have horderly : (ρ.after now input n').node.Orderly := h.orderly.change hchange
  have hgreeted : (ρ.after now input n').node.Greeted := h.greeted.change hchange
  by_cases haccept : ∃ id, input = .call (.accept id)
  · obtain ⟨id, rfl⟩ := haccept
    obtain ⟨hdisciplined, hhanded⟩ := h.step_accept hreact
    exact ⟨horderly, hgreeted, hhanded, hdisciplined⟩
  · have hlower : ∀ child ∈ ρ.handed.map Prod.fst, child < n'.nextId :=
      fun child hchild => Nat.lt_of_lt_of_le (h.handedOut child hchild) hchange.nextId_le
    by_cases hlisten : ∃ id limit, input = .call (.listen id limit)
    · obtain ⟨id, limit, rfl⟩ := hlisten
      refine ⟨horderly, hgreeted, ?_, h.step_listen hreact⟩
      have hhanded : (ρ.after now (.call (.listen id limit)) n').handed = ρ.handed :=
        List.append_nil _
      rw [hhanded]
      exact hlower
    · obtain ⟨hdisciplined, hhanded⟩ := h.step_other hreact
        (fun id limit heq => hlisten ⟨id, limit, heq⟩) (fun id heq => haccept ⟨id, heq⟩)
      refine ⟨horderly, hgreeted, ?_, hdisciplined⟩
      rw [hhanded]
      exact hlower

/-- A new node has no queues, and has handed out nothing. -/
theorem kept_start {n : Node} (hcreate : Node.create addr settings = .ok n) :
    Kept { node := n } := by
  have hnone := Node.socket?_of_create hcreate
  have hqueue : ∀ id q, n.queue? id ≠ some q := by
    intro id q hq
    obtain ⟨limit, backlog⟩ := q
    obtain ⟨port, hs⟩ := Node.queue?_eq_some_iff.mp hq
    cases (hnone id).symm.trans hs
  refine ⟨Node.orderly_create hcreate, fun id c hc => ?_, nofun, ?_⟩
  · cases (hnone id).symm.trans hc
  · exact ⟨fun id _ _ hq => absurd hq (hqueue id _), fun id _ _ hq => absurd hq (hqueue id _),
      fun id _ q _ hq => absurd hq (hqueue id q), fun id q hq => absurd hq (hqueue id q),
      List.nodup_nil, nofun⟩

theorem Kept.run (h : ρ.Kept) {inputs : List (Duration × Input)} {σ : Reception}
    (hrun : ρ.run inputs = some σ) : σ.Kept :=
  Node.of_observed hrun h (fun _ _ => rfl) fun hρ hreact => hρ.step hreact

/-! ### The result -/

/-- **The discipline of queues.** In every run of a node the queues keep their
    limits and their order, and no handle is in two of them or comes back after
    it was handed out; whatever is handed out is handed out once, established
    or shutting down. The loop of an accept ends with what the call returns:
    the first connection in the queue that is neither gone nor closed, with
    those before it removed and those behind it left as they are. -/
theorem backlog_discipline {n : Node} (hcreate : Node.create addr settings = .ok n)
    (inputs : List (Duration × Input)) (ρ : Reception)
    (hrun : Reception.run { node := n } inputs = some ρ) :
    ρ.Disciplined ∧ ∀ id, ∃ answer m,
      (∀ now, ρ.node.serve now (.accept id) = (.accepted answer, m, [])) ∧
      (∀ answer' m', Node.Polls id ρ.node answer' m' ↔ answer' = answer ∧ m' = m) ∧
      ∀ port limit backlog, ρ.node.socket? id = some (.listener port limit backlog) →
        ρ.node.Accepts id port limit backlog answer m := by
  have h := (kept_start hcreate).run hrun
  refine ⟨h.disciplined, fun id => ⟨(ρ.node.accept id).1, (ρ.node.accept id).2, fun now => rfl,
    fun answer m => ?_, fun port limit backlog => Node.accepts_of_listener⟩⟩
  have hpolls : Node.Polls id ρ.node (ρ.node.accept id).1 (ρ.node.accept id).2 := by
    by_cases hlistener :
        ∃ port limit backlog, ρ.node.socket? id = some (.listener port limit backlog)
    · obtain ⟨port, limit, backlog, hsocket⟩ := hlistener
      obtain ⟨hsorted, -⟩ := h.disciplined.increasing id _ _ (Node.queue?_of_listener hsocket)
      refine Node.polls_accept hsocket (hsorted.imp Nat.ne_of_lt) fun hmem => ?_
      obtain ⟨c, hc, -⟩ := (h.orderly.queued id port limit backlog hsocket id hmem).2 _ hsocket
      cases hc
    · have hother : ∀ port limit backlog,
          ρ.node.socket? id ≠ some (.listener port limit backlog) :=
        fun port limit backlog hsocket => hlistener ⟨port, limit, backlog, hsocket⟩
      rw [Node.accept_of_not_listener hother]
      exact .deaf hother
  exact ⟨fun hother => hpolls.unique hother, by rintro ⟨rfl, rfl⟩; exact hpolls⟩

/-- Three connections wait. The first comes to its end, the second is taken
    away by its handle. -/
def crowding : List (Duration × Input) :=
  let packet (s : Segment) : Packet :=
    { src := 9, dest := 1, ttl := 15, protocol := .transport, seq := s.seq
      payload := s.header s.frameChecksum ++ s.payload }
  [.call .socket, .call (.bind 1 80), .call (.listen 1 3),
    .packet (packet ⟨5000, 80, .syn, 4, 100, []⟩), .packet (packet ⟨5001, 80, .syn, 4, 200, []⟩),
    .packet (packet ⟨5002, 80, .syn, 4, 300, []⟩), .packet (packet ⟨5003, 80, .syn, 4, 400, []⟩),
    .packet (packet ⟨5000, 80, .fin, 0, 101, []⟩), .timer ⟨2, .shutdownCheck 1⟩,
    .call (.release 3)].map (.zero, ·)

/-- The queue had no room for a fourth. The third is handed out, and the queue
    is empty. -/
theorem discipline_of_crowding : ∃ n, Node.create 1 { mss := 4, bufferSize := 8 } = .ok n ∧
    ∃ ρ ∈ Reception.run { node := n } crowding, ρ.node.queue? 1 = some (3, [2, 3, 4]) ∧
      ρ.node.state 2 = .closed ∧ ρ.node.socket? 3 = none ∧ ρ.Disciplined ∧
      ∃ m, ρ.node.serve .zero (.accept 1) = (.accepted (some 4), m, []) ∧
        m.queue? 1 = some (3, []) ∧ Node.Polls 1 ρ.node (some 4) m := by
  have hcreate : Node.create 1 { mss := 4, bufferSize := 8 } = .ok _ := rfl
  refine ⟨_, hcreate, _, Option.get_mem (by decide +kernel), by decide +kernel, by decide +kernel,
    Option.isNone_iff_eq_none.mp (by decide +kernel), ?_⟩
  obtain ⟨hdisciplined, haccept⟩ :=
    backlog_discipline hcreate crowding _ (Option.get_mem (by decide +kernel))
  obtain ⟨answer, m, hserve, hpolls, -⟩ := haccept 1
  have hanswer : answer = some 4 :=
    Answer.accepted.inj ((congrArg Prod.fst (hserve .zero)).symm.trans (by decide +kernel))
  subst hanswer
  exact ⟨hdisciplined, m, hserve .zero,
    (congrArg (fun served => served.2.1.queue? 1) (hserve .zero)).symm.trans (by decide +kernel),
    (hpolls _ _).mpr ⟨rfl, rfl⟩⟩

end Reception

end ReliableStream
