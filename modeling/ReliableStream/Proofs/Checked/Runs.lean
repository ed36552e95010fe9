import ReliableStream.Proofs.Checked.Clocks
import ReliableStream.Proofs.Checked.Nodes
import ReliableStream.Proofs.Tallies
/-! # Runs that do not trap

    A node whose settings are sound does the same on checked words and in flat
    memory as in numbers and lists, whatever its application calls, whatever
    arrives and whichever timers come back. So no assertion fails, no index and
    no stretch lies outside the memory it is taken from, no difference is below
    zero, no sum and no product passes its word, nothing is divided by zero, no
    loop goes on for ever, and every segment can be encoded.

    Two counters are left that only the surroundings bound. Handles are words,
    so there have to be fewer of them than words. And the clock has to be far
    enough from the longest duration: `2 ^ 59` seconds are. -/

namespace ReliableStream

open Checked

namespace Node

variable {n : Node} {now : Duration} {input : Input} {inputs : List (Duration × Input)}

/-- The handles of a run are words, the one that would come next included. -/
def HandlesFit (n : Node) (inputs : List (Duration × Input)) : Prop :=
  ∀ count m, n.after (inputs.take count) = some m → m.nextId < 4_294_967_296

/-! ### Handles -/

/-- The bound is exact: no word follows the last one, and so the last one is
    never given out. -/
theorem socket_overflow (h : 4_294_967_295 ≤ n.nextId) : n.flat.socket = .error .overflow := by
  have hover : ¬ n.nextId + 1 < Width.size .bits32 :=
    Nat.not_lt.mpr (Nat.add_le_add_right h 1)
  unfold Checked.Node.socket add
  rw [nextId_flat, if_neg hover]
  rfl

theorem HandlesFit.rest {n' : Node} {effects : List Effect}
    (h : n.HandlesFit ((now, input) :: inputs)) (hreact : n.react now input = .ok (n', effects)) :
    n'.HandlesFit inputs := by
  intro count m hm
  refine h (count + 1) m ?_
  rw [List.take_succ_cons, after_cons hreact]
  exact hm

theorem HandlesFit.first (h : n.HandlesFit ((now, input) :: inputs)) :
    ∀ n' effects, n.react now input = .ok (n', effects) → n'.nextId < 4_294_967_296 :=
  fun n' _ hreact => h.rest hreact 0 n' rfl

/-- One input takes one handle at most. -/
theorem Change.nextId_le_succ {n' : Node} {effects : List Effect}
    (h : n.Change now input n' effects) : n'.nextId ≤ n.nextId + 1 := by
  cases h with
  | created => exact Nat.le_refl _
  | spawned => exact Nat.le_refl _
  | released => exact Nat.le_succ_of_le (Nat.le_of_eq (nextId_profile_release n _).1)
  | moved => exact Nat.le_succ_of_le (Nat.le_of_eq (nextId_profile_settle n _ _ _).1)
  | _ => exact Nat.le_succ _

theorem nextId_after_le {m : Node} (h : n.after inputs = some m) :
    m.nextId ≤ n.nextId + inputs.length := by
  have hfinal := final_of_after h
  rw [← Transducer.length_steps hfinal]
  refine Transducer.steps_induction (P := fun past m => m.nextId ≤ n.nextId + past.length)
    (Nat.le_refl _) ?_ hfinal
  intro past m input answer hpast hreact
  have hstep := (change_of_react hreact).nextId_le_succ
  rw [List.length_append, List.length_singleton]
  calc answer.1.nextId ≤ m.nextId + 1 := hstep
    _ ≤ n.nextId + (past.length + 1) := Nat.add_le_add_right hpast 1

/-- Handles do not run out before as many inputs. -/
theorem handlesFit_of_length (h : n.nextId + inputs.length < 4_294_967_296) :
    n.HandlesFit inputs := by
  intro count m hm
  calc m.nextId ≤ n.nextId + (inputs.take count).length := nextId_after_le hm
    _ ≤ n.nextId + inputs.length := Nat.add_le_add_left (List.length_take_le' count inputs) _
    _ < 4_294_967_296 := h

/-! ### Runs -/

/-- A step in flat memory is the plain step. -/
theorem answer_flat (h : n.Sized) (hids : n.HandlesFit ((now, input) :: inputs)) :
    Checked.Node.transducer.answer n.flat (now, input) =
      ((transducer.answer n (now, input)).map flatten).mapError Trap.clock := by
  refine (react_flat h now input hids.first).trans ?_
  show lift flatten (n.react now input) = ((n.react now input).map flatten).mapError Trap.clock
  cases n.react now input <;> rfl

/-- **A run in flat memory is the plain run**, and traps only where that one
    faults. -/
theorem run_flat (h : n.Sized) (hids : n.HandlesFit inputs) :
    n.flat.run inputs = lift flatten (n.run inputs) := by
  have hcourse := Transducer.course_translate flat id flatten Trap.clock
    (P := fun n inputs => n.Sized ∧ n.HandlesFit inputs) (fun hm => answer_flat hm.1 hm.2)
    (fun _ => rfl) (fun hm hreact => ⟨hm.1.change (change_of_react hreact), hm.2.rest hreact⟩)
    ⟨h, hids⟩
  rw [List.map_id] at hcourse
  -- What is done in flat memory is entered as what is done.
  have hrun : n.flat.run inputs = ((n.run inputs).map flatten).mapError Trap.clock := by
    unfold Checked.Node.run
    rw [hcourse]
    exact Course.recorded_translate _ _ fun _ _ => rfl
  rw [hrun]
  cases n.run inputs <;> rfl

/-- A run faults in the arithmetic of durations only. -/
theorem overrun_of_run {fault : Fault} (h : n.run inputs = .error fault) :
    Duration.Overrun fault := by
  unfold run Course.recorded at h
  cases hfinal : (n.course inputs).final with
  | ok m =>
    rw [hfinal] at h
    cases h
  | error fault' =>
    rw [hfinal] at h
    cases h
    obtain ⟨m, input, hreact⟩ := Transducer.exists_of_final_eq_error hfinal
    exact overrun_of_react hreact

/-- A run whose clock shows at most `2 ^ 59` seconds comes to its end. -/
theorem Modest.run (h : n.Modest) (hclock : ∀ p ∈ inputs, p.1.Within 32) :
    ∃ answer, n.run inputs = .ok answer := by
  have hstep : ∀ {m : Node} {p : Duration × Input}, m.Modest → p.1.Within 32 →
      ∃ answer, transducer.answer m p = .ok answer ∧ answer.1.Modest := by
    rintro m ⟨now, input⟩ hm hnow
    obtain ⟨n', effects, hreact⟩ := hm.react hnow input
    exact ⟨(n', effects), hreact, hm.change hnow (change_of_react hreact)⟩
  obtain ⟨m, hfinal⟩ := Transducer.exists_final h hclock hstep
  unfold Node.run Course.recorded course
  rw [hfinal]
  exact ⟨_, rfl⟩

end Node

/-! ### Observers -/

namespace Socket

variable {s : Socket}

/-- A socket whose connection, if it has one, is sized. -/
def Sized (s : Socket) : Prop := ∀ c, s = .connection c → c.Sized

theorem readable_flat (h : s.Sized) : s.flat.readable = .ok s.readable := by
  cases s with
  | connection c =>
    unfold flat Checked.Socket.readable readable
    dsimp only
    rw [Connection.phase_flat, Phase.receiver?_flat]
    cases hreceiver : c.phase.receiver? with
    | none => rfl
    | some r => exact Receiver.readable_flat ((h c rfl).receiver r hreceiver)
  | _ => rfl

theorem buffered_flat (h : s.Sized) : s.flat.buffered = .ok s.buffered := by
  cases s with
  | connection c => exact Sender.buffered_flat (h c rfl).sender
  | _ => rfl

theorem endSeq?_flat (h : s.Sized) :
    s.flat.endSeq? = .ok (s.sender?.map Sender.endSeq) := by
  cases s with
  | connection c =>
    unfold flat Checked.Socket.endSeq?
    dsimp only
    rw [Connection.sender_flat, Sender.endSeq_flat (h c rfl).sender]
    rfl
  | _ => rfl

end Socket

/-! ### No run traps -/

namespace Node

variable {n : Node} {inputs : List (Duration × Input)}

/-- A run of a node on checked words and in flat memory is free of traps. -/
structure TrapFree (n : Node) (inputs : List (Duration × Input)) : Prop where
  /-- It does what the plain run does. -/
  agrees : n.flat.run inputs = lift flatten (n.run inputs)
  /-- Nothing traps but the arithmetic of durations in a clock that has run
      out, so least of all the encoding of a segment. -/
  traps : ∀ trap, n.flat.run inputs = .error trap →
    trap = .clock .durationSum ∨ trap = .clock .durationMultiple
  /-- The arithmetic of durations does not trap either if the clock shows at
      most `2 ^ 59` seconds. -/
  finishes : (∀ p ∈ inputs, p.1.nanos ≤ 576_460_752_303_423_488 * Duration.nanosPerSecond) →
    ∃ answer, n.flat.run inputs = .ok answer
  /-- Afterwards every connection has counted as many segments as packets are
      on record as sent by its socket, and looking at a socket does not trap. -/
  counts : ∀ m effects, n.flat.run inputs = .ok (m, effects) →
    ∃ ρ, (Register.start n).run inputs = some ρ ∧ ρ.node.flat = m ∧
      (∀ id c, m.socket? id = some (.connection c) →
        c.stats.segmentsSent = (ρ.ledger id).sent.length) ∧
      ∀ id s, ρ.node.socket? id = some s → m.socket? id = some s.flat ∧
        s.flat.readable = .ok s.readable ∧ s.flat.buffered = .ok s.buffered ∧
          s.flat.endSeq? = .ok (s.sender?.map Sender.endSeq)

/-- What the checked run ends with, the plain run ends with. -/
theorem run_of_flat (hagrees : n.flat.run inputs = lift flatten (n.run inputs))
    {m : Checked.Node} {effects : List Effect} (h : n.flat.run inputs = .ok (m, effects)) :
    ∃ n', n.run inputs = .ok (n', effects) ∧ n'.flat = m := by
  rw [hagrees] at h
  cases hrun : n.run inputs with
  | error fault =>
    rw [hrun] at h
    cases h
  | ok answer =>
    rw [hrun] at h
    cases h
    exact ⟨answer.1, rfl, rfl⟩

/-- The connections of a node in flat memory are those of the node. -/
theorem connection_of_flat {id : SocketId} {c : Checked.Connection}
    (h : n.flat.socket? id = some (.connection c)) :
    ∃ c', n.socket? id = some (.connection c') ∧ c'.flat = c := by
  rw [socket?_flat] at h
  obtain ⟨s, hsocket, hflat⟩ := Option.map_eq_some_iff.mp h
  cases s with
  | connection c' => exact ⟨c', hsocket, Checked.Socket.connection.inj hflat⟩
  | _ => cases hflat

/-- **No run traps.** Let a node be created with settings that are accepted,
    and let its handles fit their word. Whatever its application calls, whatever
    arrives, and whichever timers come back at whatever times, the run on
    checked words and in flat memory does what the plain run does; only a clock
    that has almost run out can end it. Every segment is encoded, and every
    socket has counted the packets that it sent. -/
theorem run_never_traps {addr : NodeAddr} {settings : Settings}
    (hcreate : Node.create addr settings = .ok n) (inputs : List (Duration × Input))
    (hids : n.HandlesFit inputs) :
    Checked.Node.create addr settings = .ok n.flat ∧ n.TrapFree inputs := by
  have hsized : n.Sized := .of_create hcreate
  have hagrees := run_flat hsized hids
  refine ⟨by rw [create_flat, hcreate]; rfl, hagrees, fun trap htrap => ?_, fun hclock => ?_,
    fun m effects hrun => ?_⟩
  · -- The plain run has no other faults.
    rw [hagrees] at htrap
    cases hplain : n.run inputs with
    | ok answer =>
      rw [hplain] at htrap
      cases htrap
    | error fault =>
      rw [hplain] at htrap
      cases htrap
      rcases overrun_of_run hplain with rfl | rfl
      · exact .inl rfl
      · exact .inr rfl
  · obtain ⟨answer, hplain⟩ := (Modest.of_create hcreate).run hclock
    rw [hagrees, hplain]
    exact ⟨_, rfl⟩
  · -- Counts and contents are those of the plain run.
    obtain ⟨n', hplain, rfl⟩ := run_of_flat hagrees hrun
    obtain ⟨ρ, hρ, rfl⟩ : ∃ ρ, (Register.start n).run inputs = some ρ ∧ ρ.node = n' :=
      exists_observed (fun _ _ => rfl) (after_of_run hplain)
    have htallied := (Register.tallied_start hcreate).run (Register.kept_start hcreate) hρ
    have hend : ρ.node.Sized := Node.of_after Sized hsized
      (fun _ _ _ _ _ h hreact => h.change (change_of_react hreact)) (after_of_run hplain)
    refine ⟨ρ, hρ, rfl, fun id c hsocket => ?_, fun id s hsocket => ?_⟩
    · obtain ⟨c', hplain', rfl⟩ := connection_of_flat hsocket
      exact htallied id c' hplain'
    · have hs : s.Sized := fun c hc => hend id c (hc ▸ hsocket)
      refine ⟨?_, Socket.readable_flat hs, Socket.buffered_flat hs, Socket.endSeq?_flat hs⟩
      rw [socket?_flat, hsocket]
      rfl

/-- A spawned connection among garbage, data for nobody, a timer of nobody, an
    acknowledgment of what was never sent and a flight that is late. -/
def pestered : List (Duration × Input) :=
  let packet (payload : List UInt8) : Packet :=
    { src := 9, dest := 1, ttl := 15, protocol := .transport, seq := 0, payload }
  let carrying (s : Segment) : Packet := packet (s.header s.frameChecksum ++ s.payload)
  [.call .socket, .call (.bind 1 80), .call (.listen 1 5), .packet (packet [1, 2, 3]),
    .packet (carrying ⟨5000, 81, .data, 4, 0, [6]⟩), .timer ⟨7, .windowTimeout 9⟩,
    .packet (carrying ⟨5000, 80, .syn, 4, 100, []⟩), .packet (carrying ⟨5000, 80, .ack, 8, 1, []⟩),
    .call (.write 2 [7, 8, 9, 10, 11]), .packet (carrying ⟨5000, 80, .ack, 8, 77, []⟩),
    .packet (carrying ⟨5000, 80, .data, 4, 101, [1, 2, 3]⟩), .timer ⟨2, .windowTimeout 1⟩,
    .packet (carrying ⟨5000, 80, .ack, 8, 6, []⟩), .call (.read 2 9)].map (.zero, ·)

/-- It sends five packets: four of its own and the end for nobody. -/
theorem trapFree_pestered : ∃ n, Node.create 1 { mss := 4, bufferSize := 8 } = .ok n ∧
    n.HandlesFit pestered ∧
      (Checked.Node.create 1 { mss := 4, bufferSize := 8 } = .ok n.flat ∧ n.TrapFree pestered) ∧
      (n.flat.run pestered).toOption.map (fun r => (packetsOf r.2).length) = some 5 := by
  have hcreate : Node.create 1 { mss := 4, bufferSize := 8 } = .ok _ := rfl
  refine ⟨_, hcreate, ?hids, run_never_traps hcreate pestered ?hids, by decide +kernel⟩
  exact handlesFit_of_length (by decide)

end Node

end ReliableStream
