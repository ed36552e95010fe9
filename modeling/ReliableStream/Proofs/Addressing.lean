import ReliableStream.Proofs.Changes
import ReliableStream.Proofs.Slices
/-! # Where packets go

    Whatever a connection sends is **addressed** from its own end to the one
    across: the packet names the two nodes, and the segment in it the two
    ports. So a packet by itself tells which connection it belongs to. -/

namespace ReliableStream

/-- A segment between the two ports of an identity, sent from the local one. -/
structure Segment.Bears (identity : Identity) (s : Segment) : Prop where
  srcPort : s.srcPort = identity.localPort
  dstPort : s.dstPort = identity.remotePort

/-- Every piece of a cut bears the ports it was cut for. -/
theorem StreamBuffer.ports_of_mem_cut {b : StreamBuffer} {srcPort dstPort : UInt16}
    {start window : UInt32} {s : Segment} (h : s ∈ b.cut srcPort dstPort start window) :
    s.srcPort = srcPort ∧ s.dstPort = dstPort := by
  unfold cut at h
  split at h
  · cases h
  · obtain ⟨i, -, rfl⟩ := List.mem_map.mp h
    exact ⟨rfl, rfl⟩

namespace Sender

variable {s s' : Sender} {flight : Flight} {identity : Identity} {now : Duration}

theorem bears_of_nextWindow?
    (h : s.nextWindow? identity.localPort identity.remotePort now = some (flight, s')) :
    ∀ segment ∈ flight.segments, segment.Bears identity := by
  intro segment hsegment
  rw [(segments_of_nextWindow? h).1] at hsegment
  obtain ⟨hsrc, hdst⟩ := StreamBuffer.ports_of_mem_cut hsegment
  exact ⟨hsrc, hdst⟩

theorem bears_of_onWindowTimeout? {generation : Nat}
    (h : s.onWindowTimeout? generation identity.localPort identity.remotePort now =
      some (flight, s')) :
    ∀ segment ∈ flight.segments, segment.Bears identity := by
  obtain ⟨-, -, cut, s'', hnext, hsegments, -⟩ := exists_of_onWindowTimeout? h
  rw [hsegments]
  exact bears_of_nextWindow? hnext

end Sender

namespace Connection

/-- Every packet sent goes from the node to the one across, and its segment
    bears the two ports. -/
def Addressed (ctx : Context) (identity : Identity) (effects : List Effect) : Prop :=
  ∀ packet ∈ packetsOf effects, packet.src = ctx.addr ∧ packet.dest = identity.remoteAddr ∧
    ∃ s, packet.segment? = some s ∧ s.Bears identity

variable {ctx : Context} {c : Connection} {identity : Identity} {effects : List Effect}

/-! ### Output -/

theorem addressed_nil (ctx : Context) (identity : Identity) : Addressed ctx identity [] :=
  fun _ hpacket => absurd hpacket List.not_mem_nil

/-- A timer goes nowhere. -/
theorem addressed_arm (ctx : Context) (identity : Identity) (delay : Duration)
    (event : TimerEvent) : Addressed ctx identity [ctx.arm delay event] :=
  fun _ hpacket => absurd hpacket List.not_mem_nil

theorem Addressed.append {more : List Effect} (h : Addressed ctx identity effects)
    (h' : Addressed ctx identity more) : Addressed ctx identity (effects ++ more) := by
  intro packet hpacket
  rw [packetsOf_append] at hpacket
  rcases List.mem_append.mp hpacket with hpacket | hpacket
  · exact h packet hpacket
  · exact h' packet hpacket

theorem addressed_sends {segments : List Segment} (h : ∀ s ∈ segments, s.Bears identity) :
    Addressed ctx identity (ctx.sends identity.remoteAddr segments) := by
  intro packet hpacket
  rw [packetsOf_sends] at hpacket
  obtain ⟨s, hs, hmade⟩ := List.mem_filterMap.mp hpacket
  have hsegment := Profile.segment?_of_packet? hmade
  unfold Profile.packet? at hmade
  obtain ⟨frame, -, rfl⟩ := Option.map_eq_some_iff.mp hmade
  exact ⟨rfl, rfl, s, hsegment, h s hs⟩

theorem addressed_sends_one {s : Segment} (h : s.Bears identity) :
    Addressed ctx identity (ctx.sends identity.remoteAddr [s]) :=
  addressed_sends fun _ hs' => List.mem_singleton.mp hs' ▸ h

theorem addressed_flies {flight : Flight} (h : ∀ s ∈ flight.segments, s.Bears c.identity) :
    Addressed ctx c.identity (c.flies ctx flight) :=
  (addressed_sends h).append (addressed_arm _ _ _ _)

/-! ### Opening -/

theorem addressed_request {opened : Connection × List Effect}
    (h : request ctx identity = opened) : Addressed ctx identity opened.2 := by
  obtain ⟨stats, -, hrequest⟩ := request_eq ctx identity
  rw [← h, hrequest]
  exact (addressed_sends_one ⟨rfl, rfl⟩).append (addressed_arm _ _ _ _)

theorem addressed_answer {s : Segment} {opened : Connection × List Effect}
    (h : answer ctx identity s = opened) : Addressed ctx identity opened.2 := by
  obtain ⟨stats, -, hanswer⟩ := answer_eq ctx identity s
  rw [← h, hanswer]
  exact (addressed_sends_one ⟨rfl, rfl⟩).append (addressed_arm _ _ _ _)

/-! ### Responses -/

/-- **Whatever a connection sends is addressed to its other end.** -/
theorem addressed_of_respond {stimulus : Stimulus} {c' : Connection}
    (h : c.respond ctx stimulus = .ok (c', effects)) : Addressed ctx c.identity effects := by
  cases responds_of_respond h with
  | wroteSent _ _ hwindow => exact addressed_flies (Sender.bears_of_nextWindow? hwindow)
  | closing => exact addressed_arm _ _ _ _
  | opened => exact addressed_sends_one ⟨rfl, rfl⟩
  | regranted => exact addressed_sends_one ⟨rfl, rfl⟩
  | reconfirmed => exact addressed_sends_one ⟨rfl, rfl⟩
  | data => exact addressed_sends_one ⟨rfl, rfl⟩
  | ackedSent _ _ _ _ hwindow => exact addressed_flies (Sender.bears_of_nextWindow? hwindow)
  | ended => exact addressed_arm _ _ _ _
  | requested => exact (addressed_sends_one ⟨rfl, rfl⟩).append (addressed_arm _ _ _ _)
  | granted => exact (addressed_sends_one ⟨rfl, rfl⟩).append (addressed_arm _ _ _ _)
  | waited => exact addressed_arm _ _ _ _
  | finished => exact addressed_sends_one ⟨rfl, rfl⟩
  | repeated _ hoverdue => exact addressed_flies (Sender.bears_of_onWindowTimeout? hoverdue)
  | _ => exact addressed_nil ctx c.identity

end Connection

end ReliableStream
