import ReliableStream.Connection.Basic
import ReliableStream.Proofs.Codec
import ReliableStream.Proofs.Flight
/-! # Effects through their views

    Of a list of effects a proof looks at three things: the **timers** that
    are armed, the **packets** that are sent, and the **segments** in them,
    read back from the packets. -/

namespace ReliableStream

namespace Effect

/-- The timer that an effect arms. -/
def timer? : Effect → Option Timer
  | .send _ => none
  | .arm _ timer => some timer

/-- The packet that an effect sends. -/
def packet? : Effect → Option Packet
  | .send packet => some packet
  | .arm .. => none

/-- The segment that an effect sends. -/
def segment? : Effect → Option Segment
  | .send packet => packet.segment?
  | .arm .. => none

end Effect

/-- The timers armed by effects, in order. -/
def timersOf (effects : List Effect) : List Timer := effects.filterMap Effect.timer?

/-- The packets sent by effects, in order. -/
def packetsOf (effects : List Effect) : List Packet := effects.filterMap Effect.packet?

/-- The segments sent by effects, in order. -/
def segmentsOf (effects : List Effect) : List Segment := effects.filterMap Effect.segment?

@[simp] theorem timersOf_nil : timersOf [] = [] := rfl

@[simp] theorem segmentsOf_nil : segmentsOf [] = [] := rfl

@[simp] theorem packetsOf_append (a b : List Effect) :
    packetsOf (a ++ b) = packetsOf a ++ packetsOf b := List.filterMap_append

@[simp] theorem timersOf_append (a b : List Effect) :
    timersOf (a ++ b) = timersOf a ++ timersOf b := List.filterMap_append

@[simp] theorem segmentsOf_append (a b : List Effect) :
    segmentsOf (a ++ b) = segmentsOf a ++ segmentsOf b := List.filterMap_append

@[simp] theorem timersOf_arm (ctx : Context) (delay : Duration) (event : TimerEvent) :
    timersOf [ctx.arm delay event] = [⟨ctx.id, event⟩] := rfl

@[simp] theorem segmentsOf_arm (ctx : Context) (delay : Duration) (event : TimerEvent) :
    segmentsOf [ctx.arm delay event] = [] := rfl

@[simp] theorem packetsOf_arm (ctx : Context) (delay : Duration) (event : TimerEvent) :
    packetsOf [ctx.arm delay event] = [] := rfl

@[simp] theorem timersOf_map_send (packets : List Packet) :
    timersOf (packets.map .send) = [] := by
  induction packets with
  | nil => rfl
  | cons packet rest ih => exact ih

@[simp] theorem packetsOf_map_send (packets : List Packet) :
    packetsOf (packets.map .send) = packets := by
  induction packets with
  | nil => rfl
  | cons packet rest ih => exact congrArg (packet :: ·) ih

/-- The segments are those of the packets. -/
theorem segmentsOf_eq (effects : List Effect) :
    segmentsOf effects = (packetsOf effects).filterMap Packet.segment? := by
  unfold segmentsOf packetsOf
  rw [List.filterMap_filterMap]
  congr 1
  funext effect
  cases effect <;> rfl

/-- The segment of a packet that is sent is among the segments that are sent. -/
theorem mem_segmentsOf {effects : List Effect} {packet : Packet} {s : Segment}
    (h : packet ∈ packetsOf effects) (hsegment : packet.segment? = some s) :
    s ∈ segmentsOf effects := by
  rw [segmentsOf_eq]
  exact List.mem_filterMap.mpr ⟨packet, h, hsegment⟩

/-- A reply arms nothing, whether or not it fits a packet. -/
@[simp] theorem timersOf_reply (packet : Option Packet) :
    timersOf (packet.map Effect.send).toList = [] := by
  cases packet <;> rfl

/-- A packet made for a segment carries the segment. -/
theorem Profile.segment?_of_packet? {p : Profile} {src dest : NodeAddr} {s : Segment}
    {packet : Packet} (h : p.packet? src dest s = some packet) : packet.segment? = some s := by
  unfold Profile.packet? at h
  cases he : s.encode with
  | error e =>
    rw [he] at h
    cases h
  | ok frame =>
    rw [he] at h
    cases h
    exact Packet.segment?_of_encode he rfl rfl

/-- A segment whose payload the length field can count fits a packet. -/
theorem Profile.exists_packet? (p : Profile) (src dest : NodeAddr) {s : Segment}
    (h : s.payload.length ≤ Segment.maxPayload) : ∃ packet, p.packet? src dest s = some packet := by
  unfold Profile.packet?
  rw [Segment.encode_eq_ok_iff.mpr ⟨h, rfl⟩]
  exact ⟨_, rfl⟩

/-! ### Sending -/

/-- The effects of sending segments to another node. -/
def Context.sends (ctx : Context) (dest : NodeAddr) (segments : List Segment) : List Effect :=
  (segments.filterMap (ctx.profile.packet? ctx.addr dest)).map .send

section Sends

variable {ctx : Context} {dest : NodeAddr} {segments : List Segment}

@[simp] theorem timersOf_sends (ctx : Context) (dest : NodeAddr) (segments : List Segment) :
    timersOf (ctx.sends dest segments) = [] := timersOf_map_send _

@[simp] theorem packetsOf_sends (ctx : Context) (dest : NodeAddr) (segments : List Segment) :
    packetsOf (ctx.sends dest segments) =
      segments.filterMap (ctx.profile.packet? ctx.addr dest) := packetsOf_map_send _

/-- Nothing is sent but what was given. -/
theorem mem_of_mem_sends {s : Segment} (h : s ∈ segmentsOf (ctx.sends dest segments)) :
    s ∈ segments := by
  rw [segmentsOf_eq, packetsOf_sends] at h
  obtain ⟨packet, hpacket, hsegment⟩ := List.mem_filterMap.mp h
  obtain ⟨s', hs', hmade⟩ := List.mem_filterMap.mp hpacket
  rw [Profile.segment?_of_packet? hmade] at hsegment
  cases hsegment
  exact hs'

theorem eq_of_mem_sends {s segment : Segment} (h : s ∈ segmentsOf (ctx.sends dest [segment])) :
    s = segment := List.mem_singleton.mp (mem_of_mem_sends h)

/-- A segment that has to be answered goes with a timer. -/
theorem eq_of_mem_sends_arm {s segment : Segment} {delay : Duration} {event : TimerEvent}
    (h : s ∈ segmentsOf (ctx.sends dest [segment] ++ [ctx.arm delay event])) : s = segment := by
  rw [segmentsOf_append, segmentsOf_arm, List.append_nil] at h
  exact eq_of_mem_sends h

theorem timersOf_sends_arm (segments : List Segment) (delay : Duration) (event : TimerEvent) :
    timersOf (ctx.sends dest segments ++ [ctx.arm delay event]) = [⟨ctx.id, event⟩] := by
  rw [timersOf_append, timersOf_sends, timersOf_arm, List.nil_append]

/-- Segments that fit packets are all sent, in order. -/
theorem segmentsOf_sends (h : ∀ s ∈ segments, s.payload.length ≤ Segment.maxPayload) :
    segmentsOf (ctx.sends dest segments) = segments := by
  rw [segmentsOf_eq, packetsOf_sends]
  induction segments with
  | nil => rfl
  | cons s rest ih =>
    obtain ⟨packet, hpacket⟩ := ctx.profile.exists_packet? ctx.addr dest (h s List.mem_cons_self)
    rw [List.filterMap_cons_some hpacket,
      List.filterMap_cons_some (Profile.segment?_of_packet? hpacket),
      ih fun s hs => h s (List.mem_cons_of_mem _ hs)]

/-- A segment that fits a packet is sent in one. -/
theorem packetsOf_sends_one (ctx : Context) (dest : NodeAddr) (s : Segment)
    (h : s.payload.length ≤ Segment.maxPayload) :
    ∃ packet, packetsOf (ctx.sends dest [s]) = [packet] ∧ packet.segment? = some s := by
  obtain ⟨packet, hpacket⟩ := ctx.profile.exists_packet? ctx.addr dest h
  rw [packetsOf_sends, List.filterMap_cons_some hpacket]
  exact ⟨packet, rfl, Profile.segment?_of_packet? hpacket⟩

end Sends

namespace Connection

/-- Segments that fit packets are all sent, in order. -/
theorem segmentsOf_transmit (ctx : Context) (c : Connection) {segments : List Segment}
    (h : ∀ s ∈ segments, s.payload.length ≤ Segment.maxPayload) :
    segmentsOf (c.transmit ctx segments).2 = segments := segmentsOf_sends h

/-- A flight of segments that fit packets is sent whole. -/
theorem segmentsOf_transmitFlight (ctx : Context) (c : Connection) {flight : Flight}
    (h : ∀ s ∈ flight.segments, s.payload.length ≤ Segment.maxPayload) :
    segmentsOf (c.transmitFlight ctx flight).2 = flight.segments := by
  unfold transmitFlight
  simp only [segmentsOf_append, segmentsOf_arm, List.append_nil]
  exact segmentsOf_transmit ctx _ h

end Connection

end ReliableStream
