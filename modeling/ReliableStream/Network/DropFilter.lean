import ReliableStream.Wire.Packet
/-! # Drop filters

    A **drop filter** loses packets on purpose. It selects packets, counts
    those it selects from one, and drops them by their number. -/

namespace ReliableStream

/-- A filter and how many packets it has selected so far. Counting is no
    restriction: a filter that selects every packet decides by number alone, so
    whatever is decided about packets one after the other, some filter decides it. -/
structure DropFilter where
  selects : Packet → Bool
  /-- Whether the selected packet of this number is dropped. -/
  drops : Nat → Bool
  selected : Nat := 0

/-- Shows a packet to the filter, which says whether to drop it. -/
def DropFilter.offer (f : DropFilter) (p : Packet) : Bool × DropFilter :=
  if f.selects p then
    let n := f.selected + 1
    (f.drops n, { f with selected := n })
  else (false, f)

/-- What a packet may be selected by. A missing field admits everything.
    Addresses are asked for by **number**, and a number beyond all addresses
    admits nothing. -/
structure PacketPattern where
  src : Option Nat := none
  dest : Option Nat := none
  /-- The kind of the segment inside. -/
  kind : Option Segment.Kind := none
  /-- The payload length of the segment inside. -/
  length : Option Nat := none
  deriving DecidableEq, Repr

namespace PacketPattern

/-- Whether a value is the one asked for, if one is. -/
def admits {α : Type} [BEq α] (wanted : Option α) (value : α) : Bool :=
  match wanted with
  | some w => w == value
  | none => true

/-- Whether a segment fits the pattern. -/
def fitsSegment (p : PacketPattern) (s : Segment) : Bool :=
  admits p.kind s.kind && admits p.length s.payload.length

/-- Whether a packet fits the pattern. A pattern that asks about the segment
    looks inside the payload, **whatever its protocol**, and rejects one that
    is no frame. -/
def fits (p : PacketPattern) (packet : Packet) : Bool :=
  admits p.src packet.src.toNat && admits p.dest packet.dest.toNat &&
    (p.kind.isNone && p.length.isNone ||
      match Segment.decode packet.payload with
      | .ok s => p.fitsSegment s
      | .error _ => false)

/-- The filter that drops the packets that fit, or only those of the given
    numbers. -/
def filter (p : PacketPattern) (numbers : Option (List Nat)) : DropFilter where
  selects := p.fits
  drops n := match numbers with
    | some ns => ns.contains n
    | none => true

end PacketPattern

end ReliableStream
