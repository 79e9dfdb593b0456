import NetworkLayer.Address

/-! Routing headers of IPv6 and the segment list that type 4 carries. -/

namespace NetworkLayer

/-- The bytes of a routing header. -/
structure RoutingHeader where
  bytes : Bytes
deriving DecidableEq

namespace RoutingHeader

/-- The routing type that carries a segment list. -/
def segmentType : UInt8 := 4

/-- Size of a segment routing header without segments. -/
def fixedSize : Nat := 8

/-- The flag that asks for the header to be removed before the last segment. -/
def cleanupFlag : UInt8 := 0x80

/-- The routing type. -/
def kind (header : RoutingHeader) : UInt8 := Bytes.byteAt header.bytes 2

/-- Number of segments still to visit. -/
def segmentsLeft (header : RoutingHeader) : UInt8 := Bytes.byteAt header.bytes 3

/-- Whether the header carries a segment list. -/
def isSegmentList (header : RoutingHeader) : Bool :=
  header.kind == segmentType && fixedSize ≤ header.bytes.length

/-- Index of the last element of the segment list. -/
def lastEntry (header : RoutingHeader) : UInt8 := Bytes.byteAt header.bytes 4

/-- The flags byte. -/
def flags (header : RoutingHeader) : UInt8 := Bytes.byteAt header.bytes 5

/-- Whether the header is to be removed before the last segment. -/
def cleanup (header : RoutingHeader) : Bool := header.flags &&& cleanupFlag != 0

/-- Number of segments for which the header has room. -/
def segmentCount (header : RoutingHeader) : Nat := (header.bytes.length - fixedSize) / 16

/-- The segment at an index; index 0 is the final destination. -/
def segment? (header : RoutingHeader) (index : Nat) : Option (Address .v6) :=
  let start := fixedSize + index * 16
  if start + 16 ≤ header.bytes.length then some (Address.readAt header.bytes start) else none

/-- A segment routing header for segments in travel order, which the wire keeps in reverse. -/
def encode (segments : List (Address .v6)) (segmentsLeft : UInt8) (cleanup : Bool) : Bytes :=
  -- The length field counts units of eight bytes beyond the first.
  let length := fixedSize + segments.length * 16
  [0, UInt8.ofNat (length / 8 - 1), segmentType, segmentsLeft,
    UInt8.ofNat (segments.length - 1), if cleanup then cleanupFlag else 0, 0, 0] ++
    segments.reverse.flatMap Address.octets

end RoutingHeader

end NetworkLayer
