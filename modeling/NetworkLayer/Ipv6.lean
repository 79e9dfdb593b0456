import NetworkLayer.Error
import NetworkLayer.SegmentRouting

/-! IPv6 packets with their extension headers: reading, editing in place, and building. -/

namespace NetworkLayer

/-- The place of one extension header in a packet. -/
structure ExtensionHeader where
  /-- The next header value that announced it. -/
  kind : UInt8
  offset : Nat
  length : Nat
  /-- Offset of the byte that holds `kind`. -/
  kindOffset : Nat
deriving DecidableEq, Repr

namespace ExtensionHeader

/-- Next header value of hop-by-hop options. -/
def hopByHop : UInt8 := 0

/-- Next header value of a routing header. -/
def routing : UInt8 := 43

/-- Next header value of a fragment header. -/
def fragment : UInt8 := 44

/-- Next header value of destination options. -/
def destinationOptions : UInt8 := 60

/-- Next header value that announces nothing. -/
def noNext : UInt8 := 59

/-- Whether a next header value announces an extension header. -/
def isKind (kind : UInt8) : Bool :=
  [hopByHop, routing, fragment, destinationOptions].contains kind

/-- Length of a header of the given kind whose second byte is `size`. -/
def lengthOf (kind size : UInt8) : Nat :=
  -- A fragment header has no length field: its second byte is reserved.
  if kind = fragment then 8 else (size.toNat + 1) * 8

/-- No extension header is empty. -/
theorem lengthOf_pos (kind size : UInt8) : 0 < lengthOf kind size := by
  unfold lengthOf; split <;> omega

end ExtensionHeader

/-- The extension headers of a packet and what follows the last one. -/
structure ExtensionChain where
  headers : List ExtensionHeader
  upperProtocol : UInt8
  upperOffset : Nat
deriving DecidableEq

namespace ExtensionChain

/-- Follows the chain from a header value to the first that announces no extension header. -/
def walk (rest : Bytes) (kind : UInt8) (kindOffset offset : Nat) :
    Except Error ExtensionChain :=
  if ExtensionHeader.isKind kind then
    match rest with
    | next :: size :: more =>
      let length := ExtensionHeader.lengthOf kind size
      -- The whole header has to be there before what it announces is believed.
      if ((next :: size :: more).take length).length < length then
        .error (.extensionBodyTruncated kind)
      else
        match walk ((next :: size :: more).drop length) next offset (offset + length) with
        | .error cause => .error cause
        | .ok chain =>
          .ok { chain with headers := ⟨kind, offset, length, kindOffset⟩ :: chain.headers }
    | _ => .error .extensionTruncated
  else .ok ⟨[], kind, offset⟩
termination_by rest.length
decreasing_by
  have := ExtensionHeader.lengthOf_pos kind size
  simp only [List.length_drop, List.length_cons]
  omega

end ExtensionChain

/-- An IPv6 packet: its bytes and the extension chain found in them. -/
structure Ipv6Packet where
  bytes : Bytes
  chain : ExtensionChain
deriving DecidableEq

namespace Ipv6Packet

/-- Size of the fixed header. -/
def headerSize : Nat := 40

/-- Hop limit of packets that start here. -/
def initialHopLimit : UInt8 := 64

/-- The extension chain of a packet's bytes. -/
def chainOf (bytes : Bytes) : Except Error ExtensionChain :=
  ExtensionChain.walk (bytes.drop headerSize) (Bytes.byteAt bytes 6) 6 headerSize

/-- Reads a packet; bytes beyond the declared payload length are padding and are dropped. -/
def parse (data : Bytes) : Except Error Ipv6Packet := do
  -- The length is read up front; it counts only once the fixed header is there.
  let payloadLength := (Bytes.wordAt data 4).toNat
  if data.length < headerSize then throw (.tooShort .ipv6Packet)
  if (Bytes.byteAt data 0).toNat / 16 ≠ 6 then throw (.version .v6)
  if data.length < headerSize + payloadLength then
    throw (.ipv6PayloadLength payloadLength data.length)
  let bytes := data.take (headerSize + payloadLength)
  return ⟨bytes, ← chainOf bytes⟩

/-- Hop limit. -/
def hopLimit (packet : Ipv6Packet) : UInt8 := Bytes.byteAt packet.bytes 7

/-- Next header value of the fixed header. -/
def nextHeader (packet : Ipv6Packet) : UInt8 := Bytes.byteAt packet.bytes 6

/-- The payload length field. -/
def payloadLength (packet : Ipv6Packet) : UInt16 := Bytes.wordAt packet.bytes 4

/-- Where the packet comes from. -/
def source (packet : Ipv6Packet) : Address .v6 := Address.readAt packet.bytes 8

/-- Where the packet goes. -/
def destination (packet : Ipv6Packet) : Address .v6 := Address.readAt packet.bytes 24

/-- The fixed header. -/
def header (packet : Ipv6Packet) : Bytes := packet.bytes.take headerSize

/-- What follows the fixed header, extension headers included. -/
def payload (packet : Ipv6Packet) : Bytes := packet.bytes.drop headerSize

/-- What follows the extension headers. -/
def upperPayload (packet : Ipv6Packet) : Bytes := packet.bytes.drop packet.chain.upperOffset

/-- The first extension header of a kind. -/
def extension? (packet : Ipv6Packet) (kind : UInt8) : Option ExtensionHeader :=
  packet.chain.headers.find? (·.kind == kind)

/-- The bytes of the first extension header of a kind. -/
def extensionBytes? (packet : Ipv6Packet) (kind : UInt8) : Option Bytes :=
  (packet.extension? kind).map fun header => Bytes.slice packet.bytes header.offset header.length

/-- The first routing header. -/
def routingHeader? (packet : Ipv6Packet) : Option RoutingHeader :=
  (packet.extensionBytes? ExtensionHeader.routing).map RoutingHeader.mk

/-- The packet with a field replaced that no extension header depends on. -/
def withField (packet : Ipv6Packet) (offset : Nat) (field : Bytes) : Ipv6Packet :=
  { packet with bytes := Bytes.patch packet.bytes offset field }

/-- The packet with another hop limit. -/
def withHopLimit (packet : Ipv6Packet) (hopLimit : UInt8) : Ipv6Packet :=
  packet.withField 7 [hopLimit]

/-- The packet one hop on, unless its hop limit is used up. -/
def hopped? (packet : Ipv6Packet) : Option Ipv6Packet :=
  if packet.hopLimit ≤ 1 then none else some (packet.withHopLimit (packet.hopLimit - 1))

/-- The packet from another source. -/
def withSource (packet : Ipv6Packet) (source : Address .v6) : Ipv6Packet :=
  packet.withField 8 source.octets

/-- The packet to another destination. -/
def withDestination (packet : Ipv6Packet) (destination : Address .v6) : Ipv6Packet :=
  packet.withField 24 destination.octets

/-- The packet with another count of segments to visit, if it has a routing header. -/
def withSegmentsLeft? (packet : Ipv6Packet) (segmentsLeft : UInt8) : Option Ipv6Packet :=
  (packet.extension? ExtensionHeader.routing).map fun header =>
    packet.withField (header.offset + 3) [segmentsLeft]

/-- The packet without an extension header: its announcement passes to what follows it. -/
def dropping (packet : Ipv6Packet) (header : ExtensionHeader) : Ipv6Packet :=
  -- The header before it, or the fixed one, now announces what followed.
  let following := Bytes.byteAt packet.bytes header.offset
  let relinked := Bytes.patch packet.bytes header.kindOffset [following]
  let spliced := Bytes.excise relinked header.offset header.length
  let payloadLength := UInt16.ofNat (spliced.length - headerSize)
  let bytes := Bytes.patch spliced 4 (Bytes.ofWord payloadLength)
  match chainOf bytes with
  | .ok chain => ⟨bytes, chain⟩
  -- A rest that cannot be followed keeps the chain known before.
  | .error _ => { packet with bytes }

/-- The packet without its first extension header of a kind, if it has one. -/
def withoutExtension? (packet : Ipv6Packet) (kind : UInt8) : Option Ipv6Packet :=
  (packet.extension? kind).map packet.dropping

end Ipv6Packet

/-- What a new IPv6 packet is made of. -/
structure Ipv6Draft where
  trafficClass : UInt8 := 0
  /-- Only the low 20 bits are sent. -/
  flowLabel : UInt32 := 0
  nextHeader : UInt8 := ExtensionHeader.noNext
  hopLimit : UInt8 := Ipv6Packet.initialHopLimit
  source : Address .v6 := .unspecified
  destination : Address .v6 := .unspecified
  /-- Kinds and bytes; each first byte is overwritten by what follows in the chain. -/
  extensions : List (UInt8 × Bytes) := []
  payload : Bytes := []
deriving DecidableEq

namespace Ipv6Draft

/-- What the end of a chain announces when `rest` follows and `last` comes after it. -/
def announced (last : UInt8) : List (UInt8 × Bytes) → UInt8
  | [] => last
  | (kind, _) :: _ => kind

/-- The extension headers, each with the value of what follows in its first byte. -/
def linked (last : UInt8) : List (UInt8 × Bytes) → Bytes
  | [] => []
  -- An extension without bytes has no room for an announcement.
  | (_, bytes) :: rest => bytes.modify 0 (fun _ => announced last rest) ++ linked last rest

/-- The bytes of the packet; a payload length beyond 65535 wraps. -/
def encode (draft : Ipv6Draft) : Bytes :=
  let body := linked draft.nextHeader draft.extensions ++ draft.payload
  -- The version, the traffic class and the flow label share the first four bytes.
  let start := 6 <<< 28 + draft.trafficClass.toNat <<< 20 + draft.flowLabel.toNat % 0x100000
  Bytes.ofValue 4 start ++ Bytes.ofWord (UInt16.ofNat body.length) ++
    [announced draft.nextHeader draft.extensions, draft.hopLimit] ++
    draft.source.octets ++ draft.destination.octets ++ body

end Ipv6Draft

end NetworkLayer
