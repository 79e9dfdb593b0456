import NetworkLayer.Icmpv6

/-! The messages of Neighbor Discovery: solicitations and advertisements. -/

namespace NetworkLayer

namespace Neighbor

/-- Hop limit of every message; a smaller one shows that a router has forwarded it. -/
def hopLimit : UInt8 := 255

/-- Option type of the sender's link-layer address. -/
def sourceLink : UInt8 := 1

/-- Option type of the target's link-layer address. -/
def targetLink : UInt8 := 2

/-- Least size of a message body: flags and target. -/
def leastBody : Nat := 20

/-- The link-layer address in the first option of a type; a malformed option ends the search. -/
def linkOption? (wanted : UInt8) (options : Bytes) : Option Mac :=
  match options with
  | kind :: size :: rest =>
    -- The size counts units of eight bytes, the two fixed ones included.
    let length := size.toNat * 8
    -- An option of size zero would never end the search.
    if length = 0 ∨ (kind :: size :: rest).length < length then none
    else if kind = wanted then some (Mac.readAt (kind :: size :: rest) 2)
    else linkOption? wanted ((kind :: size :: rest).drop length)
  | _ => none
termination_by options.length
decreasing_by simp only [List.length_drop, List.length_cons]; omega

/-- The option with a link-layer address, or nothing. -/
def encodeLink (kind : UInt8) : Option Mac → Bytes
  | some mac => [kind, 1] ++ mac.octets
  | none => []

end Neighbor

/-- The question which link-layer address a target has. -/
structure NeighborSolicitation where
  target : Address .v6
  link : Option Mac
deriving DecidableEq

namespace NeighborSolicitation

/-- Reads a message body. -/
def parse (body : Bytes) : Except Error NeighborSolicitation :=
  if body.length < Neighbor.leastBody then .error (.tooShort .neighborSolicitation)
  else .ok ⟨Address.readAt body 4, Neighbor.linkOption? Neighbor.sourceLink (body.drop 20)⟩

/-- The bytes of the message, with its checksum still zero. -/
def encode (message : NeighborSolicitation) : Bytes :=
  [Icmpv6Type.neighborSolicitation.code, 0, 0, 0, 0, 0, 0, 0] ++ message.target.octets ++
    Neighbor.encodeLink Neighbor.sourceLink message.link

end NeighborSolicitation

/-- The answer which link-layer address a target has. -/
structure NeighborAdvertisement where
  router : Bool
  solicited : Bool
  override : Bool
  target : Address .v6
  link : Option Mac
deriving DecidableEq

namespace NeighborAdvertisement

/-- The answer of a host to a solicitation. -/
def answer (target : Address .v6) (mac : Mac) : NeighborAdvertisement :=
  ⟨false, true, true, target, some mac⟩

/-- Reads a message body. -/
def parse (body : Bytes) : Except Error NeighborAdvertisement :=
  if body.length < Neighbor.leastBody then .error (.tooShort .neighborAdvertisement)
  else
    let flags := Bytes.byteAt body 0
    .ok {
      router := flags &&& 0x80 != 0
      solicited := flags &&& 0x40 != 0
      override := flags &&& 0x20 != 0
      target := Address.readAt body 4
      link := Neighbor.linkOption? Neighbor.targetLink (body.drop 20) }

/-- The flags byte. -/
def flags (message : NeighborAdvertisement) : UInt8 :=
  (if message.router then 0x80 else 0) ||| (if message.solicited then 0x40 else 0) |||
    (if message.override then 0x20 else 0)

/-- The bytes of the message, with its checksum still zero. -/
def encode (message : NeighborAdvertisement) : Bytes :=
  [Icmpv6Type.neighborAdvertisement.code, 0, 0, 0, message.flags, 0, 0, 0] ++
    message.target.octets ++ Neighbor.encodeLink Neighbor.targetLink message.link

end NeighborAdvertisement

end NetworkLayer
