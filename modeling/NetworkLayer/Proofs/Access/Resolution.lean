import NetworkLayer.Adapter
import NetworkLayer.Proofs.Access.Ipv6
import NetworkLayer.Proofs.Access.Message
import NetworkLayer.Proofs.Access.Routing

/-!
Frames and the resolution of addresses, with every access checked. Main statement: an adapter sorts
every frame, and answers the questions in it, without a wrong access.
-/

namespace NetworkLayer

namespace Frame

/-- Reads a frame of at least a header. -/
def checkedParse (bytes : Bytes) : Checked (Except Error Frame) :=
  if bytes.length < headerSize then .ok (.error (.tooShort .frame))
  else do
    return .ok {
      destination := ← Checked.mac bytes 0
      source := ← Checked.mac bytes 6
      etherType := ← Checked.word bytes 12
      payload := ← Checked.rest bytes headerSize }

/-- Whatever is read, no access to it goes wrong. -/
theorem checkedParse_eq (bytes : Bytes) : checkedParse bytes = .ok (parse bytes) := by
  rw [checkedParse, parse]
  by_cases short : bytes.length < headerSize
  · rw [if_pos short, if_pos short]
  -- All fields of the header lie in its fourteen bytes.
  have room : 14 ≤ bytes.length := Nat.le_of_not_lt short
  rw [if_neg short, if_neg short, Checked.mac_ok (by omega), Checked.ok_bind,
    Checked.mac_ok (by omega), Checked.ok_bind, Checked.word_ok (by omega), Checked.ok_bind,
    Checked.rest_ok (Nat.le_of_not_lt short)]
  rfl

end Frame

namespace ArpPacket

/-- Reads a packet. -/
def checkedParse (bytes : Bytes) : Checked (Except Error ArpPacket) :=
  if bytes.length < size then .ok (.error (.tooShort .arpPacket))
  else do
    if (← Checked.word bytes 0) ≠ 1 then return .error .arpHardwareType
    else if (← Checked.word bytes 2) ≠ 0x0800 then return .error .arpProtocolType
    else if (← Checked.byte bytes 4) ≠ 6 ∨ (← Checked.byte bytes 5) ≠ 4 then
      return .error .arpAddressLengths
    else match ArpOperation.ofCode? (← Checked.word bytes 6) with
      | none => return .error .arpOperation
      | some operation => return .ok {
          operation
          senderMac := ← Checked.mac bytes 8
          sender := ← Checked.address bytes 14
          targetMac := ← Checked.mac bytes 18
          target := ← Checked.address bytes 24 }

/-- The bytes of a packet, field by field into an empty one. -/
def checkedEncode (packet : ArpPacket) : Checked Bytes := do
  let bytes ← Checked.write (Bytes.zeros size) 0 2 (Bytes.ofWord 1)
  let bytes ← Checked.write bytes 2 2 (Bytes.ofWord 0x0800)
  let bytes ← Checked.write bytes 4 1 [6]
  let bytes ← Checked.write bytes 5 1 [4]
  let bytes ← Checked.write bytes 6 2 (Bytes.ofWord packet.operation.code)
  let bytes ← Checked.write bytes 8 6 packet.senderMac.octets
  let bytes ← Checked.write bytes 14 4 packet.sender.octets
  let bytes ← Checked.write bytes 18 6 packet.targetMac.octets
  Checked.write bytes 24 4 packet.target.octets

/-- Whatever is read, no access to it goes wrong. -/
theorem checkedParse_eq (bytes : Bytes) : checkedParse bytes = .ok (parse bytes) := by
  rw [checkedParse, parse]
  by_cases short : bytes.length < size
  · rw [if_pos short, if_pos short]
  have room : 28 ≤ bytes.length := Nat.le_of_not_lt short
  -- Every field lies in the first 28 bytes, so all reads are settled before the tests.
  have sender : (Checked.address bytes 14 : Checked (Address .v4)) =
      .ok (Address.readAt bytes 14) := Checked.address_ok (Nat.le_trans (by decide) room)
  have target : (Checked.address bytes 24 : Checked (Address .v4)) =
      .ok (Address.readAt bytes 24) := Checked.address_ok (Nat.le_trans (by decide) room)
  simp only [if_neg short, Checked.word_ok (show 0 + 2 ≤ bytes.length by omega),
    Checked.word_ok (show 2 + 2 ≤ bytes.length by omega),
    Checked.byte_ok (show 4 < bytes.length by omega),
    Checked.byte_ok (show 5 < bytes.length by omega),
    Checked.word_ok (show 6 + 2 ≤ bytes.length by omega),
    Checked.mac_ok (show 8 + 6 ≤ bytes.length by omega),
    Checked.mac_ok (show 18 + 6 ≤ bytes.length by omega), sender, target, Checked.ok_bind]
  -- The tests come in the order in which the fields stand, and each of them may refuse the packet.
  by_cases hardware : Bytes.wordAt bytes 0 ≠ 1
  · rw [if_pos hardware, if_pos hardware]
    rfl
  rw [if_neg hardware, if_neg hardware]
  by_cases protocol : Bytes.wordAt bytes 2 ≠ 0x0800
  · rw [if_pos protocol, if_pos protocol]
    rfl
  rw [if_neg protocol, if_neg protocol]
  by_cases lengths : Bytes.byteAt bytes 4 ≠ 6 ∨ Bytes.byteAt bytes 5 ≠ 4
  · rw [if_pos lengths, if_pos lengths]
    rfl
  rw [if_neg lengths, if_neg lengths]
  cases ArpOperation.ofCode? (Bytes.wordAt bytes 6) with
  | none => rfl
  | some operation => rfl

/-- A packet can be built. -/
theorem checkedEncode_eq (packet : ArpPacket) : packet.checkedEncode = .ok packet.encode := by
  have six (mac : Mac) : ∃ a b c d e f, mac.octets = [a, b, c, d, e, f] :=
    ⟨_, _, _, _, _, _, rfl⟩
  obtain ⟨codeHigh, codeLow, code⟩ := Bytes.ofWord_pair packet.operation.code
  obtain ⟨a₁, a₂, a₃, a₄, a₅, a₆, senderMac⟩ := six packet.senderMac
  obtain ⟨b₁, b₂, b₃, b₄, sender⟩ := packet.sender.octets_quad
  obtain ⟨c₁, c₂, c₃, c₄, c₅, c₆, targetMac⟩ := six packet.targetMac
  obtain ⟨d₁, d₂, d₃, d₄, target⟩ := packet.target.octets_quad
  have hardware : Bytes.ofWord 1 = [0, 1] := by decide
  have protocol : Bytes.ofWord 0x0800 = [8, 0] := by decide
  -- All widths are known, so both sides spell the same bytes.
  simp only [checkedEncode, encode, code, senderMac, sender, targetMac, target, hardware, protocol]
  simp [Checked.write, Checked.filling, Bytes.patch, Bytes.zeros, size, List.replicate, preamble]

end ArpPacket

namespace Neighbor

/-- The link-layer address in the first option of a type from an offset on. -/
def checkedLinkOption? (wanted : UInt8) (options : Bytes) (offset : Nat) :
    Checked (Option Mac) :=
  if _sized : offset + 2 ≤ options.length then do
    let kind ← Checked.byte options offset
    let size ← Checked.byte options (offset + 1)
    let length := size.toNat * 8
    if _stop : length = 0 ∨ options.length < offset + length then .ok none
    else if kind = wanted then return some (← Checked.mac options (offset + 2))
    else checkedLinkOption? wanted options (offset + length)
  else .ok none
termination_by options.length - offset

/-- Without room for a type and a length there is no option. -/
theorem linkOption?_short (wanted : UInt8) {options : Bytes} (short : options.length < 2) :
    linkOption? wanted options = none := by
  unfold linkOption?
  -- Fewer than two bytes are none or one.
  rcases options with _ | ⟨kind, _ | ⟨size, rest⟩⟩
  · rfl
  · rfl
  · simp only [List.length_cons] at short
    omega

/-- The option at an offset ends the search, or the search goes on behind it. -/
theorem linkOption?_drop (wanted : UInt8) {options : Bytes} {offset : Nat}
    (sized : offset + 2 ≤ options.length) :
    linkOption? wanted (options.drop offset) =
      let length := (Bytes.byteAt options (offset + 1)).toNat * 8
      if length = 0 ∨ options.length < offset + length then none
      else if Bytes.byteAt options offset = wanted then some (Mac.readAt options (offset + 2))
      else linkOption? wanted (options.drop (offset + length)) := by
  -- What is read of the options from the offset on is what stands at the front of the rest.
  have first : Bytes.byteAt (options.drop offset) 0 = Bytes.byteAt options offset :=
    Bytes.byteAt_drop ..
  have second : Bytes.byteAt (options.drop offset) 1 = Bytes.byteAt options (offset + 1) :=
    Bytes.byteAt_drop ..
  have behind : (options.drop offset).length = options.length - offset := List.length_drop
  have link : Mac.readAt (options.drop offset) 2 = Mac.readAt options (offset + 2) := by
    rw [Mac.readAt, Mac.readAt, Bytes.slice, Bytes.slice, List.drop_drop]
  have rest (length : Nat) : options.drop (offset + length) = (options.drop offset).drop length :=
    List.drop_drop.symm
  have cut (length : Nat) : options.length < offset + length ↔
      (options.drop offset).length < length := by
    omega
  simp only [← first, ← second, ← link, rest, cut]
  -- From here on only the bytes behind the offset matter.
  generalize options.drop offset = tail at behind ⊢
  -- Two bytes were announced, so a shorter rest contradicts the length.
  rcases tail with _ | ⟨kind, _ | ⟨size, more⟩⟩
  · rw [List.length_nil] at behind
    omega
  · rw [List.length_singleton] at behind
    omega
  · rw [linkOption?]
    rfl

/-- Whatever the options are like, no access to them goes wrong. -/
theorem checkedLinkOption?_eq (wanted : UInt8) (options : Bytes) (offset : Nat) :
    checkedLinkOption? wanted options offset =
      .ok (linkOption? wanted (options.drop offset)) := by
  -- Each option shortens what is left to search.
  generalize left : options.length - offset = room
  induction room using Nat.strongRecOn generalizing offset with
  | ind room ih =>
    rw [checkedLinkOption?]
    by_cases sized : offset + 2 ≤ options.length
    · rw [dif_pos sized, Checked.byte_ok (by omega), Checked.ok_bind, Checked.byte_ok (by omega),
        Checked.ok_bind, linkOption?_drop wanted sized]
      simp only
      generalize (Bytes.byteAt options (offset + 1)).toNat = size
      by_cases stop : size * 8 = 0 ∨ options.length < offset + size * 8
      · rw [dif_pos stop, if_pos stop]
      · -- Any option that is not empty has room for a link-layer address.
        rw [dif_neg stop, if_neg stop, Checked.mac_ok (by omega), ih _ (by omega) _ rfl]
        split
        · rfl
        · rfl
    · have short : (options.drop offset).length < 2 := by
        rw [List.length_drop]
        omega
      rw [dif_neg sized, linkOption?_short wanted short]

/-- Size of a message without its option. -/
def fixedSize : Nat := 24

/-- A message, field by field into an empty one, with its option behind it. -/
def checkedEncode (kind : Icmpv6Type) (flags : UInt8) (target : Address .v6) (option : Bytes) :
    Checked Bytes := do
  let bytes ← Checked.write (Bytes.zeros fixedSize) 0 1 [kind.code]
  let bytes ← Checked.write bytes 4 1 [flags]
  let bytes ← Checked.write bytes 8 16 target.octets
  return bytes ++ option

/-- A message can be built. -/
theorem checkedEncode_eq (kind : Icmpv6Type) (flags : UInt8) (target : Address .v6)
    (option : Bytes) : checkedEncode kind flags target option =
      .ok ([kind.code, 0, 0, 0, flags, 0, 0, 0] ++ target.octets ++ option) := by
  -- Each field is patched into zeros, and the parts are joined once all of them are in place.
  have full : target.octets.length = 16 := Address.octets_length target
  have started : Bytes.patch (Bytes.zeros fixedSize) 0 [kind.code] =
      kind.code :: Bytes.zeros 23 := rfl
  have flagged : Bytes.patch (kind.code :: Bytes.zeros 23) 4 [flags] =
      [kind.code, 0, 0, 0, flags, 0, 0, 0] ++ Bytes.zeros 16 := rfl
  have filled : Bytes.patch ([kind.code, 0, 0, 0, flags, 0, 0, 0] ++ Bytes.zeros 16) 8
      target.octets = [kind.code, 0, 0, 0, flags, 0, 0, 0] ++ target.octets := by
    rw [Bytes.patch, full]
    simp [Bytes.zeros, List.replicate]
  rw [checkedEncode, Checked.write_ok List.length_singleton (by decide), Checked.ok_bind, started,
    Checked.write_ok List.length_singleton (by simp [Bytes.zeros]), Checked.ok_bind, flagged,
    Checked.write_ok full (by simp [Bytes.zeros]), Checked.ok_bind, filled]
  rfl

end Neighbor

namespace NeighborSolicitation

/-- Reads a message body. -/
def checkedParse (body : Bytes) : Checked (Except Error NeighborSolicitation) :=
  if body.length < Neighbor.leastBody then .ok (.error (.tooShort .neighborSolicitation))
  else do
    let target ← Checked.address body 4
    let options ← Checked.rest body 20
    return .ok ⟨target, ← Neighbor.checkedLinkOption? Neighbor.sourceLink options 0⟩

/-- The bytes of the message, with its checksum still zero. -/
def checkedEncode (message : NeighborSolicitation) : Checked Bytes :=
  -- A solicitation has no flags.
  Neighbor.checkedEncode .neighborSolicitation 0 message.target
    (Neighbor.encodeLink Neighbor.sourceLink message.link)

/-- Whatever is read, no access to it goes wrong. -/
theorem checkedParse_eq (body : Bytes) : checkedParse body = .ok (parse body) := by
  rw [checkedParse, parse]
  by_cases short : body.length < Neighbor.leastBody
  · rw [if_pos short, if_pos short]
  have room : 20 ≤ body.length := Nat.le_of_not_lt short
  rw [if_neg short, if_neg short, Checked.address_ok (Nat.le_trans (by decide) room),
    Checked.ok_bind, Checked.rest_ok room, Checked.ok_bind, Neighbor.checkedLinkOption?_eq]
  rfl

/-- A message can be built. -/
theorem checkedEncode_eq (message : NeighborSolicitation) :
    message.checkedEncode = .ok message.encode :=
  Neighbor.checkedEncode_eq ..

end NeighborSolicitation

namespace NeighborAdvertisement

/-- Reads a message body. -/
def checkedParse (body : Bytes) : Checked (Except Error NeighborAdvertisement) :=
  if body.length < Neighbor.leastBody then .ok (.error (.tooShort .neighborAdvertisement))
  else do
    let flags ← Checked.byte body 0
    let target ← Checked.address body 4
    let options ← Checked.rest body 20
    return .ok {
      router := flags &&& 0x80 != 0
      solicited := flags &&& 0x40 != 0
      override := flags &&& 0x20 != 0
      target
      link := ← Neighbor.checkedLinkOption? Neighbor.targetLink options 0 }

/-- The bytes of the message, with its checksum still zero. -/
def checkedEncode (message : NeighborAdvertisement) : Checked Bytes :=
  Neighbor.checkedEncode .neighborAdvertisement message.flags message.target
    (Neighbor.encodeLink Neighbor.targetLink message.link)

/-- Whatever is read, no access to it goes wrong. -/
theorem checkedParse_eq (body : Bytes) : checkedParse body = .ok (parse body) := by
  rw [checkedParse, parse]
  by_cases short : body.length < Neighbor.leastBody
  · rw [if_pos short, if_pos short]
  -- The target ends within the twenty bytes, and the options are whatever comes behind.
  have room : 20 ≤ body.length := Nat.le_of_not_lt short
  rw [if_neg short, if_neg short, Checked.byte_ok (Nat.lt_of_lt_of_le (by decide) room),
    Checked.ok_bind, Checked.address_ok (Nat.le_trans (by decide) room), Checked.ok_bind,
    Checked.rest_ok room, Checked.ok_bind, Neighbor.checkedLinkOption?_eq]
  rfl

/-- A message can be built. -/
theorem checkedEncode_eq (message : NeighborAdvertisement) :
    message.checkedEncode = .ok message.encode :=
  Neighbor.checkedEncode_eq ..

/-- A message has room for a checksum. -/
theorem encode_room (message : NeighborAdvertisement) : 4 ≤ message.encode.length := by
  simp only [encode, List.length_append, List.length_cons]
  omega

end NeighborAdvertisement

namespace ResolutionTraffic

/-- The frame that asks who has a target. -/
def checkedSolicitation {family : Family} (mac : Mac) (target source : Address family) :
    Checked Bytes :=
  match family with
  | .v4 => do
    let question ← (ArpPacket.request mac source target).checkedEncode
    return Frame.encode .broadcast mac .arp question
  | .v6 => do
    let group := target.solicitedNode
    let message ← (NeighborSolicitation.mk target (some mac)).checkedEncode
    let packet ← Icmpv6Message.checkedEncapsulate source group Neighbor.hopLimit message
    return Frame.encode group.multicastMac mac .ipv6 packet

/-- What an ARP packet means to a station that owns the addresses selected by `owns`. -/
def checkedOfArp (mac : Mac) (owns : Address .v4 → Bool) (packet : ArpPacket) :
    Checked (ResolutionTraffic .v4) :=
  match packet.operation with
  | .reply => .ok (answer packet.sender packet.senderMac)
  | .request =>
    if owns packet.target then do
      let reply ←
        (ArpPacket.reply mac packet.target packet.senderMac packet.sender).checkedEncode
      return question (Frame.encode packet.senderMac mac .arp reply)
    else .ok ignored

/-- The frame that answers a solicitation. -/
def checkedAdvertisement (mac sender : Mac) (source : Address .v6)
    (message : NeighborSolicitation) : Checked Bytes := do
  let claim := NeighborAdvertisement.answer message.target mac
  let (claim, destination, destinationMac) :=
    if source = .unspecified then
      ({ claim with solicited := false }, Address.allNodesLink, Address.allNodesLink.multicastMac)
    else (claim, source, message.link.getD sender)
  let reply ← claim.checkedEncode
  let packet ←
    Icmpv6Message.checkedEncapsulate message.target destination Neighbor.hopLimit reply
  return Frame.encode destinationMac mac .ipv6 packet

/-- What a packet from `sender` means to a station that owns the addresses selected by `owns`. -/
def checkedOfPacket (mac : Mac) (owns : Address .v6 → Bool) (sender : Mac) (packet : Ipv6Packet) :
    Checked (ResolutionTraffic .v6) :=
  if packet.chain.upperProtocol ≠ Protocol.icmpv6.number then .ok foreign
  else do
    match Icmpv6Message.parse (← packet.checkedUpperPayload) with
    | .error _ => return foreign
    | .ok message =>
      match Icmpv6Type.ofCode? (← message.checkedKind) with
      | some .neighborSolicitation =>
        if (← packet.checkedHopLimit) ≠ Neighbor.hopLimit then return ignored
        else match ← NeighborSolicitation.checkedParse (← message.checkedBody) with
          | .ok solicitation =>
            if owns solicitation.target then
              return question
                (← checkedAdvertisement mac sender (← packet.checkedSource) solicitation)
            else return ignored
          | .error _ => return ignored
      | some .neighborAdvertisement =>
        if (← packet.checkedHopLimit) ≠ Neighbor.hopLimit then return ignored
        else match ← NeighborAdvertisement.checkedParse (← message.checkedBody) with
          | .ok claim => return answer claim.target (claim.link.getD sender)
          | .error _ => return ignored
      | _ => return foreign

/-- What a frame means to a station that owns the addresses selected by `owns`. -/
def checkedOfFrame {family : Family} (mac : Mac) (owns : Address family → Bool) (frame : Frame) :
    Checked (ResolutionTraffic family) :=
  match family with
  | .v4 =>
    if frame.etherType ≠ EtherType.arp.code then .ok foreign
    else do
      match ← ArpPacket.checkedParse frame.payload with
      | .ok packet => checkedOfArp mac owns packet
      | .error _ => return ignored
  | .v6 =>
    if frame.etherType ≠ EtherType.ipv6.code then .ok foreign
    else do
      match ← Ipv6Packet.checkedParse frame.payload with
      | .ok packet => checkedOfPacket mac owns frame.source packet
      | .error _ => return foreign

/-- A question can be put. -/
theorem checkedSolicitation_eq {family : Family} (mac : Mac) (target source : Address family) :
    checkedSolicitation mac target source = .ok (solicitation mac target source) := by
  cases family with
  | v4 =>
    rw [checkedSolicitation, ArpPacket.checkedEncode_eq]
    rfl
  -- The checksum needs four bytes, which a solicitation has with or without its option.
  | v6 =>
    have room : 4 ≤ (NeighborSolicitation.mk target (some mac)).encode.length := by
      simp only [NeighborSolicitation.encode, List.length_append, List.length_cons]
      omega
    simp only [checkedSolicitation, NeighborSolicitation.checkedEncode_eq, Checked.ok_bind,
      Icmpv6Message.checkedEncapsulate_eq room]
    rfl

/-- An ARP packet can be taken in. -/
theorem checkedOfArp_eq (mac : Mac) (owns : Address .v4 → Bool) (packet : ArpPacket) :
    checkedOfArp mac owns packet = .ok (ofArp mac owns packet) := by
  rw [checkedOfArp, ofArp]
  cases packet.operation with
  | reply => rfl
  -- Only a request for an address of the node is answered.
  | request =>
    simp only [ArpPacket.checkedEncode_eq, Checked.ok_bind]
    split
    · rfl
    · rfl

/-- A solicitation can be answered. -/
theorem checkedAdvertisement_eq (mac sender : Mac) (source : Address .v6)
    (message : NeighborSolicitation) : checkedAdvertisement mac sender source message =
      .ok (advertisement mac sender source message) := by
  simp only [checkedAdvertisement, NeighborAdvertisement.checkedEncode_eq, Checked.ok_bind,
    Icmpv6Message.checkedEncapsulate_eq (NeighborAdvertisement.encode_room _)]
  rfl

/-- A packet can be looked at for questions and answers. -/
theorem checkedOfPacket_eq (mac : Mac) (owns : Address .v6 → Bool) (sender : Mac)
    {packet : Ipv6Packet} (wellFormed : packet.WellFormed) :
    checkedOfPacket mac owns sender packet = .ok (ofPacket mac owns sender packet) := by
  rw [checkedOfPacket, ofPacket, Ipv6Packet.checkedUpperPayload_eq wellFormed]
  by_cases other : packet.chain.upperProtocol ≠ Protocol.icmpv6.number
  · rw [if_pos other, if_pos other]
  rw [if_neg other, if_neg other, Checked.ok_bind]
  cases read : Icmpv6Message.parse packet.upperPayload with
  | error cause => rfl
  | ok message =>
    -- A message that parses has a type and a body.
    have room := Icmpv6Message.parse_room read
    simp only [Icmpv6Message.checkedKind_eq room, Icmpv6Message.checkedBody_eq room,
      Ipv6Packet.checkedHopLimit_eq wellFormed, Ipv6Packet.checkedSource_eq wellFormed,
      NeighborSolicitation.checkedParse_eq, NeighborAdvertisement.checkedParse_eq,
      checkedAdvertisement_eq, Checked.ok_bind]
    cases Icmpv6Type.ofCode? message.kind with
    | none => rfl
    | some kind =>
      -- Only the two messages about neighbors are read any further.
      cases kind with
      | neighborSolicitation =>
        simp only
        split
        · rfl
        · cases NeighborSolicitation.parse message.body with
          | error cause => rfl
          | ok solicitation =>
            simp only
            split
            · rfl
            · rfl
      | neighborAdvertisement =>
        simp only
        split
        · rfl
        · cases NeighborAdvertisement.parse message.body with
          | error cause => rfl
          | ok claim => rfl
      | _ => rfl

/-- A frame can be looked at for questions and answers. -/
theorem checkedOfFrame_eq {family : Family} (mac : Mac) (owns : Address family → Bool)
    (frame : Frame) : checkedOfFrame mac owns frame = .ok (ofFrame mac owns frame) := by
  -- Each family carries its questions and answers in frames of a type of its own.
  cases family with
  | v4 =>
    rw [checkedOfFrame, ofFrame, ArpPacket.checkedParse_eq]
    split
    · rfl
    · rw [Checked.ok_bind]
      cases ArpPacket.parse frame.payload with
      | error cause => rfl
      | ok packet => exact checkedOfArp_eq mac owns packet
  | v6 =>
    rw [checkedOfFrame, ofFrame, Ipv6Packet.checkedParse_eq]
    split
    · rfl
    · rw [Checked.ok_bind]
      cases read : Ipv6Packet.parse frame.payload with
      | error cause => rfl
      | ok packet =>
        exact checkedOfPacket_eq mac owns frame.source (Ipv6Packet.parse_cases read).1

end ResolutionTraffic

namespace Resolver

variable {family : Family} (resolver : Resolver family)

/-- Whether an address is the directed broadcast of an own prefix. -/
def checkedIsDirectedBroadcast (target : Address family) : Checked Bool :=
  if family == .v4 then
    resolver.addresses.anyM fun entry => do
      if !entry.isUnicast then return false
      else match ← entry.checkedNet? with
        | none => return false
        | some net =>
          if net.length < family.bits then return (← net.checkedDirectedBroadcast) == target
          else return false
  else .ok false

/-- The fixed link-layer address of a group. -/
def checkedWellKnown? (target : Address family) : Checked (Option Mac) := do
  if target.isLimitedBroadcast then return some Mac.broadcast
  else if target.isMulticast then return some target.multicastMac
  else if ← resolver.checkedIsDirectedBroadcast target then return some Mac.broadcast
  else return none

/-- What is known without asking. -/
def checkedLookup (now : Nat) (target : Address family) :
    Checked (Option Mac × Resolver family × List Counter) := do
  match ← resolver.checkedWellKnown? target, resolver.cache with
  | some mac, _ => return (some mac, resolver, [])
  | none, none => return (none, resolver, [])
  | none, some cache =>
    let (mac, cache) := cache.get now target
    return (mac, { resolver with cache := some cache },
      if mac.isSome then [.resolutionHits] else [])

/-- The own address to ask from. -/
def checkedSourceFor? (target : Address family) : Checked (Option (Address family)) := do
  let entry ← resolver.addresses.findM? fun entry =>
    if entry.isUnicast then entry.checkedReaches target else .ok false
  return entry.map (·.address)

/-- Begins a turn. -/
def checkedBegin (now : Nat) (call : ResolutionCall family) :
    Checked (Resolver family × List (ResolutionEffect family)) := do
  let (mac, resolver, hits) ← resolver.checkedLookup now call.target
  let (resolver, effects) := match mac with
    | some mac => resolver.conclude call.id (some mac)
    | none => resolver.ask now (.granted call)
  return (resolver, hits.map .tally ++ effects)

/-- Starts a call. -/
def checkedStart (now : Nat) (id : CallId) (target : Address family) :
    Checked (Resolver family × List (ResolutionEffect family)) := do
  let (mac, resolver, hits) ← resolver.checkedLookup now target
  match mac, ← resolver.checkedSourceFor? target with
  | some mac, _ => return (resolver, hits.map .tally ++ [.finish id (some mac)])
  | none, none => return (resolver, [.tally .resolutionFailures, .finish id none])
  | none, some source =>
    let call : ResolutionCall family := ⟨id, target, source⟩
    match resolver.turn with
    | none => resolver.checkedBegin now call
    | some _ => return ({ resolver with waiting := resolver.waiting ++ [call] }, [])

/-- Looks at a call again. -/
def checkedResume (now : Nat) (id : CallId) :
    Checked (Resolver family × List (ResolutionEffect family)) :=
  match resolver.turn with
  | none => .ok (resolver, [])
  | some turn =>
    if turn.call.id ≠ id then .ok (resolver, [])
    else if turn.asked = 0 then resolver.checkedBegin now turn.call
    else match turn.answer with
      | some mac => .ok (resolver.conclude id (some mac))
      | none => .ok (if turn.deadline ≤ now then resolver.ask now turn else (resolver, []))

/-- It can be told whether an address is a directed broadcast. -/
theorem checkedIsDirectedBroadcast_eq (target : Address family) :
    resolver.checkedIsDirectedBroadcast target = .ok (resolver.isDirectedBroadcast target) := by
  rw [checkedIsDirectedBroadcast, isDirectedBroadcast]
  cases family == .v4 with
  | false => rfl
  | true =>
    -- An entry counts if it is a unicast one on a prefix with a broadcast address.
    refine Checked.anyM_ok (fun entry => ?_) _
    rw [entry.checkedNet?_eq, Checked.ok_bind]
    cases entry.isUnicast with
    | false => rfl
    | true =>
      cases entry.net? with
      | none => rfl
      | some net =>
        simp only [net.checkedDirectedBroadcast_eq, Checked.ok_bind, Bool.not_true,
          Bool.false_eq_true, if_false, Bool.true_and, Option.any_some]
        by_cases wide : net.length < family.bits
        · rw [if_pos wide, decide_eq_true wide]
          rfl
        · rw [if_neg wide, decide_eq_false wide]
          rfl

/-- The fixed link-layer address of a group can be told. -/
theorem checkedWellKnown?_eq (target : Address family) :
    resolver.checkedWellKnown? target = .ok (resolver.wellKnown? target) := by
  rw [checkedWellKnown?, resolver.checkedIsDirectedBroadcast_eq, Checked.ok_bind, wellKnown?]
  -- Groups and broadcast addresses are told apart in the same order.
  split
  · rfl
  · split
    · rfl
    · split
      · rfl
      · rfl

/-- What is known without asking can be looked up. -/
theorem checkedLookup_eq (now : Nat) (target : Address family) :
    resolver.checkedLookup now target = .ok (resolver.lookup now target) := by
  rw [checkedLookup, resolver.checkedWellKnown?_eq, Checked.ok_bind, lookup]
  cases resolver.wellKnown? target with
  | some mac => rfl
  | none =>
    cases resolver.cache with
    | none => rfl
    | some cache => rfl

/-- The own address to ask from can be chosen. -/
theorem checkedSourceFor?_eq (target : Address family) :
    resolver.checkedSourceFor? target = .ok (resolver.sourceFor? target) := by
  have near (entry : InterfaceAddress family) :
      (if entry.isUnicast then entry.checkedReaches target else .ok false : Checked Bool) =
        .ok (entry.isUnicast && entry.reaches target) := by
    -- The second test is made only if the first one holds.
    rw [InterfaceAddress.checkedReaches_eq]
    cases entry.isUnicast with
    | false => rfl
    | true => rfl
  rw [checkedSourceFor?, Checked.findM?_ok near]
  rfl

/-- A turn can begin. -/
theorem checkedBegin_eq (now : Nat) (call : ResolutionCall family) :
    resolver.checkedBegin now call = .ok (resolver.begin now call) := by
  rw [checkedBegin, checkedLookup_eq]
  rfl

/-- A call can start. -/
theorem checkedStart_eq (now : Nat) (id : CallId) (target : Address family) :
    resolver.checkedStart now id target = .ok (resolver.start now id target) := by
  -- The look-up is the same one with checks, so both go on with its result.
  rw [checkedStart, checkedLookup_eq, Checked.ok_bind, start]
  obtain ⟨mac, looked, hits⟩ := resolver.lookup now target
  simp only [checkedSourceFor?_eq, Checked.ok_bind]
  cases mac with
  | some mac => rfl
  | none =>
    cases looked.sourceFor? target with
    | none => rfl
    -- A turn begins at once if there is none, and joining one takes no access.
    | some source =>
      cases looked.turn with
      | none => simp only [checkedBegin_eq]
      | some turn => simp only [Checked.pure_eq]

/-- A call can be looked at again. -/
theorem checkedResume_eq (now : Nat) (id : CallId) :
    resolver.checkedResume now id = .ok (resolver.resume now id) := by
  rw [checkedResume, resume]
  cases resolver.turn with
  | none => rfl
  | some turn =>
    -- Looking again accesses nothing unless the turn has to begin anew.
    simp only [checkedBegin_eq]
    split
    · rfl
    · split
      · rfl
      · cases turn.answer with
        | none => rfl
        | some mac => rfl

end Resolver

namespace Adapter

variable {family : Family}

/-- Sorts a received frame. -/
def checkedHear (adapter : Adapter family) (data : Bytes) : Checked (Heard family) := do
  match ← Frame.checkedParse data with
  | .error _ => return .nothing
  | .ok frame =>
    if frame.source = adapter.mac then return .nothing
    else match ← ResolutionTraffic.checkedOfFrame adapter.mac adapter.resolver.owns frame with
      | .foreign =>
        if frame.etherType = (etherType family).code then
          return .packet frame.payload
            (frame.destination == adapter.mac || frame.destination.isMulticast)
        else return .nothing
      | traffic => return .resolution traffic

/-- An adapter sorts every frame without a wrong access. -/
theorem checkedHear_eq (adapter : Adapter family) (data : Bytes) :
    adapter.checkedHear data = .ok (adapter.hear data) := by
  rw [checkedHear, Frame.checkedParse_eq, Checked.ok_bind, hear]
  cases Frame.parse data with
  | error cause => rfl
  -- A frame from the adapter itself is dropped before it is looked into.
  | ok frame =>
    simp only [ResolutionTraffic.checkedOfFrame_eq, Checked.ok_bind]
    by_cases own : frame.source = adapter.mac
    · rw [if_pos own, if_pos own]
      rfl
    rw [if_neg own, if_neg own]
    cases ResolutionTraffic.ofFrame adapter.mac adapter.resolver.owns frame with
    -- What is no question and no answer is a packet if the frame says so.
    | foreign =>
      simp only
      split
      · rfl
      · rfl
    | ignored => rfl
    | question reply => rfl
    | answer address mac => rfl

end Adapter

end NetworkLayer
