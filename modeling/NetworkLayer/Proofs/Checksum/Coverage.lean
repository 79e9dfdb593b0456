import NetworkLayer.Proofs.Alteration
import NetworkLayer.Proofs.Checksum.Accumulation
import NetworkLayer.Proofs.ControlMessage

/-!
What the checksums of the network layer cover: a header or a message alone, a segment with the addresses of its
packet, or an ICMPv6 message with those of its own. Main statement: each of them is summed without loss, it holds for
exactly the multiples of 65535 but zero, and it holds wherever one is written.
-/

namespace NetworkLayer

/-- The addresses of a packet add little to the sum of an ICMPv6 message. -/
theorem Icmpv6Message.pseudoSum_lt {source destination : Address .v6} {length : Nat}
    (short : length ≤ 65535) : pseudoSum source destination length < 0x80000000 := by
  -- Thirty-two bytes of addresses make sixteen words.
  have addresses := Checksum.wordSum_le 0 (source.octets ++ destination.octets)
  rw [List.length_append, Address.octets_length, Address.octets_length] at addresses
  have sixteen : Family.v6.bits / 8 + Family.v6.bits / 8 = 32 := rfl
  have number : Protocol.icmpv6.number.toNat = 58 := rfl
  rw [pseudoSum]
  omega

/-- A message without the word of its checksum counts as much as one with a zero there. -/
theorem Icmpv6Message.wordSum_excise {message : Bytes} (room : 4 ≤ message.length) :
    Checksum.wordSum 0 (Bytes.excise message 2 2) =
      Checksum.wordSum 0 (Bytes.patch message 2 [0, 0]) := by
  -- The first word stands in front of the checksum in both.
  have front : (message.take 2).length = 2 := List.length_take_of_le (by omega)
  have even : (message.take 2).length % 2 = 0 := by rw [front]
  rw [Bytes.excise, Bytes.patch, List.append_assoc, Checksum.wordSum_append even,
    Checksum.wordSum_append even]
  rfl

/-- An ICMPv6 message with its checksum filled in is intact between the addresses that the checksum covers. -/
theorem Icmpv6Message.verifies_stamp {source destination : Address .v6} {message : Bytes}
    (room : 4 ≤ message.length) (short : message.length ≤ 65535) :
    verifies source destination (stamp source destination message) := by
  have few : pseudoSum source destination message.length < 0x80000000 := pseudoSum_lt short
  have cut := Bytes.excise_length message 2 2 room
  have word := Checksum.continued_toNat few
    (show (Bytes.excise message 2 2).length ≤ 65535 by omega)
  -- The checksum is what the other words lack to all ones.
  rw [verifies, stamp_length source destination message room, stamp,
    Checksum.onesSum_patch few short room (by decide), checksum, word, wordSum_excise room,
    Checksum.fold_add_complement]
  rfl

namespace Checksum

/-- What is summed along with a message. -/
inductive Coverage
  /-- Nothing else, as for the header of an IPv4 packet and for an ICMP message. -/
  | alone
  /-- The addresses of the packet, the protocol and the length, as for UDP and TCP. -/
  | segment (source destination : Address .v4) (protocol : UInt8)
  /-- The addresses of the packet, the length and the protocol of ICMPv6. -/
  | icmpv6 (source destination : Address .v6)

namespace Coverage

/-- The terms in front of the words of a message of some length. -/
def front : Coverage → Nat → List Nat
  | alone, _ => []
  | segment source destination protocol, length =>
    words (source.octets ++ destination.octets) ++ [protocol.toNat, length]
  -- The length is a field of two words here, and not of one.
  | icmpv6 source destination, length =>
    words (source.octets ++ destination.octets) ++
      [length % 0x100000000 / 65536, length % 65536, Protocol.icmpv6.number.toNat]

/-- All terms of the sum, in the order in which they are added. -/
def terms (coverage : Coverage) (message : Bytes) : List Nat :=
  coverage.front message.length ++ words message

/-- The terms without the word that holds the checksum of an ICMPv6 message. -/
def termsBut (coverage : Coverage) (message : Bytes) : List Nat :=
  coverage.front message.length ++ (words message).eraseIdx 1

/-- What the sum over a message of some length starts with. -/
def start : Coverage → Nat → Nat
  | alone, _ => 0
  | segment source destination protocol, length =>
    Transport.pseudoSum source destination protocol length
  | icmpv6 source destination, length => Icmpv6Message.pseudoSum source destination length

/-- The folded sum over a message. -/
def folded (coverage : Coverage) (message : Bytes) : Nat :=
  onesSum (coverage.start message.length) message

/-- The folded sum over a message that leaves out its checksum. -/
def foldedBut (coverage : Coverage) (message : Bytes) : Nat :=
  onesSum (coverage.start message.length) (Bytes.excise message 2 2)

/-- Whether the checksum that a message holds is found to be right. -/
def verifies : Coverage → Bytes → Bool
  | alone, message => Checksum.verifies message
  | segment source destination protocol, message =>
    Transport.checksum source destination protocol message == 0
  | icmpv6 source destination, message => Icmpv6Message.verifies source destination message

/-- The messages into which a checksum is written, by each of the operations that write one. -/
inductive Written : Coverage → Bytes → Prop
  /-- Any edit of an IPv4 header ends with a fresh checksum. -/
  | header {packet : Ipv4Packet} (fits : packet.HeaderFits) : Written alone packet.refreshed.header
  | newHeader (draft : Ipv4Draft) : Written alone draft.header
  | icmp {before : IcmpMessage} (room : IcmpMessage.headerSize ≤ before.bytes.length) :
    Written alone before.refreshed.bytes
  | echoRequest (identifier sequence : UInt16) (payload : Bytes) :
    Written alone (IcmpMessage.echoRequest identifier sequence payload)
  | echoReply {request reply : Bytes} (built : IcmpMessage.echoReply request = .ok reply) :
    Written alone reply
  | icmpError (kind : IcmpType) (code : UInt8) (header payload : Bytes) :
    Written alone (IcmpMessage.error kind code header payload)
  | icmpv6 (source destination : Address .v6) {message : Bytes}
    (room : Icmpv6Message.headerSize ≤ message.length) :
    Written (icmpv6 source destination) (Icmpv6Message.stamp source destination message)
  /-- The message is what follows the fixed header of the packet that carries it. -/
  | carried (source destination : Address .v6) (hopLimit : UInt8) {message : Bytes}
    (room : Icmpv6Message.headerSize ≤ message.length) :
    Written (icmpv6 source destination)
      ((Icmpv6Message.encapsulate source destination hopLimit message).drop Ipv6Packet.headerSize)
  | tcp (source destination : Address .v4) {before : TcpSegment}
    (room : TcpSegment.leastHeader ≤ before.bytes.length) :
    Written (segment source destination Protocol.tcp.number)
      (before.refreshed source destination).bytes
  | newTcp (source destination : Address .v4) (sourcePort destinationPort : UInt16)
    (sequence acknowledgment : UInt32) (flags : UInt8) (payload : Bytes) :
    Written (segment source destination Protocol.tcp.number)
      (TcpSegment.encode sourcePort destinationPort sequence acknowledgment flags payload source
        destination)
  /-- A datagram without a checksum is not written one. -/
  | udp (source destination : Address .v4) {before : UdpDatagram}
    (room : UdpDatagram.headerSize ≤ before.bytes.length) (summed : before.checksumField ≠ 0) :
    Written (segment source destination Protocol.udp.number)
      (before.refreshed source destination).bytes
  | newUdp (source destination : Address .v4) (sourcePort destinationPort : UInt16)
    (payload : Bytes) :
    Written (segment source destination Protocol.udp.number)
      (UdpDatagram.encode sourcePort destinationPort payload source destination)

variable (coverage : Coverage) {message : Bytes}

section Sums

/-- The terms in front of a message are what the sum starts with. -/
theorem front_sum (length : Nat) : (coverage.front length).sum = coverage.start length := by
  -- The pseudo headers differ in what they list and not in how they are summed.
  cases coverage with
  | alone => rfl
  | segment source destination protocol =>
    rw [front, start, Transport.pseudoSum, wordSum_eq, List.sum_append]
    simp only [List.sum_cons, List.sum_nil]
    omega
  | icmpv6 source destination =>
    rw [front, start, Icmpv6Message.pseudoSum, wordSum_eq, List.sum_append]
    simp only [List.sum_cons, List.sum_nil]
    omega

/-- The start of a sum is small for a message that is not too long. -/
theorem start_lt {length : Nat} (short : length ≤ 65535) : coverage.start length < 0x80000000 := by
  cases coverage with
  | alone => exact (by decide : 0 < 0x80000000)
  | segment source destination protocol => exact Transport.pseudoSum_lt short
  | icmpv6 source destination => exact Icmpv6Message.pseudoSum_lt short

/-- The exact sum of a message behind what stands in front of it. -/
theorem sum_append_words (length : Nat) (bytes : Bytes) :
    (coverage.front length ++ words bytes).sum = coverage.start length + wordSum 0 bytes := by
  rw [List.sum_append, coverage.front_sum, wordSum_eq, Nat.zero_add]

variable (short : message.length ≤ 65535)
include short

/-- Any bytes that are not too long are summed without loss behind what a message starts with. -/
theorem sums_of_short {bytes : Bytes} (shorter : bytes.length ≤ 65535) :
    SumsExactly (coverage.front message.length ++ words bytes)
      (onesSum (coverage.start message.length) bytes) := by
  have few := coverage.start_lt short
  have fits := wordSum_lt few shorter
  -- No carry is lost, so the folded sum is that of the exact one.
  rw [onesSum_eq few shorter]
  rw [← coverage.sum_append_words] at fits ⊢
  exact sumsExactly fits

/-- The sum over a message is taken without loss. -/
theorem terms_sumsExactly : SumsExactly (coverage.terms message) (coverage.folded message) :=
  coverage.sums_of_short short short

/-- The sum that leaves out the checksum is taken without loss. -/
theorem termsBut_sumsExactly :
    SumsExactly (coverage.termsBut message) (coverage.foldedBut message) := by
  -- The words but one are those of the message without two bytes.
  rw [termsBut, ← words_excise]
  refine coverage.sums_of_short short ?_
  simp only [Bytes.excise, List.length_append, List.length_take, List.length_drop]
  omega

end Sums

section Verification

/-- A checksum is right when all bits of the sum with it are one. -/
theorem verifies_iff_folded : coverage.verifies message ↔ coverage.folded message = 65535 := by
  -- Two of the schemes compare the complement with zero, and one the sum with all ones.
  have small : coverage.folded message < 65536 := fold_lt _
  cases coverage with
  | alone =>
    rw [verifies, Checksum.verifies, beq_iff_eq]
    exact complement_eq_zero_iff small
  | segment source destination protocol =>
    rw [verifies, beq_iff_eq]
    exact complement_eq_zero_iff small
  | icmpv6 source destination =>
    rw [verifies, Icmpv6Message.verifies, beq_iff_eq]
    rfl

/-- A checksum is right when the exact sum with it is a multiple of 65535, unless that sum is zero. -/
theorem verifies_iff (short : message.length ≤ 65535) :
    coverage.verifies message ↔
      0 < (coverage.terms message).sum ∧ 65535 ∣ (coverage.terms message).sum := by
  rw [verifies_iff_folded, folded, onesSum_eq (coverage.start_lt short) short,
    ← coverage.sum_append_words]
  exact fold_eq_all_ones_iff

end Verification

section Writing

variable {coverage}

/-- A stamp at an even offset is found to be right. -/
theorem alone_verifies_stamp {bytes : Bytes} {offset : Nat} (fits : offset + 2 ≤ bytes.length)
    (even : offset % 2 = 0) (short : (stamp bytes offset).length ≤ 65535) :
    alone.verifies (stamp bytes offset) := by
  rw [stamp_length fits] at short
  exact Checksum.verifies_stamp fits even short

/-- A stamp of a segment at an even offset is found to be right, if what is written counts as much as the checksum. -/
theorem segment_verifies_stamp {source destination : Address .v4} {protocol : UInt8} {bytes : Bytes}
    {offset : Nat} {replacing : UInt16 → UInt16} (fits : offset + 2 ≤ bytes.length)
    (even : offset % 2 = 0)
    (short : (Transport.stamp source destination protocol offset bytes replacing).length ≤ 65535)
    (equal : ∀ word, (replacing word).toNat % 65535 = word.toNat % 65535) :
    (segment source destination protocol).verifies
      (Transport.stamp source destination protocol offset bytes replacing) := by
  rw [Transport.stamp_length fits] at short
  rw [verifies, Transport.checksum_stamp fits even short equal]
  rfl

/-- A checksum that is written is found to be right. -/
theorem Written.verifies (written : coverage.Written message) (short : message.length ≤ 65535) :
    coverage.verifies message := by
  -- Every writer stamps a message with room for the checksum, each at an offset of its own.
  cases written with
  | header fits =>
    rw [Ipv4Packet.refreshed_header fits] at short ⊢
    exact alone_verifies_stamp (Ipv4Packet.checksum_within fits) (by decide) short
  | newHeader draft =>
    exact draft.header_verifies
  | icmp room =>
    have fits : 8 ≤ _ := room
    exact alone_verifies_stamp (Nat.le_trans (by decide) fits) (by decide) short
  | echoRequest identifier sequence payload =>
    refine alone_verifies_stamp ?_ (by decide) short
    simp [IcmpMessage.checksumOffset]
  | echoReply built =>
    -- A reply is made only of a request that has room for a header.
    simp only [IcmpMessage.echoReply] at built
    split at built
    · cases built
    · rename_i long
      cases built
      have room : 8 ≤ _ := Nat.not_lt.mp long
      refine alone_verifies_stamp ?_ (by decide) short
      rw [Bytes.patch_byte_length (by omega)]
      exact Nat.le_trans (by decide) room
  | icmpError kind code header payload =>
    exact alone_verifies_stamp (IcmpMessage.error_room kind code header payload) (by decide) short
  | icmpv6 source destination room =>
    rw [Icmpv6Message.stamp_length source destination _ room] at short
    exact Icmpv6Message.verifies_stamp room short
  | carried source destination hopLimit room =>
    rw [Icmpv6Message.encapsulate_drop] at short ⊢
    rw [Icmpv6Message.stamp_length source destination _ room] at short
    exact Icmpv6Message.verifies_stamp room short
  | tcp source destination room =>
    have fits : 20 ≤ _ := room
    refine segment_verifies_stamp (Nat.le_trans (by decide) fits) (by decide) short ?_
    intro word
    rfl
  | newTcp source destination sourcePort destinationPort sequence acknowledgment flags payload =>
    refine segment_verifies_stamp ?_ (by decide) short ?_
    · simp only [TcpSegment.checksumOffset, List.length_append, Bytes.ofWord_length,
        Bytes.ofValue_length, List.length_cons, List.length_nil]
      omega
    · intro word
      rfl
  | udp source destination room summed =>
    -- All ones in place of zero count as much as the zero would.
    have fits : 8 ≤ _ := room
    rw [UdpDatagram.refreshed, if_neg summed] at short ⊢
    exact segment_verifies_stamp fits (by decide) short UdpDatagram.nonzero_mod
  | newUdp source destination sourcePort destinationPort payload =>
    exact segment_verifies_stamp (UdpDatagram.checksum_within ..) (by decide) short
      UdpDatagram.nonzero_mod

/-- The checksum that is written into a datagram is not the zero that stands for none. -/
theorem Written.checksumField_ne_zero {source destination : Address .v4} {protocol : UInt8}
    (written : (segment source destination protocol).Written message)
    (datagram : protocol = Protocol.udp.number) :
    Bytes.wordAt message UdpDatagram.checksumOffset ≠ 0 := by
  have apart : Protocol.tcp.number ≠ Protocol.udp.number := by decide
  -- The word that is read is the one that was written last.
  have read {bytes : Bytes} (fits : UdpDatagram.checksumOffset + 2 ≤ bytes.length) :
      Bytes.wordAt (Transport.stamp source destination Protocol.udp.number
        UdpDatagram.checksumOffset bytes UdpDatagram.nonzero) UdpDatagram.checksumOffset ≠ 0 := by
    rw [Transport.wordAt_stamp fits]
    exact UdpDatagram.nonzero_ne_zero _
  cases written with
  | tcp => exact absurd datagram apart
  | newTcp => exact absurd datagram apart
  | udp _ _ room summed =>
    rw [UdpDatagram.refreshed, if_neg summed]
    exact read room
  | newUdp _ _ sourcePort destinationPort payload =>
    exact read (UdpDatagram.checksum_within sourcePort destinationPort payload)

end Writing

/--
Every checksum of a message of 65535 bytes at most is summed without loss in 32 bits, is right for exactly the
multiples of 65535 but zero, and is right wherever it is written.

A datagram never gets the zero that stands for none.
-/
theorem checksums_exact (short : message.length ≤ 65535) :
    (SumsExactly (coverage.terms message) (coverage.folded message) ∧
      SumsExactly (coverage.termsBut message) (coverage.foldedBut message)) ∧
    (coverage.verifies message ↔
      0 < (coverage.terms message).sum ∧ 65535 ∣ (coverage.terms message).sum) ∧
    (coverage.Written message → coverage.verifies message ∧
      ∀ source destination, coverage = segment source destination Protocol.udp.number →
        Bytes.wordAt message UdpDatagram.checksumOffset ≠ 0) := by
  refine ⟨⟨coverage.terms_sumsExactly short, coverage.termsBut_sumsExactly short⟩,
    coverage.verifies_iff short, ?_⟩
  -- A written field verifies, and that of a datagram is not zero.
  intro written
  refine ⟨written.verifies short, ?_⟩
  intro source destination covers
  subst covers
  exact written.checksumField_ne_zero rfl

/-- A datagram between two unspecified addresses whose other words add up to all ones. -/
def allOnes : Bytes :=
  UdpDatagram.encode 0 65502 [] .unspecified .unspecified

/-- Where the checksum comes to zero, all ones are written in its place, and it is found to be right. -/
theorem allOnes_exact :
    allOnes.length ≤ 65535 ∧ Bytes.wordAt allOnes UdpDatagram.checksumOffset = 0xFFFF ∧
      (segment .unspecified .unspecified Protocol.udp.number).verifies allOnes ∧
      ((segment .unspecified .unspecified Protocol.udp.number).terms allOnes).sum = 2 * 65535 := by
  have short : allOnes.length ≤ 65535 := by decide
  have sound := checksums_exact (segment .unspecified .unspecified Protocol.udp.number) short
  exact ⟨short, by decide +kernel, (sound.2.2 (.newUdp ..)).1, by decide +kernel⟩

end Coverage

end Checksum

end NetworkLayer
