import NetworkLayer.Node.Configuration
import NetworkLayer.Proofs.Checksum.Coverage
import NetworkLayer.Proofs.Reception.Answers
import NetworkLayer.Proofs.SegmentDescent

/-!
Echo requests that a node delivers. Main statements: a request of eight bytes is answered by one echo with its
identifier, sequence number and data and with checksums that hold; and the flag against requests to groups silences a
node of IPv4, while one of IPv6 answers in spite of it.
-/

namespace NetworkLayer

variable {family : Family}

namespace Packet

section Request

/-- A request for an echo that has an identifier and a sequence number. -/
structure AsksEcho (packet : Packet family) : Prop where
  control : packet.upperProtocol = controlProtocol family
  kind : packet.upperPayload.head? = some (requestType family)
  room : 8 ≤ packet.upperPayload.length

/-- A request for an echo is read as one. -/
theorem AsksEcho.controlMessage {packet : Packet family} (asks : packet.AsksEcho) :
    packet.controlMessage = .echoRequest := by
  have control : packet.isControl = true := beq_iff_eq.mpr asks.control
  have kind := Bytes.byteAt_of_head? asks.kind
  have room := asks.room
  -- The families differ in where they look for the type and in how short a message may be.
  cases family with
  | v4 =>
    have long : ¬ packet.upperPayload.length < IcmpMessage.headerSize := Nat.not_lt.mpr room
    have request : (IcmpMessage.mk packet.upperPayload).isEchoRequest = true :=
      beq_iff_eq.mpr kind
    simp only [Packet.controlMessage, control, Bool.not_true, Bool.false_eq_true, if_false,
      IcmpMessage.parse, if_neg long, request, if_true]
  | v6 =>
    have long : ¬ packet.upperPayload.length < Icmpv6Message.headerSize :=
      Nat.not_lt.mpr (Nat.le_trans (by decide) room)
    have request : (Icmpv6Message.mk packet.upperPayload).isEchoRequest = true :=
      beq_iff_eq.mpr kind
    simp only [Packet.controlMessage, control, Bool.not_true, Bool.false_eq_true, if_false,
      Icmpv6Message.parse, if_neg long, request, if_true]

end Request

section Reply

/-- Whether the checksum of a control message holds; in IPv6 it covers the addresses of the packet, too. -/
def messageVerifies {family : Family} (packet : Packet family) : Bool :=
  match family, packet with
  | .v4, packet => (IcmpMessage.mk (Ipv4Packet.payload packet)).verifies
  | .v6, packet => Icmpv6Message.verifies (Ipv6Packet.source packet)
      (Ipv6Packet.destination packet) (Ipv6Packet.upperPayload packet)

/-- An echo that has all that the request for it wants to have back. -/
structure FaithfulEcho (source : Address family) (request reply : Packet family) : Prop extends
    Echoes source request reply where
  identifier : Bytes.wordAt reply.upperPayload 4 = Bytes.wordAt request.upperPayload 4
  sequence : Bytes.wordAt reply.upperPayload 6 = Bytes.wordAt request.upperPayload 6
  data : reply.upperPayload.drop 8 = request.upperPayload.drop 8
  headerVerifies : reply.headerVerifies = true
  messageVerifies : reply.messageVerifies = true

/-- The checksums of an IPv4 echo hold. -/
theorem echoReply?_verifies_v4 {request reply : Packet .v4} (wellFormed : request.WellFormed)
    (room : 8 ≤ request.upperPayload.length) {source : Address .v4}
    (made : request.echoReply? source = some reply) :
    reply.headerVerifies = true ∧ reply.messageVerifies = true := by
  have limit : request.upperPayload.length ≤ 65515 := Ipv4Packet.WellFormed.payload_short wellFormed
  obtain ⟨message, built, length, -, -⟩ := IcmpMessage.echoReply_of_room room
  have short : message.length ≤ 65535 := by omega
  have checked := (Checksum.Coverage.Written.echoReply built).verifies short
  simp only [echoReply?, built, Except.toOption, Option.bind_eq_bind, Option.bind_some,
    Option.pure_def, Option.some.injEq] at made
  subst made
  have payload := (carrying_message source request.source
    (show 20 + message.length < 65536 by omega)).2
  refine ⟨Ipv4Draft.toPacket_headerVerifies _, ?_⟩
  -- The message that was built is what the packet carries.
  show (IcmpMessage.mk (carrying source request.source message).upperPayload).verifies = true
  rw [payload]
  exact checked

/-- The checksum of an IPv6 echo holds for the addresses of the echo itself. -/
theorem echoReply?_verifies_v6 {request reply : Packet .v6} (wellFormed : request.WellFormed)
    (room : 8 ≤ request.upperPayload.length) {source : Address .v6}
    (made : request.echoReply? source = some reply) :
    reply.headerVerifies = true ∧ reply.messageVerifies = true := by
  have limit : request.upperPayload.length ≤ 65535 :=
    Ipv6Packet.WellFormed.upperPayload_short wellFormed
  obtain ⟨message, built, length, -, -⟩ := Icmpv6Message.echoReply_of_room room
  have fits : 4 ≤ message.length := by omega
  have short : message.length ≤ 65535 := by omega
  obtain ⟨carrier, encapsulated, carried, payload⟩ :=
    carryingV6?_message source request.source fits (by omega)
  simp only [echoReply?, built, Except.toOption, Option.bind_eq_bind, Option.bind_some] at made
  obtain rfl : carrier = reply := Option.some.inj (encapsulated.symm.trans made)
  refine ⟨rfl, ?_⟩
  -- The checksum was written for the two addresses that the echo goes between.
  show Icmpv6Message.verifies carrier.source carrier.destination carrier.upperPayload = true
  rw [carried.source, carried.destination, payload]
  exact Icmpv6Message.verifies_stamp fits short

/-- The echo of a request that has an identifier and a sequence number is faithful to it. -/
theorem echoReply?_faithful {request : Packet family} (wellFormed : request.WellFormed)
    (room : 8 ≤ request.upperPayload.length) (source : Address family) :
    ∃ reply, request.echoReply? source = some reply ∧ FaithfulEcho source request reply := by
  obtain ⟨reply, made, echoes⟩ := echoReply?_echoes wellFormed room source
  have checked : reply.headerVerifies = true ∧ reply.messageVerifies = true := by
    cases family with
    | v4 => exact echoReply?_verifies_v4 wellFormed room made
    | v6 => exact echoReply?_verifies_v6 wellFormed room made
  -- All that goes back stands behind the checksum of the message.
  have data := congrArg (List.drop 4) echoes.content
  rw [List.drop_drop, List.drop_drop] at data
  exact ⟨reply, made, echoes, Bytes.wordAt_of_drop echoes.content (by decide),
    Bytes.wordAt_of_drop echoes.content (by decide), data, checked.1, checked.2⟩

end Reply

end Packet

/-- Whether a node originates nothing: nothing is sent, and no answer is counted. -/
structure Reaction.Silent (reaction : Reaction family) : Prop where
  nothing : reaction.sendings = []
  unanswered : reaction.answers = []

/-- Counting more that is no answer breaks no silence. -/
theorem Reaction.silent_after_iff {reaction : Reaction family} {tallies : List Tally}
    (others : tallies.filterMap Tally.answer? = []) :
    (reaction.after tallies).Silent ↔ reaction.Silent := by
  have same := reaction.after_answers_of_none others
  constructor
  · intro silent
    exact ⟨silent.nothing, same.symm.trans silent.unanswered⟩
  · intro silent
    exact ⟨silent.nothing, same.trans silent.unanswered⟩

namespace Station

section Delivery

/-- The packets that a node delivers, each with the one that it takes in: a router visits own segments in between. -/
inductive Arrives (station : Station family) : Packet family → Packet family → Prop
  /-- A host delivers the packet as it is. -/
  | host {packet : Packet family} (host : station.node.settings.forwarding = false) :
    Arrives station packet packet
  | arrived {packet : Packet family} (router : station.node.settings.forwarding = true)
    (visited : packet.visitSegment = .arrived) : Arrives station packet packet
  /-- The next segment is an address of the node, too. -/
  | stays {packet onward last : Packet family} (router : station.node.settings.forwarding = true)
    (visited : packet.visitSegment = .onward onward)
    (own : station.hasAddress onward.destination = true) (rest : Arrives station onward last) :
    Arrives station packet last

/-- Whether a node delivers a packet of a byte string: it is read and let in, it is for the node, and it arrives. -/
def Delivers (station : Station family) (policy : Policy family) (now : Nat)
    (ingress : InterfaceId) (data : Bytes) (last : Packet family) : Prop :=
  ∃ entered, station.admitted? policy now ingress data = some entered ∧
    (station.receive policy now ingress data).2.classify (station.hasAddress entered.destination)
      station.node.settings.forwarding = .deliver ∧ station.Arrives entered last

variable {station : Station family} {policy : Policy family} {now : Nat} {ingress : InterfaceId}
  {data : Bytes} {packet last : Packet family}

/-- A packet that arrives is well formed as the one that was taken in is. -/
theorem Arrives.wellFormed (arrives : station.Arrives packet last)
    (wellFormed : packet.WellFormed) : last.WellFormed := by
  -- The induction is on the visits, each of which leaves a well-formed packet.
  induction arrives with
  | host => exact wellFormed
  | arrived => exact wellFormed
  | stays _ visited _ _ ih => exact ih (Packet.onward_alike wellFormed visited).wellFormed

/-- Taking in a packet that arrives leads to its delivery. -/
theorem Arrives.takesIn (arrives : station.Arrives packet last) :
    station.TakesIn policy ingress packet (station.deliver policy ingress last) := by
  -- Of the ways to take a packet in, these are the ones that end with a delivery.
  induction arrives with
  | host host => exact .host host
  | arrived router visited => exact .arrived router visited
  | stays router visited own _ ih => exact .stays router visited own ih

/-- The limit on the visits does not keep a packet from its delivery. -/
theorem Arrives.takeIn (arrives : station.Arrives packet last) (wellFormed : packet.WellFormed) :
    station.takeIn policy ingress packet.visitLimit packet = station.deliver policy ingress last :=
  (station.takeIn_takesIn policy ingress wellFormed packet.visitsLeft_lt).unique arrives.takesIn

/-- What comes of a byte string is what comes of the packet that is delivered, but for some counts that are of no
answer. -/
theorem Delivers.receive (delivers : station.Delivers policy now ingress data last) :
    last.WellFormed ∧ ∃ tallies, tallies.filterMap Tally.answer? = [] ∧
      (station.receive policy now ingress data).1 =
        (station.deliver (station.receive policy now ingress data).2 ingress last).after tallies := by
  obtain ⟨entered, admitted, verdict, arrives⟩ := delivers
  obtain ⟨packet, read, alike, passed⟩ := station.admitted?_alike policy now ingress admitted
  refine ⟨arrives.wellFormed alike.wellFormed, ?_⟩
  -- The policy counts first, and its verdict comes after it.
  simp only [Station.receive, read, passed] at verdict ⊢
  refine ⟨_, ?_, congrArg (Reaction.after · _) ?_⟩
  · exact policy.receive_answers now station.hasAddress ingress packet
  · rw [dispatch, verdict]
    exact arrives.takeIn alike.wellFormed

end Delivery

section Answer

/-- The address that a node answers a request from. -/
inductive AnswersFrom (station : Station family) (ingress : InterfaceId) (request : Packet family) :
    Address family → Prop
  /-- A request to a unicast address of the node is answered from there. -/
  | own (own : station.ownsUnicast request.destination = true) :
    AnswersFrom station ingress request request.destination
  /-- Any other one is answered from the first unicast address of the interface that it came in on, unless an IPv4
  node discards it. -/
  | group {source : Address family} (elsewhere : station.ownsUnicast request.destination = false)
    (answers : family = .v4 → station.node.settings.discardsGroupEcho = false)
    (first : (station.interfaces.at ingress).firstUnicast? = some source) :
    AnswersFrom station ingress request source

variable {station : Station family} {policy : Policy family} {now : Nat} {ingress : InterfaceId}
  {data : Bytes} {packet request : Packet family} {source : Address family}

/-- A request is answered by the echo that is made for it. -/
theorem AnswersFrom.answerEcho (answers : station.AnswersFrom ingress request source)
    {reply : Packet family} (made : request.echoReply? source = some reply) :
    station.answerEcho ingress request = (station.send reply).2.after [.one .echoReplies] := by
  -- From an own address the reply has that source. For a group it is the first unicast address of the
  -- interface.
  cases answers with
  | own own => simp only [Station.answerEcho, if_pos own, Option.bind_some, made]
  | group elsewhere answers first =>
    have kept : (family == .v4 && station.node.settings.discardsGroupEcho) = false := by
      cases family with
      | v4 => exact (Bool.true_and _).trans (answers rfl)
      | v6 => rfl
    simp only [Station.answerEcho, elsewhere, kept, Bool.false_eq_true, if_false, first,
      Option.bind_some, made]

/-- A request that is delivered is answered by a faithful echo and by nothing else. -/
theorem deliver_echo (policy : Policy family) (wellFormed : request.WellFormed) (asks : request.AsksEcho)
    (answers : station.AnswersFrom ingress request source) :
    ∃ reply, Packet.FaithfulEcho source request reply ∧
      station.deliver policy ingress request =
        (station.send reply).2.after [.one .packetsDelivered, .one .echoReplies] := by
  obtain ⟨reply, made, faithful⟩ := Packet.echoReply?_faithful wellFormed asks.room source
  refine ⟨reply, faithful, ?_⟩
  simp only [deliver, asks.controlMessage, answers.answerEcho made]
  rfl

/-- A request that a node delivers is answered by one echo, which goes to where the request came from and has its
identifier, its sequence number and its data.

All that comes of the request is what comes of sending the echo, but for counts. -/
theorem echo_answered (delivers : station.Delivers policy now ingress data request)
    (asks : request.AsksEcho) (answers : station.AnswersFrom ingress request source) :
    ∃ reply tallies, Packet.FaithfulEcho source request reply ∧
      (station.receive policy now ingress data).1 = (station.send reply).2.after tallies ∧
      tallies.filterMap Tally.answer? = [.echoReplies] := by
  -- The request is delivered after some visits, whose tallies stand in front of those of the answer.
  obtain ⟨wellFormed, before, others, result⟩ := delivers.receive
  obtain ⟨reply, faithful, delivered⟩ :=
    deliver_echo (station.receive policy now ingress data).2 wellFormed asks answers
  refine ⟨reply, before ++ [.one .packetsDelivered, .one .echoReplies], faithful, ?_, ?_⟩
  · rw [result, delivered]
    simp only [Reaction.after, List.append_assoc]
  · rw [List.filterMap_append, others]
    rfl

/-- A host with the address `2001:db8:1::1`, which is set up to discard requests to groups. -/
def listener : Station .v6 :=
  (Station.attach {
    node := .create { discardsGroupEcho := true } 0
    interfaces := ⟨[(0, .loopback),
      (1, .onLink 0 (some (.unicast (.ofNat (0x20010DB80001 <<< 80 + 1)) 64)))]⟩ } 0 1).1

/-- A request from `2001:db8:1::2` to all nodes, with options in front, one byte of data and a wrong checksum. -/
def calling : Packet .v6 := Ipv6Packet.mk
  ([0x60, 0, 0, 0, 0, 17, 60, 64] ++
    [0x20, 0x01, 0x0D, 0xB8, 0, 1, 0, 0, 0, 0, 0, 0, 0, 0, 0, 2] ++
    [0xFF, 0x02, 0, 0, 0, 0, 0, 0, 0, 0, 0, 0, 0, 0, 0, 1] ++
    [58, 0, 1, 4, 0, 0, 0, 0] ++
    [128, 0, 0xAA, 0xBB, 0x12, 0x34, 0, 7, 0x70])
  ⟨[⟨60, 40, 8, 6⟩], 58, 48⟩

/-- The host delivers the request as it is. -/
theorem calling_delivers : listener.Delivers .plain 0 1 calling.bytes calling := by
  have read : Packet.parse .v6 calling.bytes = .ok calling := by cbv
  have admitted : listener.admitted? .plain 0 1 calling.bytes = some calling := by
    rw [admitted?, read]
    rfl
  exact ⟨calling, admitted, by decide +kernel, .host rfl⟩

/-- The request to all nodes is answered from the address of the interface that it came in on. -/
theorem calling_answered :
    listener.Delivers .plain 0 1 calling.bytes calling ∧ calling.AsksEcho ∧
      listener.AnswersFrom 1 calling (.ofNat (0x20010DB80001 <<< 80 + 1)) ∧
      ∃ reply tallies,
        Packet.FaithfulEcho (.ofNat (0x20010DB80001 <<< 80 + 1)) calling reply ∧
          (listener.receive .plain 0 1 calling.bytes).1 = (listener.send reply).2.after tallies ∧
          tallies.filterMap Tally.answer? = [.echoReplies] := by
  have asks : calling.AsksEcho := ⟨rfl, rfl, by decide⟩
  -- The group is none of its own addresses, and its interface has a unicast one.
  have answers : listener.AnswersFrom 1 calling (.ofNat (0x20010DB80001 <<< 80 + 1)) := by
    refine .group (by decide +kernel) ?_ (by decide +kernel)
    intro other
    cases other
  exact ⟨calling_delivers, asks, answers, echo_answered calling_delivers asks answers⟩

end Answer

section Discard

variable {station : Station family} {policy : Policy family} {now : Nat} {ingress : InterfaceId}
  {data : Bytes} {entered request : Packet family}

/-- An IPv4 node that is set up to discard requests to groups does so. -/
theorem answerEcho_discarded {station : Station .v4} {request : Packet .v4}
    (flag : station.node.settings.discardsGroupEcho = true)
    (elsewhere : station.ownsUnicast request.destination = false) :
    station.answerEcho ingress request = {} := by
  simp only [answerEcho, elsewhere, flag, Bool.false_eq_true, if_false, Bool.and_true,
    beq_self_eq_true, if_true, Option.bind_none]

/-- A request is not answered where there is no address to answer from. -/
theorem answerEcho_of_no_address (elsewhere : station.ownsUnicast request.destination = false)
    (none : (station.interfaces.at ingress).firstUnicast? = none) :
    station.answerEcho ingress request = {} := by
  -- Without an address it makes no difference what is to be discarded.
  simp only [answerEcho, elsewhere, none, Bool.false_eq_true, if_false, ite_self, Option.bind_none]

/-- A request without an identifier and a sequence number is not answered. -/
theorem answerEcho_of_short (short : request.upperPayload.length < 8) :
    station.answerEcho ingress request = {} := by
  have none (source : Option (Address family)) : source.bind request.echoReply? = none := by
    cases source with
    | none => rfl
    | some source => exact Packet.echoReply?_of_short short source
  simp only [answerEcho, none]

/-- Where requests to groups are to be discarded, one is left without an answer in IPv4, without an address to answer
from, or without an identifier and a sequence number, and in no other case. -/
theorem answerEcho_silent_iff (wellFormed : request.WellFormed)
    (flag : station.node.settings.discardsGroupEcho = true)
    (elsewhere : station.ownsUnicast request.destination = false) :
    (station.answerEcho ingress request).Silent ↔
      family = .v4 ∨ (station.interfaces.at ingress).firstUnicast? = none ∨
        request.upperPayload.length < 8 := by
  -- Silence leaves only the three causes, as an echo that is made is counted.
  constructor
  · intro silent
    cases family with
    | v4 => exact .inl rfl
    | v6 =>
      refine .inr ?_
      cases first : (station.interfaces.at ingress).firstUnicast? with
      | none => exact .inl rfl
      | some source =>
        refine .inr (Nat.lt_of_not_le fun room => ?_)
        -- With an address and with room an echo is made, and it is counted.
        obtain ⟨reply, made, -⟩ := Packet.echoReply?_faithful wellFormed room source
        have answers : station.AnswersFrom ingress request source :=
          .group elsewhere (fun other => by cases other) first
        have counted := silent.unanswered
        rw [answers.answerEcho made, Reaction.after_answers] at counted
        cases counted
  · intro cause
    have nothing : station.answerEcho ingress request = {} := by
      rcases cause with same | none | short
      · subst same
        exact answerEcho_discarded flag elsewhere
      · exact answerEcho_of_no_address elsewhere none
      · exact answerEcho_of_short short
    rw [nothing]
    exact ⟨rfl, rfl⟩

/-- A packet to a group that is not delivered leads to nothing. -/
theorem receive_group_silent (admitted : station.admitted? policy now ingress data = some entered)
    (group : entered.destination.isGroup = true)
    (other : (station.receive policy now ingress data).2.classify
      (station.hasAddress entered.destination) station.node.settings.forwarding ≠ .deliver) :
    (station.receive policy now ingress data).1.Silent := by
  -- A packet to a group is not forwarded, so what is not delivered is dropped.
  obtain ⟨packet, read, -, passed⟩ := station.admitted?_alike policy now ingress admitted
  simp only [Station.receive, read, passed] at other ⊢
  refine (Reaction.silent_after_iff ?_).mpr ?_
  · exact policy.receive_answers now station.hasAddress ingress packet
  · rw [dispatch]
    split
    · contradiction
    · rw [station.forward_group _ group]
      exact ⟨rfl, rfl⟩
    · exact ⟨rfl, rfl⟩

/-- What is set up for both families silences a node of IPv4 alone: a request that is delivered at an address that is
no unicast one of the node is answered in IPv6 as ever. What is not delivered is answered in neither. -/
theorem discardsGroupEcho_iff (flag : station.node.settings.discardsGroupEcho = true) :
    (∀ request, station.Delivers policy now ingress data request →
      request.controlMessage = .echoRequest → station.ownsUnicast request.destination = false →
      ((station.receive policy now ingress data).1.Silent ↔
        family = .v4 ∨ (station.interfaces.at ingress).firstUnicast? = none ∨
          request.upperPayload.length < 8)) ∧
    ∀ entered, station.admitted? policy now ingress data = some entered →
      entered.destination.isGroup = true →
      (station.receive policy now ingress data).2.classify
        (station.hasAddress entered.destination) station.node.settings.forwarding ≠ .deliver →
      (station.receive policy now ingress data).1.Silent := by
  refine ⟨?_, fun entered admitted group other => receive_group_silent admitted group other⟩
  intro request delivers asks elsewhere
  obtain ⟨wellFormed, tallies, others, result⟩ := delivers.receive
  have delivered (after : Policy family) : station.deliver after ingress request =
      (station.answerEcho ingress request).after [.one .packetsDelivered] := by
    simp only [deliver, asks]
  -- Beside the answer there are counts alone.
  rw [result, delivered, Reaction.silent_after_iff others, Reaction.silent_after_iff rfl]
  exact answerEcho_silent_iff wellFormed flag elsewhere

/-- The IPv6 host answers the request to all nodes, although it is set up to discard it. -/
theorem calling_not_discarded :
    listener.node.settings.discardsGroupEcho = true ∧
      listener.Delivers .plain 0 1 calling.bytes calling ∧
      calling.controlMessage = .echoRequest ∧ listener.ownsUnicast calling.destination = false ∧
      (listener.receive .plain 0 1 calling.bytes).1.answers = [.echoReplies] ∧
      (listener.receive .plain 0 1 calling.bytes).1.sendings.map (·.nextHop) = [calling.source] ∧
      ¬ (listener.receive .plain 0 1 calling.bytes).1.Silent := by
  have counted : (listener.receive .plain 0 1 calling.bytes).1.answers = [.echoReplies] := by
    decide +kernel
  refine ⟨rfl, calling_delivers, rfl, by decide +kernel, counted, by decide +kernel, ?_⟩
  intro silent
  cases counted.symm.trans silent.unanswered

/-- A host with the address `10.0.0.1/24`, which is set up to discard requests to groups. -/
def broadcastListener : Station .v4 :=
  (Station.attach {
    node := .create { discardsGroupEcho := true } 0
    interfaces := ⟨[(0, .loopback), (1, .onLink 0 (some (.unicast (.ofNat 0x0A000001) 24)))]⟩ } 0 1).1

/-- A request from `10.0.0.2` to all of `10.0.0.0/24`. -/
def broadcastCall : Packet .v4 := Ipv4Packet.mk
  ([0x45, 0, 0, 28, 0, 0, 0, 0, 64, 1, 0, 0, 10, 0, 0, 2, 10, 0, 0, 255] ++
    [8, 0, 0, 0, 0x12, 0x34, 0, 7])
  20

/-- The IPv4 host discards the request to its broadcast address. -/
theorem broadcastCall_discarded :
    broadcastListener.node.settings.discardsGroupEcho = true ∧
      broadcastListener.Delivers .plain 0 1 broadcastCall.bytes broadcastCall ∧
      broadcastCall.controlMessage = .echoRequest ∧
      broadcastListener.ownsUnicast broadcastCall.destination = false ∧
      (broadcastListener.receive .plain 0 1 broadcastCall.bytes).1.Silent := by
  have read : Packet.parse .v4 broadcastCall.bytes = .ok broadcastCall := by cbv
  have admitted : broadcastListener.admitted? .plain 0 1 broadcastCall.bytes = some broadcastCall := by
    rw [admitted?, read]
    rfl
  have delivers : broadcastListener.Delivers .plain 0 1 broadcastCall.bytes broadcastCall :=
    ⟨broadcastCall, admitted, by decide +kernel, .host rfl⟩
  -- The directed broadcast address is no unicast address of the host.
  have elsewhere : broadcastListener.ownsUnicast broadcastCall.destination = false := by
    decide +kernel
  exact ⟨rfl, delivers, rfl, elsewhere,
    ((discardsGroupEcho_iff rfl).1 broadcastCall delivers rfl elsewhere).mpr (.inl rfl)⟩

end Discard

end Station

end NetworkLayer
