import NetworkLayer.Proofs.Reception
import NetworkLayer.Proofs.Translation.Datagram

/-!
Packets whose hops are used up at a translator. A router with a translator gives a packet its external source
before it looks at the hops that are left. Main statement: the report goes to the external address, so that the
sender hears of it exactly if that address is its own.
-/

namespace NetworkLayer

namespace Translator

variable (translator : Translator) (now : Nat)

/-- A packet that leaves through a flow has the external source and goes where it went before. -/
theorem outbound_of_flow {packet : Packet .v4} (wellFormed : packet.WellFormed)
    {protocol : TrackedProtocol} (carried : Ipv4Packet.carries packet protocol .echoRequest)
    {flow : Flow}
    (found : (translator.flowOut now protocol (Ends.leaving protocol packet)).1 = some flow) :
    ∃ sent : Packet .v4, ∃ after, translator.outbound now packet = (.translated sent, after) ∧
      packet.Alike sent ∧ sent.source = translator.externalAddress ∧
      sent.destination = packet.destination := by
  -- The flow is there, so the packet is translated and not dropped.
  rcases outbound_of_carries translator now carried with
    ⟨missed, _⟩ | ⟨_, sent, _, result, ends⟩
  · rw [missed] at found
    cases found
  have fits : Ipv4Packet.HeaderFits packet := Ipv4Packet.WellFormed.fits wellFormed
  obtain ⟨payload, rewrites⟩ := outbound_rewrites translator now (congrArg Prod.fst result)
  have same := ends fits
  refine ⟨sent, _, result, rewrites.alike wellFormed, ?_, ?_⟩
  · -- The near end of the packet is its source.
    have near := congrArg (·.near.address) same
    cases protocol <;> exact near
  · have far := congrArg (·.far.address) same
    cases protocol <;> exact far

/-- A packet that can be translated on its way out reports no error. -/
theorem carries_noError {packet : Packet .v4} {protocol : TrackedProtocol}
    (carried : Ipv4Packet.carries packet protocol .echoRequest) : packet.isControlError = false := by
  have ported (protocol : PortProtocol)
      (carried : Ipv4Packet.carries packet protocol.tracked .echoRequest) :
      packet.isControlError = false := by
    have number := TrackedProtocol.number_of_ofNumber? (segment?_of_carries protocol carried).1
    have control : packet.isControl = false :=
      beq_eq_false_iff_ne.mpr (ports_not_icmp protocol number.symm)
    rw [Packet.isControlError, control, Bool.false_and]
  cases protocol with
  | tcp => exact ported .tcp carried
  | udp => exact ported .udp carried
  | icmp =>
    -- An echo request is a control message, but none of an error.
    obtain ⟨_, message, read, kind⟩ := message_of_carries carried
    obtain ⟨rfl, room⟩ := IcmpMessage.parse_eq_ok read
    have first : packet.upperPayload.head? = some IcmpType.echoRequest.code :=
      Packet.head?_of_byteAt (Nat.lt_of_lt_of_le (by decide) room) kind
    rw [Packet.isControlError, first, Option.any_some,
      show Packet.isErrorType .v4 IcmpType.echoRequest.code = false by decide, Bool.and_false]

end Translator

namespace Station

/-- A packet from the inside whose hops are used up at a router with a translator. -/
structure Expires (station : Station .v4) (translator : Translator) (now : Nat)
    (packet : Packet .v4) : Prop where
  forwarding : station.node.settings.forwarding = true
  spent : packet.hopsLeft ≤ 1
  outside : translator.isInternal station.hasAddress packet.destination = false
  /-- It is a segment with ports or an echo request, and there is a flow for it. -/
  tracked : ∃ protocol flow, Ipv4Packet.carries packet protocol .echoRequest ∧
    (translator.flowOut now protocol (Ends.leaving protocol packet)).1 = some flow
  /-- It comes from a host, to which there is a way back on the internal interface. -/
  host : ¬ packet.source.isGroup
  back : ∃ route, station.routeFor packet.source = some route ∧
    route.interface = translator.internal

/-- All that is sent is one report to an address that the hops of a packet are used up. -/
def TellsExpiry (target : Address .v4) (reaction : Reaction .v4) : Prop :=
  ∃ own offending report sending, Packet.Reports .timeExceeded own offending report ∧
    report.destination = target ∧ sending.packet = report.bytes ∧ reaction.sendings = [sending]

/-- To an address of the node or to a host with a route exactly one packet is sent. -/
theorem send_single (station : Station .v4) (packet : Packet .v4)
    (single : ¬ packet.destination.isGroup)
    (routed : ∃ route, station.routeFor packet.destination = some route) :
    ∃ sending, (station.send packet).2.sendings = [sending] := by
  obtain ⟨route, found⟩ := routed
  simp only [send, if_neg single]
  -- To the node itself the packet goes by the loopback, and elsewhere by its route.
  split
  · exact ⟨_, rfl⟩
  · rw [station.sendRouted_some found]
    exact ⟨_, rfl⟩

variable {station : Station .v4} {translator : Translator} {now : Nat} {packet : Packet .v4}
  {data : Bytes}

/-- What a router with a translator does with a packet from the inside it does with the translated one. -/
theorem receive_translated (expires : station.Expires translator now packet)
    (read : Packet.parse .v4 data = .ok packet) :
    ∃ sent after, packet.Alike sent ∧ sent.source = translator.externalAddress ∧
      sent.destination = packet.destination ∧
      (station.receive (.translating translator) now translator.internal data).1.sendings =
        (station.forward (.translating after) sent).sendings := by
  -- A tracked flow translates the packet, which otherwise stays as it is.
  obtain ⟨protocol, flow, carried, found⟩ := expires.tracked
  obtain ⟨sent, after, result, alike, source, destination⟩ :=
    translator.outbound_of_flow now (Packet.parse_cases read).1 carried found
  refine ⟨sent, after, alike, source, destination, ?_⟩
  have outside : translator.isInternal station.hasAddress (Ipv4Packet.destination packet) = false :=
    expires.outside
  -- The packet is for another node before and after it is translated.
  have foreign : station.hasAddress sent.destination = false := by
    rw [destination]
    rw [Translator.isInternal, Bool.or_eq_false_iff] at outside
    exact outside.1
  -- The packet comes from the inside and goes outside, so the policy translates it.
  have passed : (Policy.translating translator).receive now station.hasAddress
      translator.internal packet = (some sent, .translating after,
        [.one .translatedOut, .translations after.totalSize]) := by
    simp only [Policy.receive, Translator.receive, if_true, outside, Bool.false_eq_true,
      if_false, result, Translator.receive.settle]
    rfl
  have verdict : (Policy.translating after).classify (station.hasAddress sent.destination)
      station.node.settings.forwarding = .forward := by
    rw [foreign, expires.forwarding]
    rfl
  simp only [receive, read, passed, Reaction.after_sendings, dispatch, verdict]

/-- What comes of a packet whose hops are used up at a translator: no group is told, no address is used that
the node does not have, and otherwise the external address is told. -/
theorem receive_expired (expires : station.Expires translator now packet)
    (read : Packet.parse .v4 data = .ok packet) :
    let sendings :=
      (station.receive (.translating translator) now translator.internal data).1.sendings
    ((packet.destination.isGroup ∨ station.sourceFor? translator.externalAddress = none) ∧
        sendings = []) ∨
      (¬ packet.destination.isGroup ∧
        ∃ own offending report, station.sourceFor? translator.externalAddress = some own ∧
          Packet.Reports .timeExceeded own offending report ∧
          report.destination = translator.externalAddress ∧
          sendings = (station.send report).2.sendings) := by
  obtain ⟨sent, after, alike, source, destination, result⟩ := receive_translated expires read
  simp only [result]
  -- To a group nothing is forwarded and nothing is said.
  by_cases group : packet.destination.isGroup
  · rw [station.forward_group _ (by rw [destination]; exact group)]
    exact Or.inl ⟨Or.inl group, rfl⟩
  -- Otherwise the hops are used up, which is what the report is about.
  have single : ¬ sent.destination.isGroup := by rwa [destination]
  have spent : sent.hopsLeft ≤ 1 := by
    rw [alike.hops]
    exact expires.spent
  rw [station.forward_spent _ single spent, Reaction.after_sendings]
  -- The report is about the translated packet, whose source is the external address.
  cases found : station.sourceFor? translator.externalAddress with
  | none =>
    rw [station.report_of_silent _ _ (Or.inr (by rw [source]; exact found))]
    exact Or.inl ⟨Or.inr rfl, rfl⟩
  | some own =>
    obtain ⟨protocol, _, carried, _⟩ := expires.tracked
    have noError : sent.isControlError = false := by
      rw [Packet.isControlError_eq, alike.kind, ← Packet.isControlError_eq]
      exact Translator.carries_noError carried
    have allowed : (Policy.translating after).allowsError sent = true := by
      simp [Policy.allowsError, noError]
    obtain ⟨report, reports, told⟩ := station.report_of_allowed (.translating after) .timeExceeded
      alike.wellFormed allowed (by rw [source]; exact found)
    refine Or.inr ⟨group, own, sent, report, rfl, reports, ?_, ?_⟩
    · rw [reports.destination, source]
    · rw [told, Reaction.after_sendings]

/-- Whoever is told has the external address. -/
theorem target_of_tellsExpiry (expires : station.Expires translator now packet)
    (read : Packet.parse .v4 data = .ok packet) {target : Address .v4}
    (tells : TellsExpiry target
      (station.receive (.translating translator) now translator.internal data).1) :
    target = translator.externalAddress ∧ ¬ packet.destination.isGroup ∧
      station.sourceFor? translator.externalAddress ≠ none := by
  obtain ⟨_, _, other, sending, others, destination, bytes, one⟩ := tells
  rcases receive_expired expires read with
    ⟨_, none⟩ | ⟨single, own, _, report, found, reports, told, sends⟩
  · rw [none] at one
    cases one
  · refine ⟨?_, single, by rw [found]; exact nofun⟩
    -- Both are the report that was sent, so they go to the same address.
    have copy : sending.packet = report.bytes := by
      refine station.send_copies report sending ?_
      rw [← sends, one]
      exact List.mem_singleton_self sending
    have equal := others.wellFormed.parse
    rw [← bytes, copy, reports.wellFormed.parse, Except.ok.injEq] at equal
    rw [← destination, ← equal, told]

/--
A router with a translator tells the sender of a packet that its hops are used up exactly if the sender has the
external address, the packet goes to no group, and there is an address to tell it from.

The packet has its external source by then, so that the report goes to the external address. In any case the
packet is not forwarded: all that is sent are reports to that address.
-/
theorem tellsExpiry_iff (expires : station.Expires translator now packet)
    (read : Packet.parse .v4 data = .ok packet) :
    let reaction := (station.receive (.translating translator) now translator.internal data).1
    (TellsExpiry packet.source reaction ↔
      packet.source = translator.externalAddress ∧ ¬ packet.destination.isGroup ∧
        station.sourceFor? translator.externalAddress ≠ none) ∧
    ∀ sending ∈ reaction.sendings, ∃ own offending report,
      Packet.Reports .timeExceeded own offending report ∧
        report.destination = translator.externalAddress ∧ sending.packet = report.bytes := by
  intro reaction
  rcases receive_expired expires read with
    ⟨silent, none⟩ | ⟨_, own, offending, report, _, reports, target, sends⟩
  · -- Where nothing is sent, no one is told, and one of the two conditions fails.
    refine ⟨⟨target_of_tellsExpiry expires read, ?_⟩, ?_⟩
    · rintro ⟨_, single, reachable⟩
      rcases silent with group | missing
      · exact absurd group single
      · exact absurd missing reachable
    · intro sending member
      have nothing : sending ∈ [] := none ▸ member
      cases nothing
  -- Where a report is sent, all copies are the report.
  have copies : ∀ sending ∈ reaction.sendings, sending.packet = report.bytes := by
    rw [show reaction.sendings = _ from sends]
    exact station.send_copies report
  refine ⟨⟨target_of_tellsExpiry expires read, ?_⟩, fun sending member =>
    ⟨own, offending, report, reports, target, copies sending member⟩⟩
  -- It goes to the external address, which is the source only if the packet came from there.
  rintro ⟨same, _, _⟩
  have back := expires.back
  have host := expires.host
  rw [same, ← target] at back host
  obtain ⟨route, found, _⟩ := back
  obtain ⟨sending, one⟩ := station.send_single report host ⟨route, found⟩
  have only : reaction.sendings = [sending] := sends.trans one
  refine ⟨own, offending, report, sending, reports, by rw [target, same], copies sending ?_, only⟩
  rw [only]
  exact List.mem_singleton_self sending

/-- A router between the inside `10.0.0.0/24` and the outside `1.2.3.0/24`. -/
def border : Station .v4 where
  node := {
    settings := { forwarding := true }
    loopback := 2
    attached := [0, 1]
    table := ⟨[.connected (.containing (.ofNat 0x0A000001) 24) 0,
      .connected (.containing (.ofNat 0x01020304) 24) 1]⟩
    handled := [] }
  interfaces := ⟨[(2, .loopback), (0, .onLink 0 (some (.unicast (.ofNat 0x0A000001) 24))),
    (1, .onLink 1 (some (.unicast (.ofNat 0x01020304) 24)))]⟩

/-- The inside of the router. -/
def inside : Translator.Side := ⟨0, "lan", [.unicast (.ofNat 0x0A000001) 24]⟩

/-- A datagram from the internal host to the remote server that may make no further hop. -/
def lastHop : Packet .v4 := Ipv4Draft.toPacket {
  ttl := 1
  protocol := Protocol.udp.number
  source := Translator.host.address
  destination := Translator.server.address
  payload := UdpDatagram.encode Translator.host.port Translator.server.port []
    Translator.host.address Translator.server.address }

/-- The datagram is well formed. -/
theorem lastHop_wellFormed : lastHop.WellFormed :=
  Ipv4Draft.toPacket_wellFormed _ (by decide)

/-- The hops of the datagram are used up at the router. -/
theorem lastHop_expires {translator : Translator}
    (created : Translator.create inside Translator.wan Translator.onePort 0 = .ok translator) :
    border.Expires translator 0 lastHop := by
  -- Each condition is about the fixed router and its one datagram.
  obtain rfl := Except.ok.inj created
  exact {
    forwarding := rfl
    spent := by decide +kernel
    outside := by decide +kernel
    tracked := ⟨.udp, Flow.fresh Translator.host ⟨.ofNat 0x01020304, 6200⟩ Translator.server true 0,
      by decide +kernel, by decide +kernel⟩
    host := by decide +kernel
    back := ⟨.connected (.containing (.ofNat 0x0A000001) 24) 0, by decide +kernel, rfl⟩ }

/-- The internal host hears nothing of its datagram. -/
theorem lastHop_host_not_told :
    ∃ translator, Translator.create inside Translator.wan Translator.onePort 0 = .ok translator ∧
      border.Expires translator 0 lastHop ∧
      Packet.parse .v4 lastHop.bytes = .ok lastHop ∧
      ¬ TellsExpiry lastHop.source
        (border.receive (.translating translator) 0 translator.internal lastHop.bytes).1 := by
  have created : Translator.create inside Translator.wan Translator.onePort 0 = .ok _ := rfl
  refine ⟨_, created, lastHop_expires created, lastHop_wellFormed.parse, fun tells => ?_⟩
  have external := ((tellsExpiry_iff (lastHop_expires created) lastHop_wellFormed.parse).1.mp tells).1
  revert external
  decide +kernel

/-- The one report about the datagram of `10.0.0.5` goes to `1.2.3.4`, which is the router itself. -/
theorem lastHop_reported_to_router :
    ∃ translator, Translator.create inside Translator.wan Translator.onePort 0 = .ok translator ∧
      border.Expires translator 0 lastHop ∧ Packet.parse .v4 lastHop.bytes = .ok lastHop ∧
      lastHop.source = .ofNat 0x0A000005 ∧
      (border.receive (.translating translator) 0 translator.internal lastHop.bytes).1.sendings.map
        (fun sending => (sending.interface, sending.nextHop)) =
          [(border.node.loopback, .ofNat 0x01020304)] ∧
      ¬ TellsExpiry lastHop.source
        (border.receive (.translating translator) 0 translator.internal lastHop.bytes).1 := by
  have created : Translator.create inside Translator.wan Translator.onePort 0 = .ok _ := rfl
  -- The telling is refuted by the source, which is not the external address.
  have expires := lastHop_expires created
  refine ⟨_, created, expires, lastHop_wellFormed.parse, by decide +kernel, by decide +kernel,
    fun tells => ?_⟩
  have external := (target_of_tellsExpiry expires lastHop_wellFormed.parse tells).1
  revert external
  decide +kernel

end Station

end NetworkLayer
