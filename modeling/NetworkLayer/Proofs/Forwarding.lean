import NetworkLayer.Node.Forwarding
import NetworkLayer.Proofs.ControlMessage

/-!
What a router does with a packet for another node. Main statement: it drops the packet, reports that its
hops are used up or hands it to the interface of the route, and it never does two of these.
-/

namespace NetworkLayer

namespace Reaction

variable {family : Family} (reaction : Reaction family) (tallies : List Tally)

/-- Counting more sends nothing more. -/
@[simp] theorem after_sendings : (reaction.after tallies).sendings = reaction.sendings := rfl

/-- Counting more hands nothing more to the upper layer. -/
@[simp] theorem after_delivered : (reaction.after tallies).delivered = reaction.delivered := rfl

/-- Counting alone sends nothing. -/
@[simp] theorem counting_sendings (counters : List Counter) :
    (counting counters : Reaction family).sendings = [] := rfl

/-- Counting alone hands nothing to the upper layer. -/
@[simp] theorem counting_delivered (counters : List Counter) :
    (counting counters : Reaction family).delivered = none := rfl

end Reaction

namespace Station

variable {family : Family} (station : Station family)

section Send

variable (packet : Packet family)

/-- Without a route nothing is sent. -/
theorem sendRouted_none {bytes : Bytes} {destination : Address family}
    (missing : station.routeFor destination = none) :
    station.sendRouted bytes destination = (false, .counting [.noRoute, .packetsDropped]) := by
  rw [sendRouted, missing]

/-- A route leads to its interface and to its next hop. -/
theorem sendRouted_some {bytes : Bytes} {destination : Address family} {route : Route family}
    (found : station.routeFor destination = some route) :
    station.sendRouted bytes destination =
      (true, station.handOver route.interface bytes (route.nextHopFor destination)) := by
  rw [sendRouted, found]

/-- What is sent by a route stays away from the upper layer. -/
theorem sendRouted_delivered (bytes : Bytes) (destination : Address family) :
    (station.sendRouted bytes destination).2.delivered = none := by
  cases found : station.routeFor destination with
  | none => rw [sendRouted_none station found, Reaction.counting_delivered]
  | some route =>
    rw [sendRouted_some station found]
    rfl

/-- What starts at a node stays away from its upper layer. -/
theorem send_delivered : (station.send packet).2.delivered = none := by
  rw [send]
  -- To a group, to an own address or by a route: none of the three hands the packet up.
  split
  · rfl
  · split
    · rfl
    · exact station.sendRouted_delivered packet.bytes packet.destination

end Send

section Report

variable (policy : Policy family) (error : ControlError) {offending : Packet family}

/-- No error is reported where the policy forbids it or where there is no address to do so from. -/
theorem report_of_silent
    (silent : policy.allowsError offending = false ∨ station.sourceFor? offending.source = none) :
    station.report policy error offending = {} := by
  rw [report]
  -- Without permission or without a source there is nothing to send.
  rcases silent with forbidden | missing
  · rw [forbidden]
    rfl
  · rw [missing]
    exact ite_self _

/-- An error that may be reported is sent back to where the offending packet came from. -/
theorem report_of_allowed (wellFormed : offending.WellFormed)
    (allowed : policy.allowsError offending = true) {source : Address family}
    (found : station.sourceFor? offending.source = some source) :
    ∃ report, Packet.Reports error source offending report ∧
      station.report policy error offending = (station.send report).2.after [.one error.counter] := by
  obtain ⟨report, made, reports⟩ := Packet.errorReport?_reports wellFormed error source
  refine ⟨report, reports, ?_⟩
  rw [Station.report, allowed, found]
  simp only [Bool.not_true, Bool.false_eq_true, if_false, made]

/-- An error report is no matter for the own upper layer. -/
theorem report_delivered : (station.report policy error offending).delivered = none := by
  -- A report is sent or it is not, and neither way delivers anything.
  rw [report]
  split
  · rfl
  · split
    · rfl
    · split
      · rfl
      · exact station.send_delivered _

end Report

section Forward

variable (policy : Policy family) {packet : Packet family}

/-- A packet to a group is not forwarded. -/
theorem forward_group (group : packet.destination.isGroup) :
    station.forward policy packet = .counting [.packetsDropped] := by
  rw [forward, if_pos group]

/-- A packet whose hops are used up is reported. -/
theorem forward_spent (single : ¬ packet.destination.isGroup) (spent : packet.hopsLeft ≤ 1) :
    station.forward policy packet = (station.report policy .timeExceeded packet).after
      [.one .ttlExpired, .one .packetsDropped] := by
  rw [forward, if_neg single, Packet.hopped?_eq_none spent]

/-- A packet that has hops left goes on as the policy wants it. -/
theorem forward_hopped (single : ¬ packet.destination.isGroup) {hopped sent : Packet family}
    (result : packet.hopped? = some hopped) (goes : policy.forward? hopped = some sent) :
    (station.forward policy packet).sendings =
        (station.sendRouted sent.bytes sent.destination).2.sendings ∧
      (station.forward policy packet).delivered = none := by
  have kept := station.sendRouted_delivered sent.bytes sent.destination
  simp only [forward, if_neg single, result, goes]
  split
  · exact ⟨rfl, kept⟩
  · exact ⟨rfl, kept⟩

end Forward

/-- What a router may do with a packet for another node. -/
structure Forwards (station : Station family) (packet : Packet family)
    (reaction : Reaction family) : Prop where
  /-- The upper layer of the router never gets it. -/
  kept : reaction.delivered = none
  /-- It is not sent to a group. -/
  group : packet.destination.isGroup → reaction.sendings = []
  /-- No error calls for another one, and none is reported without an address to do so from. -/
  silent : ¬ packet.destination.isGroup → packet.hopsLeft ≤ 1 →
    packet.isControlError ∨ station.sourceFor? packet.source = none → reaction.sendings = []
  /-- Once its hops are used up, its source gets one report, and nothing else is sent. -/
  reported : ¬ packet.destination.isGroup → packet.hopsLeft ≤ 1 → ¬ packet.isControlError →
    ∀ source, station.sourceFor? packet.source = some source →
      ∃ report, Packet.Reports .timeExceeded source packet report ∧
        reaction.sendings = (station.send report).2.sendings
  /-- Without a route nothing is sent. -/
  unroutable : ¬ packet.destination.isGroup → 1 < packet.hopsLeft →
    station.routeFor packet.destination = none → reaction.sendings = []
  /-- With a route it goes one hop on, to the interface and the next hop of the route. -/
  routed : ¬ packet.destination.isGroup → 1 < packet.hopsLeft →
    ∀ route, station.routeFor packet.destination = some route →
      ∃ sent, Packet.OneHopOn packet sent ∧ reaction.sendings =
        [⟨route.interface, sent.bytes, route.nextHopFor packet.destination⟩]

/-- Under plain routing an error is reported unless it is about an error. -/
theorem plain_allowsError (packet : Packet family) :
    Policy.plain.allowsError packet = !packet.isControlError :=
  Bool.and_true _

/-- Under plain routing a packet that has hops left is sent by the route for its destination. -/
theorem forward_plain {packet : Packet family} (wellFormed : packet.WellFormed)
    (single : ¬ packet.destination.isGroup) (lives : 1 < packet.hopsLeft) :
    ∃ sent, Packet.OneHopOn packet sent ∧ (station.forward .plain packet).delivered = none ∧
      (station.forward .plain packet).sendings =
        (station.sendRouted sent.bytes packet.destination).2.sendings := by
  obtain ⟨hopped, result, hop, route⟩ := Packet.hopped?_of_lt wellFormed lives
  have goes : Policy.plain.forward? hopped = some hopped := rfl
  have step := station.forward_hopped .plain single result goes
  -- One hop on, the packet still has the destination that the route is looked up for.
  rw [route.destination] at step
  exact ⟨hopped, hop, step.2, step.1⟩

/-- A router under plain routing forwards a well-formed packet as it may. -/
theorem forward_forwards {packet : Packet family} (wellFormed : packet.WellFormed) :
    station.Forwards packet (station.forward .plain packet) := by
  -- The demands are met one by one, each in the case of forwarding that it speaks of.
  constructor
  case kept =>
    by_cases group : packet.destination.isGroup
    · rw [station.forward_group .plain group, Reaction.counting_delivered]
    · rcases UInt8.le_or_lt packet.hopsLeft 1 with spent | lives
      · rw [station.forward_spent .plain group spent, Reaction.after_delivered]
        exact station.report_delivered ..
      · obtain ⟨_, _, kept, _⟩ := station.forward_plain wellFormed group lives
        exact kept
  case group =>
    intro group
    rw [station.forward_group .plain group, Reaction.counting_sendings]
  case silent =>
    intro single spent silent
    have quiet : Policy.plain.allowsError packet = false ∨
        station.sourceFor? packet.source = none := by
      rw [plain_allowsError, Bool.not_eq_false']
      exact silent
    rw [station.forward_spent .plain single spent, station.report_of_silent .plain _ quiet,
      Reaction.after_sendings]
  case reported =>
    intro single spent noError source found
    have allowed : Policy.plain.allowsError packet = true := by
      rw [plain_allowsError, Bool.not_eq_true', ← Bool.not_eq_true]
      exact noError
    obtain ⟨report, reports, result⟩ :=
      station.report_of_allowed .plain .timeExceeded wellFormed allowed found
    refine ⟨report, reports, ?_⟩
    rw [station.forward_spent .plain single spent, result, Reaction.after_sendings,
      Reaction.after_sendings]
  case unroutable =>
    intro single lives missing
    obtain ⟨sent, _, _, sendings⟩ := station.forward_plain wellFormed single lives
    rw [sendings, station.sendRouted_none missing, Reaction.counting_sendings]
  case routed =>
    intro single lives route found
    obtain ⟨sent, hop, _, sendings⟩ := station.forward_plain wellFormed single lives
    refine ⟨sent, hop, ?_⟩
    rw [sendings, station.sendRouted_some found]
    rfl

/-- Counting more changes nothing about what is done with a packet. -/
theorem Forwards.after {packet : Packet family} {reaction : Reaction family}
    (forwards : station.Forwards packet reaction) (tallies : List Tally) :
    station.Forwards packet (reaction.after tallies) where
  kept := forwards.kept
  group := forwards.group
  silent := forwards.silent
  reported := forwards.reported
  unroutable := forwards.unroutable
  routed := forwards.routed

/-- A router under plain routing forwards what it reads of a packet for another node, as it may. -/
theorem receive_forwards (router : station.node.settings.forwarding = true) {data : Bytes}
    {packet : Packet family} (read : Packet.parse family data = .ok packet)
    (foreign : station.hasAddress packet.destination = false) (now : Nat)
    (ingress : InterfaceId) :
    packet.bytes = data.take (Packet.declaredLength family data) ∧
      station.Forwards packet (station.receive .plain now ingress data).1 := by
  obtain ⟨wellFormed, bytes, _⟩ := Packet.parse_cases read
  refine ⟨bytes, ?_⟩
  have verdict : (Policy.plain : Policy family).classify (station.hasAddress packet.destination)
      station.node.settings.forwarding = .forward := by
    rw [foreign, router]
    rfl
  -- Plain routing leaves the packet alone on its way in.
  have dispatched : station.dispatch .plain ingress packet = station.forward .plain packet := by
    rw [dispatch, verdict]
  have received : (station.receive .plain now ingress data).1 =
      (station.forward .plain packet).after
        [.received (station.interfaces.at ingress).name data.length] := by
    rw [receive, read, ← dispatched]
    rfl
  rw [received]
  exact (station.forward_forwards wellFormed).after station _

/-- A router between the links `10.0.0.0/24` and `10.0.1.0/24`. -/
def crossing : Station .v4 where
  node := {
    settings := { forwarding := true }
    loopback := 0
    attached := [1, 2]
    table := ⟨[.connected (.containing (.ofNat 0x0A000001) 24) 1,
      .connected (.containing (.ofNat 0x0A000101) 24) 2]⟩
    handled := [] }
  interfaces := ⟨[(0, .loopback), (1, .onLink 0 (some (.unicast (.ofNat 0x0A000001) 24))),
    (2, .onLink 1 (some (.unicast (.ofNat 0x0A000101) 24)))]⟩

/-- A packet from the one link to the other. -/
def crossed : Packet .v4 := Ipv4Draft.toPacket {
  protocol := Protocol.udp.number
  source := .ofNat 0x0A000002
  destination := .ofNat 0x0A000102
  payload := [] }

/-- A packet from the one link to the other makes the hop between them. -/
theorem crossing_receive : ∃ sent, Packet.OneHopOn crossed sent ∧
    (crossing.receive .plain 0 1 crossed.bytes).1.sendings =
      [⟨2, sent.bytes, .ofNat 0x0A000102⟩] := by
  -- The packet is well formed, has hops left and is routed on the second link.
  have wellFormed : crossed.WellFormed :=
    Ipv4Draft.toPacket_wellFormed _ (by decide)
  have forwards := crossing.receive_forwards rfl wellFormed.parse (by decide +kernel) 0 1
  have routed := forwards.2.routed (by decide +kernel) (by decide +kernel)
    (.connected (.containing (.ofNat 0x0A000101) 24) 2) (by decide +kernel)
  obtain ⟨sent, hop, sendings⟩ := routed
  refine ⟨sent, hop, sendings.trans ?_⟩
  have destination : crossed.destination = .ofNat 0x0A000102 := by decide +kernel
  rw [destination]
  rfl

end Station

end NetworkLayer
