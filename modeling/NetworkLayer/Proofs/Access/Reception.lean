import NetworkLayer.Node.Forwarding
import NetworkLayer.Proofs.Access.Resolution
import NetworkLayer.Proofs.Access.Translation
import NetworkLayer.Proofs.Translation.Passage

/-!
What a node does with a packet, with every access checked. Main statement: whatever bytes a node
receives, and whatever its state and its policy are, no access that they lead to goes wrong.
-/

namespace NetworkLayer

variable {family : Family}

namespace Station

variable (station : Station family) (policy : Policy family) (ingress : InterfaceId)

/-- Sends a packet by the route for its destination. -/
def checkedSendRouted (packet : Bytes) (destination : Address family) :
    Checked (Bool × Reaction family) := do
  match ← station.checkedRouteFor destination with
  | none => return (false, .counting [.noRoute, .packetsDropped])
  | some route =>
    return (true, station.handOver route.interface packet (route.nextHopFor destination))

/-- Sends a packet that starts here. -/
def checkedSend (packet : Packet family) : Checked (Bool × Reaction family) := do
  let destination ← packet.checkedDestination
  if ← station.checkedOwnsUnicast destination then
    return (true, { sendings := [⟨station.node.loopback, packet.bytes, destination⟩] })
  else if destination.isGroup then return (true, station.sendAll packet.bytes destination)
  else station.checkedSendRouted packet.bytes destination

/-- Reports an error to the source of a packet. -/
def checkedReport (error : ControlError) (offending : Packet family) :
    Checked (Reaction family) := do
  if !(← policy.checkedAllowsError offending) then return {}
  else match ← station.checkedSourceFor? (← offending.checkedSource) with
    | none => return {}
    | some source =>
      match ← offending.checkedErrorReport? error source with
      | none => return .counting [error.counter]
      | some packet => return (← station.checkedSend packet).2.after [.one error.counter]

/-- Answers an echo request. -/
def checkedAnswerEcho (request : Packet family) : Checked (Reaction family) := do
  let destination ← request.checkedDestination
  let source :=
    if ← station.checkedOwnsUnicast destination then some destination
    else if family == .v4 && station.node.settings.discardsGroupEcho then none
    else (station.interfaces.at ingress).firstUnicast?
  match source with
  | none => return {}
  | some source =>
    match ← request.checkedEchoReply? source with
    | none => return {}
    | some packet => return (← station.checkedSend packet).2.after [.one .echoReplies]

/-- Hands a packet to the upper layer. -/
def checkedDeliver (packet : Packet family) : Checked (Reaction family) := do
  let reaction ← match ← packet.checkedControlMessage with
    | .malformed => pure {}
    | .echoRequest => station.checkedAnswerEcho ingress packet
    | _ => do
      if station.node.handled.contains (← packet.checkedUpperProtocol) then
        pure { delivered := some packet }
      else if !(← packet.checkedIsControl) &&
          (← station.checkedOwnsUnicast (← packet.checkedDestination)) &&
          station.node.settings.reportsUnreachable then
        station.checkedReport policy .unreachable packet
      else pure {}
  return reaction.after [.one .packetsDelivered]

/-- Forwards a packet by one hop. -/
def checkedForward (packet : Packet family) : Checked (Reaction family) := do
  if (← packet.checkedDestination).isGroup then return .counting [.packetsDropped]
  else match ← packet.checkedHopped? with
    | none =>
      return (← station.checkedReport policy .timeExceeded packet).after
        [.one .ttlExpired, .one .packetsDropped]
    | some hopped =>
      match ← policy.checkedForward? hopped with
      | none => return .counting [.packetsDropped]
      | some packet =>
        let (routed, reaction) ←
          station.checkedSendRouted packet.bytes (← packet.checkedDestination)
        return if routed then reaction.after [.one .packetsForwarded] else reaction

/-- Takes a packet for the node. -/
def checkedTakeIn : Nat → Packet family → Checked (Reaction family)
  | 0, packet => station.checkedDeliver policy ingress packet
  | visits + 1, packet => do
    -- A host reads the routing header too, before it leaves it alone.
    let visit ← packet.checkedVisitSegment
    if station.node.settings.forwarding then
      match visit with
      | .arrived => station.checkedDeliver policy ingress packet
      | .stuck => return .counting [.packetsDropped]
      | .onward packet =>
        if ← station.checkedHasAddress (← packet.checkedDestination) then
          checkedTakeIn visits packet
        else station.checkedForward policy packet
    else station.checkedDeliver policy ingress packet

/-- Delivers, forwards or drops a packet by the verdict of the policy. -/
def checkedDispatch (packet : Packet family) : Checked (Reaction family) := do
  let owned ← station.checkedHasAddress (← packet.checkedDestination)
  match policy.classify owned station.node.settings.forwarding with
  | .deliver => station.checkedTakeIn policy ingress packet.visitLimit packet
  | .forward => station.checkedForward policy packet
  | .drop => return .counting [.packetsDropped]

/-- Takes in what an interface received. -/
def checkedReceive (now : Nat) (data : Bytes) : Checked (Reaction family × Policy family) := do
  let name := (station.interfaces.at ingress).name
  let received := Tally.received name data.length
  match ← Packet.checkedParse family data with
  | .error _ => return ({ tallies := [received, .receiveDrop name, .one .packetsDropped] }, policy)
  | .ok packet =>
    let (packet, policy, tallies) ←
      policy.checkedReceive now station.checkedHasAddress ingress packet
    match packet with
    | none => return ({ tallies := received :: tallies }, policy)
    | some packet =>
      return ((← station.checkedDispatch policy ingress packet).after (received :: tallies), policy)

/-- A packet can be sent by a route. -/
theorem checkedSendRouted_eq (packet : Bytes) (destination : Address family) :
    station.checkedSendRouted packet destination = .ok (station.sendRouted packet destination) := by
  rw [checkedSendRouted, checkedRouteFor_eq, Checked.ok_bind, sendRouted]
  cases station.routeFor destination with
  | none => rfl
  | some route => rfl

section WellFormed

variable {packet : Packet family} (wellFormed : packet.WellFormed)
include wellFormed

/-- A packet can be sent from its start. -/
theorem checkedSend_eq : station.checkedSend packet = .ok (station.send packet) := by
  rw [checkedSend, Packet.checkedDestination_eq wellFormed, Checked.ok_bind,
    checkedOwnsUnicast_eq, Checked.ok_bind, checkedSendRouted_eq, send]
  -- Only the way by a route makes an access of its own, which is the lemma used above.
  split
  · rfl
  · split
    · rfl
    · rfl

/-- An error about a packet can be reported. -/
theorem checkedReport_eq (error : ControlError) :
    station.checkedReport policy error packet = .ok (station.report policy error packet) := by
  rw [checkedReport, policy.checkedAllowsError_eq wellFormed, Checked.ok_bind,
    Packet.checkedSource_eq wellFormed, Checked.ok_bind, checkedSourceFor?_eq, Checked.ok_bind,
    report]
  split
  · rfl
  · cases station.sourceFor? packet.source with
    | none => rfl
    | some source =>
      -- The report is well formed itself, so it can be sent.
      obtain ⟨report, made, reports⟩ := Packet.errorReport?_reports wellFormed error source
      simp only [Packet.checkedErrorReport?_eq wellFormed, made, Checked.ok_bind,
        station.checkedSend_eq reports.wellFormed]
      rfl

/-- An echo request can be answered. -/
theorem checkedAnswerEcho_eq :
    station.checkedAnswerEcho ingress packet = .ok (station.answerEcho ingress packet) := by
  rw [checkedAnswerEcho, Packet.checkedDestination_eq wellFormed, Checked.ok_bind,
    checkedOwnsUnicast_eq, Checked.ok_bind, answerEcho]
  -- How the source is chosen makes no difference to the answer.
  generalize (if station.ownsUnicast packet.destination then some packet.destination
    else if family == .v4 && station.node.settings.discardsGroupEcho then none
    else (station.interfaces.at ingress).firstUnicast?) = origin
  cases origin with
  | none => rfl
  | some source =>
    simp only [Packet.checkedEchoReply?_eq wellFormed, Checked.ok_bind, Option.bind_some]
    cases made : packet.echoReply? source with
    | none => rfl
    | some reply =>
      have echoes := Packet.echoes_of_echoReply? wellFormed made
      simp only [station.checkedSend_eq echoes.wellFormed, Checked.ok_bind]
      rfl

/-- A packet can be handed to the upper layer. -/
theorem checkedDeliver_eq :
    station.checkedDeliver policy ingress packet =
      .ok (station.deliver policy ingress packet) := by
  simp only [checkedDeliver, deliver, Packet.checkedControlMessage_eq wellFormed,
    station.checkedAnswerEcho_eq ingress wellFormed, Packet.checkedUpperProtocol_eq wellFormed,
    Packet.checkedIsControl_eq wellFormed, Packet.checkedDestination_eq wellFormed,
    checkedOwnsUnicast_eq, station.checkedReport_eq policy wellFormed, Checked.ok_bind]
  -- What neither asks for an echo nor is malformed goes to the upper layer or is reported.
  cases packet.controlMessage with
  | malformed => rfl
  | echoRequest => rfl
  | none =>
    simp only
    split
    · rfl
    · split
      · rfl
      · rfl
  | other =>
    simp only
    split
    · rfl
    · split
      · rfl
      · rfl

/-- A packet can be forwarded. -/
theorem checkedForward_eq :
    station.checkedForward policy packet = .ok (station.forward policy packet) := by
  rw [checkedForward, Packet.checkedDestination_eq wellFormed, Checked.ok_bind, forward]
  by_cases group : packet.destination.isGroup
  · rw [if_pos group, if_pos group]
    rfl
  rw [if_neg group, if_neg group, Packet.checkedHopped?_eq wellFormed, Checked.ok_bind,
    station.checkedReport_eq policy wellFormed]
  rcases UInt8.le_or_lt packet.hopsLeft 1 with spent | lives
  · rw [Packet.hopped?_eq_none spent]
    rfl
  · obtain ⟨hopped, result, hop, -⟩ := Packet.hopped?_of_lt wellFormed lives
    -- One hop on the packet is well formed, and so is what the policy makes of it.
    simp only [result, policy.checkedForward?_eq hop.wellFormed, Checked.ok_bind]
    cases goes : policy.forward? hopped with
    | none => rfl
    | some sent =>
      have alike := policy.forward?_alike hop.wellFormed goes
      simp only [Packet.checkedDestination_eq alike.wellFormed, checkedSendRouted_eq,
        Checked.ok_bind]
      rfl

/-- A packet can be taken for the node. -/
theorem checkedTakeIn_eq (visits : Nat) :
    station.checkedTakeIn policy ingress visits packet =
      .ok (station.takeIn policy ingress visits packet) := by
  -- The induction is on the visits that are left, for any packet, since each visit changes it.
  induction visits generalizing packet with
  | zero => exact station.checkedDeliver_eq policy ingress wellFormed
  | succ visits ih =>
    -- A packet that goes on to its next segment is well formed again.
    rw [checkedTakeIn, takeIn, Packet.checkedVisitSegment_eq wellFormed, Checked.ok_bind,
      station.checkedDeliver_eq policy ingress wellFormed]
    cases visited : packet.visitSegment with
    | arrived =>
      simp only
      split
      · rfl
      · rfl
    | stuck =>
      simp only
      split
      · rfl
      · rfl
    | onward onward =>
      have alike := Packet.onward_alike wellFormed visited
      -- The packet is checked once more where it is going next: to the node itself or on the link.
      simp only [Packet.checkedDestination_eq alike.wellFormed, checkedHasAddress_eq,
        ih alike.wellFormed, station.checkedForward_eq policy alike.wellFormed, Checked.ok_bind]
      split
      · split
        · rfl
        · rfl
      · rfl

/-- A packet can be delivered, forwarded or dropped. -/
theorem checkedDispatch_eq :
    station.checkedDispatch policy ingress packet =
      .ok (station.dispatch policy ingress packet) := by
  rw [checkedDispatch, Packet.checkedDestination_eq wellFormed, Checked.ok_bind,
    checkedHasAddress_eq, Checked.ok_bind, dispatch]
  cases policy.classify (station.hasAddress packet.destination)
    station.node.settings.forwarding with
  | deliver => exact station.checkedTakeIn_eq policy ingress wellFormed _
  | forward => exact station.checkedForward_eq policy wellFormed
  | drop => rfl

end WellFormed

/-- Whatever a node receives, no access to it goes wrong. -/
theorem checkedReceive_eq (now : Nat) (data : Bytes) :
    station.checkedReceive policy ingress now data =
      .ok (station.receive policy now ingress data) := by
  rw [checkedReceive, Packet.checkedParse_eq, Checked.ok_bind, receive]
  cases read : Packet.parse family data with
  | error cause => rfl
  | ok packet =>
    have wellFormed := (Packet.parse_cases read).1
    simp only [policy.checkedReceive_eq wellFormed now station.checkedHasAddress_eq ingress,
      Checked.ok_bind]
    cases passed : (policy.receive now station.hasAddress ingress packet).1 with
    | none => rfl
    | some left =>
      -- A policy may rewrite the packet, which stays well formed.
      have alike := policy.receive_alike wellFormed passed
      simp only [station.checkedDispatch_eq _ ingress alike.wellFormed, Checked.ok_bind]
      rfl

end Station

end NetworkLayer
