import NetworkLayer.Network.Schedule
import NetworkLayer.Proofs.Access.Reception

/-!
What the nodes and adapters of a network do together, with every access checked. Main statement:
whatever is heard in a network, be it a packet at a node or a frame at an adapter, nothing that
comes of it makes a wrong access.
-/

namespace NetworkLayer.Network

variable {family : Family} (network : Network)

/-- Carries out an effect of the resolver of an interface. -/
def checkedApplyEffect {family : Family} (id : InterfaceId) :
    ResolutionEffect family → Checked Network
  | .solicit target source =>
    match (network.interface family id).adapter? with
    | some adapter => do
      let question ← ResolutionTraffic.checkedSolicitation adapter.mac target source
      return (network.enqueue family id question).2
    | none => .ok network
  -- The others put no bytes together but a header in front of a packet.
  | effect => .ok (network.applyEffect id effect)

/-- Takes a step of the resolver of an interface, effects included. -/
def checkedStepResolver (family : Family) (id : InterfaceId)
    (step : Resolver family → Checked (Resolver family × List (ResolutionEffect family))) :
    Checked Network :=
  match (network.interface family id).adapter? with
  | none => .ok network
  | some adapter => do
    let (resolver, effects) ← step adapter.resolver
    effects.foldlM (fun network effect => network.checkedApplyEffect id effect)
      (network.onInterface family id (·.withResolver fun _ => resolver))

/-- Looks at a resolution. -/
def checkedLook (family : Family) (id : CallId) : Checked Network :=
  match (network.side family).calls.get? id with
  | none => .ok network
  | some call =>
    if call.started then
      network.checkedStepResolver family call.interface (·.checkedResume network.now id)
    else
      let network := network.onSide family fun side =>
        { side with calls := side.calls.modify id fun call => { call with started := true } }
      network.checkedStepResolver family call.interface
        (·.checkedStart network.now id call.target)

/-- Sends a packet on an Ethernet interface. -/
def checkedSendOnEthernet {family : Family} (id : InterfaceId) (adapter : Adapter family)
    (packet : Bytes) (nextHop : Address family) : Checked Network := do
  let (mac, resolver, hits) ← adapter.resolver.checkedLookup network.now nextHop
  let looked := network.onInterface family id (·.withResolver fun _ => resolver)
  let network := looked.countAt family id (hits.map .one)
  -- Without an address the packet waits for one, as long as not too many wait already.
  match mac with
  | some mac => return network.sendFrame family id mac packet
  | none =>
    if network.pendingSends family id < adapter.pendingLimit then
      return (network.call id nextHop (.send packet)).2
    else return network.countSendDrop family id

/-- Follows a packet by one step. -/
def checkedFollow : Transit family → Checked (Network × List (Transit family))
  | .sent sending =>
    let interface := network.interface family sending.interface
    match interface.medium with
    | .loopback => .ok (network, network.audience family sending.interface sending.packet true)
    | .link link => .ok (network, if interface.running then network.onLink link sending else [])
    | .ethernet adapter =>
      if interface.running then do
        return (← network.checkedSendOnEthernet sending.interface adapter sending.packet
          sending.nextHop, [])
      else .ok (network, [])
  | .heard (.tap tap) id packet => .ok (network.follow (.heard (.tap tap) id packet))
  | .heard (.node id) ingress packet =>
    let side := network.side family
    match side.nodes.get? id with
    | none => .ok (network, [])
    | some hosted => do
      let station : Station family := ⟨hosted.node, side.interfaces⟩
      let policy := ((side.policies.get? hosted.policy).map (·.policy)).getD default
      let (reaction, policy) ← station.checkedReceive policy ingress network.now packet
      let network := network.onSide family fun side =>
        { side with
          policies := side.policies.modify hosted.policy fun installed =>
            { installed with policy } }
      let network := network.record hosted.registry reaction.tallies
      -- What the upper layer reads of the packet is not looked at here.
      let network := match reaction.delivered with
        | some packet => network.observe
            (.delivered id packet.upperProtocol (network.interface family ingress).name
              packet.bytes)
        | none => network
      return (network, reaction.sendings.map .sent)

/-- Follows a packet and all that it leads to. -/
def checkedDeliverWithin : Nat → Network → Transit family → Checked Network
  | 0, network, _ => .ok network
  | steps + 1, network, transit => do
    let (network, next) ← network.checkedFollow transit
    next.foldlM (checkedDeliverWithin steps) network

/-- Follows a packet and all that it leads to. -/
def checkedDeliver (transit : Transit family) : Checked Network :=
  checkedDeliverWithin longestWay network transit

/-- An adapter hears a frame. -/
def checkedHear (family : Family) (id : InterfaceId) (data : Bytes) : Checked Network :=
  let interface := network.interface family id
  match interface.running, interface.adapter? with
  | true, some adapter => do
    match ← adapter.checkedHear (data.take receiveLimit) with
    | .nothing => return network
    | .resolution (.question reply) =>
      match network.enqueue family id reply with
      | (true, queued) => return queued.countAt family id [.one .resolutionReplies]
      | (false, _) => return network
    | .resolution (.answer address mac) =>
      network.checkedStepResolver family id fun resolver =>
        .ok (resolver.accept network.now address mac).2
    | .resolution _ => return network
    | .packet bytes accepted =>
      (network.audience family id bytes accepted).foldlM checkedDeliver network
  | _, _ => .ok network

/-- An effect can be carried out. -/
theorem checkedApplyEffect_eq (id : InterfaceId) (effect : ResolutionEffect family) :
    network.checkedApplyEffect id effect = .ok (network.applyEffect id effect) := by
  cases effect with
  | solicit target source =>
    -- Building the question is the only step of an effect that works on bytes.
    rw [checkedApplyEffect, applyEffect]
    cases (network.interface family id).adapter? with
    | none => rfl
    | some adapter =>
      simp only [ResolutionTraffic.checkedSolicitation_eq, Checked.ok_bind, Checked.pure_eq]
  | tally counter => rfl
  | wake call => rfl
  | arm call deadline => rfl
  | finish call mac => rfl

/-- A resolver can take a step that itself makes no wrong access. -/
theorem checkedStepResolver_eq (id : InterfaceId)
    {step : Resolver family → Checked (Resolver family × List (ResolutionEffect family))}
    {plain : Resolver family → Resolver family × List (ResolutionEffect family)}
    (same : ∀ resolver, step resolver = .ok (plain resolver)) :
    network.checkedStepResolver family id step = .ok (network.stepResolver family id plain) := by
  rw [checkedStepResolver, stepResolver]
  cases (network.interface family id).adapter? with
  | none => rfl
  | some adapter =>
    simp only [same, Checked.ok_bind]
    exact Checked.foldlM_ok (fun network effect => network.checkedApplyEffect_eq id effect) _ _

/-- A resolution can be looked at. -/
theorem checkedLook_eq (family : Family) (id : CallId) :
    network.checkedLook family id = .ok (network.look family id) := by
  rw [checkedLook, look]
  cases (network.side family).calls.get? id with
  | none => rfl
  | some call =>
    simp only
    split
    · -- A call that has started is woken, and any other one begins its turn.
      exact network.checkedStepResolver_eq _ fun resolver =>
        resolver.checkedResume_eq network.now id
    · exact checkedStepResolver_eq _ _ fun resolver => resolver.checkedStart_eq _ id call.target

/-- A packet can be sent on an Ethernet interface. -/
theorem checkedSendOnEthernet_eq (id : InterfaceId) (adapter : Adapter family) (packet : Bytes)
    (nextHop : Address family) :
    network.checkedSendOnEthernet id adapter packet nextHop =
      .ok (network.sendOnEthernet id adapter packet nextHop) := by
  -- The look-up is the same one with checks, so both go on with its result.
  rw [checkedSendOnEthernet, adapter.resolver.checkedLookup_eq, Checked.ok_bind, sendOnEthernet]
  obtain ⟨mac, resolver, hits⟩ := adapter.resolver.lookup network.now nextHop
  cases mac with
  | some mac => rfl
  | none =>
    simp only
    split
    · rfl
    · rfl

/-- A packet can be followed by a step. -/
theorem checkedFollow_eq (transit : Transit family) :
    network.checkedFollow transit = .ok (network.follow transit) := by
  cases transit with
  | sent sending =>
    rw [checkedFollow, follow]
    -- On an Ethernet link the packet needs the address of its next hop, and elsewhere it goes as it is.
    cases (network.interface family sending.interface).medium with
    | loopback => rfl
    | link link => rfl
    | ethernet adapter =>
      simp only [checkedSendOnEthernet_eq, Checked.ok_bind]
      split
      · rfl
      · rfl
  | heard listener ingress packet =>
    cases listener with
    | tap tap => rfl
    | node id =>
      rw [checkedFollow, follow]
      cases (network.side family).nodes.get? id with
      | none => rfl
      -- A node works on the packet, and what follows only passes on what it made of it.
      | some hosted =>
        simp only [Station.checkedReceive_eq, Checked.ok_bind]
        rfl

/-- A packet can be followed, with all that it leads to. -/
theorem checkedDeliverWithin_eq (steps : Nat) (transit : Transit family) :
    checkedDeliverWithin steps network transit = .ok (deliverWithin steps network transit) := by
  induction steps generalizing network transit with
  | zero => rfl
  | succ steps ih =>
    -- What a step leads to is followed with one step less.
    rw [checkedDeliverWithin, checkedFollow_eq, Checked.ok_bind, deliverWithin]
    exact Checked.foldlM_ok ih _ _

/-- A packet can be followed to its end. -/
theorem checkedDeliver_eq (transit : Transit family) :
    network.checkedDeliver transit = .ok (network.deliver transit) :=
  network.checkedDeliverWithin_eq longestWay transit

/-- An adapter can hear a frame. -/
theorem checkedHear_eq (family : Family) (id : InterfaceId) (data : Bytes) :
    network.checkedHear family id data = .ok (network.hear family id data) := by
  rw [checkedHear, hear]
  -- Only a running adapter hears anything.
  cases (network.interface family id).running with
  | false => rfl
  | true =>
    cases (network.interface family id).adapter? with
    | none => rfl
    | some adapter =>
      simp only [adapter.checkedHear_eq, Checked.ok_bind]
      cases adapter.hear (data.take receiveLimit) with
      -- The frame is sorted with checks, and what comes of it is passed on.
      | nothing => rfl
      | packet bytes accepted => exact Checked.foldlM_ok checkedDeliver_eq _ _
      | resolution traffic =>
        cases traffic with
        | foreign => rfl
        | ignored => rfl
        | question reply =>
          simp only
          obtain ⟨roomy, queued⟩ := network.enqueue family id reply
          cases roomy with
          | false => rfl
          | true => rfl
        -- An answer is only remembered; the packets that waited for it are sent later.
        | answer address mac => exact network.checkedStepResolver_eq id fun resolver => rfl

/-- No bytes lead to a wrong access, whatever the state: neither those that a node receives, with
all that is sent because of them, nor those of a frame that an adapter hears, nor the questions that
the adapter asks for what it then has to send. -/
theorem hears_without_fault :
    (∀ {family : Family} (station : Station family) (policy : Policy family)
      (ingress : InterfaceId) (now : Nat) (data : Bytes),
      station.checkedReceive policy ingress now data =
        .ok (station.receive policy now ingress data)) ∧
    (∀ {family : Family} (transit : Transit family),
      network.checkedDeliver transit = .ok (network.deliver transit)) ∧
    (∀ (family : Family) (id : InterfaceId) (data : Bytes),
      network.checkedHear family id data = .ok (network.hear family id data)) ∧
    ∀ (family : Family) (id : CallId),
      network.checkedLook family id = .ok (network.look family id) := by
  refine ⟨fun station policy ingress now data => ?_, fun transit => ?_,
    fun family id data => ?_, fun family id => ?_⟩
  · exact station.checkedReceive_eq policy ingress now data
  · exact network.checkedDeliver_eq transit
  · exact network.checkedHear_eq family id data
  · exact network.checkedLook_eq family id

end NetworkLayer.Network
