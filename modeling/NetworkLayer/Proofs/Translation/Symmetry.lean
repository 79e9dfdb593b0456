import NetworkLayer.Proofs.Translation.Datagram
import NetworkLayer.Proofs.Translation.Tracking

/-!
When an answer leaves through the socket that was asked. It leaves with the external address, and
with the port of the first flow between its ends, which need not be the flow of the request.
-/

namespace NetworkLayer

namespace PortState

/--
The port from which a packet leaves for which flows are tracked.

It is the port of the first of them that a due sweep leaves, or the next free port if that one has
expired, whatever the others are.
-/
def portBetween (state : PortState) (reclaim : Bool) (now : Nat) (internal remote : Endpoint) :
    Option UInt16 :=
  ((state.table.sweepIfDue now).flows.find? (leaving internal remote)).bind fun flow =>
    if flow.isLive state.table.timeout now then some flow.external.port
    else (state.consulted reclaim now (leaving internal remote)).pool.free.head?

/-- Before the timeout of a flow, the first flow between the same ends tells the port. -/
theorem outbound_port {state : PortState} {since now : Nat} {internal external remote : Endpoint}
    (tracks : state.table.Tracks since internal external remote)
    (soon : now < since + state.table.timeout) (reclaim : Bool) (externalAddress : Address .v4) :
    (state.outbound reclaim externalAddress now internal remote).1.map (·.external.port) =
      state.portBetween reclaim now internal remote := by
  obtain ⟨flow, tracked, seen, rfl, rfl, rfl⟩ := tracks
  have live : flow.isLive state.table.timeout now := decide_eq_true (by omega)
  -- The live flow is there after the sweep, so there is a first one.
  have present :
      ((state.table.sweepIfDue now).flows.find? (leaving flow.internal flow.remote)).isSome :=
    List.find?_isSome.mpr ⟨flow, FlowTable.mem_sweepIfDue_of_live tracked live, by simp⟩
  obtain ⟨first, found⟩ := Option.isSome_iff_exists.mp present
  rw [portBetween, found, Option.bind_some]
  -- The first flow is found if it is live; a port is taken only if it has expired.
  rcases state.outbound_cases reclaim externalAddress now flow.internal flow.remote with
    ⟨chosen, lookedUp, result⟩ | ⟨missed, taken⟩
  · obtain ⟨old, same, alive, rfl⟩ := FlowTable.lookup_eq_some_iff.mp lookedUp
    cases found.symm.trans same
    rw [result, if_pos alive]
    rfl
  · have expired : ¬ first.isLive state.table.timeout now := fun alive => by
      have chosen := FlowTable.lookup_eq_some_iff.mpr ⟨first, found, alive, rfl⟩
      cases missed.symm.trans chosen
    rw [if_neg expired]
    rcases taken with ⟨empty, result⟩ | ⟨port, rest, order, result⟩
    · rw [result, empty]
      rfl
    · rw [result, order]
      rfl

end PortState

namespace Translator

variable {translator : Translator}

/-- Before the timeout of a flow, a packet between the same ends leaves from the port of the first
one. -/
theorem flowOut_port (protocol : PortProtocol) {since now : Nat}
    {internal external remote : Endpoint}
    (tracks : (translator.table protocol.tracked).Tracks since internal external remote)
    (soon : now < since + (translator.table protocol.tracked).timeout) :
    (translator.flowOut now protocol.tracked ⟨internal, remote⟩).1.map (·.external.port) =
      (translator.ports protocol).portBetween translator.reclaimPorts now internal remote := by
  cases protocol with
  | tcp => exact PortState.outbound_port tracks soon _ _
  | udp => exact PortState.outbound_port tracks soon _ _

/-- A packet leaves with given ends if its flow has their port and the translator their address. -/
theorem outbound_leaves_with_iff {now : Nat} {packet : Ipv4Packet} {protocol : TrackedProtocol}
    (fits : packet.HeaderFits) (carried : packet.carries protocol .echoRequest) {ends : Ends}
    (same : (Ends.leaving protocol packet).far = ends.far) :
    (∃ out, (translator.outbound now packet).1 = .translated out ∧
      Ends.leaving protocol out = ends) ↔
    ends.near.address = translator.externalAddress ∧
      (translator.flowOut now protocol (Ends.leaving protocol packet)).1.map (·.external.port) =
        some ends.near.port := by
  -- The packet leaves exactly if there is a flow for it.
  rcases outbound_of_carries translator now carried with
    ⟨missed, result⟩ | ⟨flow, out, found, result, outEnds⟩
  · -- Without a flow the packet does not leave at all.
    rw [result, missed]
    constructor
    · rintro ⟨out, translated, -⟩
      cases translated
    · rintro ⟨-, present⟩
      cases present
  · have left := outEnds fits
    rw [same] at left
    rw [result, found]
    constructor
    · rintro ⟨sent, translated, rfl⟩
      cases translated
      rw [left]
      exact ⟨rfl, rfl⟩
    · rintro ⟨address, port⟩
      have port : flow.external.port = ends.near.port := Option.some.inj port
      exact ⟨out, rfl, by rw [left, ← address, port]⟩

/--
Within the timeout, an answer leaves from the socket that was asked if and only if that socket has
the external address and the first flow between the ends has its port.

The request is any packet from the outside that was passed on. With several mappings to one server,
the first flow may be the one of another request.
-/
theorem answer_from_same_socket_iff {inside outside : Side} {config : TranslatorConfig}
    {start : Nat} (created : create inside outside config start = .ok translator)
    (protocol : PortProtocol) (before after : List Operation) {session later : Session}
    (reached : Session.run ⟨start, translator⟩ before = session)
    {request arrived reply : Ipv4Packet} (requestFits : request.HeaderFits)
    (asks : request.carries protocol.tracked .echoReply)
    (translated : (session.translator.inbound session.now request).1 = .translated arrived)
    (continued : (session.step (.inbound request)).run after = later)
    (soon : later.now < session.now + config.entryTimeout) (replyFits : reply.HeaderFits)
    (answers : reply.carries protocol.tracked .echoRequest)
    (returns : Ends.leaving protocol.tracked reply = Ends.arriving protocol.tracked arrived) :
    let asked := Ends.arriving protocol.tracked request
    let server := (Ends.arriving protocol.tracked arrived).near
    (∃ back, (later.translator.outbound later.now reply).1 = .translated back ∧
      Ends.leaving protocol.tracked back = asked) ↔
    asked.near.address = translator.externalAddress ∧
      (later.translator.ports protocol).portBetween later.translator.reclaimPorts later.now server
        asked.far = some asked.near.port := by
  intro asked server
  -- The request has come in through a flow, of which the server is the internal socket.
  obtain ⟨flow, found, state, arrivedEnds⟩ := inbound_translated asks translated
  have tracks := flowIn_tracks found
  rw [← state] at tracks
  have ran : Session.run ⟨start, translator⟩ (before ++ [.inbound request]) =
      session.step (.inbound request) := by
    rw [Session.run_append, reached]
    rfl
  -- The flow of the request is still there, though it need not be the first one.
  obtain ⟨kept, timeout⟩ := Session.tracks_until_timeout created ran continued tracks
    (Nat.le_refl _) soon
  have address : later.translator.externalAddress = translator.externalAddress := by
    rw [← continued, Session.run_externalAddress, ← ran, Session.run_externalAddress]
  have own : Ends.arriving protocol.tracked arrived = ⟨flow.internal, asked.far⟩ :=
    arrivedEnds requestFits
  have internal : flow.internal = server := (congrArg Ends.near own).symm
  have ends : Ends.leaving protocol.tracked reply = ⟨server, asked.far⟩ := by
    rw [returns, own, internal]
  rw [internal] at kept
  -- The reply goes back to the client, so only the socket it leaves from is in question.
  have far : (Ends.leaving protocol.tracked reply).far = asked.far := by rw [ends]
  rw [outbound_leaves_with_iff replyFits answers far, ends, address,
    flowOut_port protocol kept (by rw [timeout]; exact soon)]

/-- A web server inside, `10.0.0.10:80`, under an external port. -/
def published (port : UInt16) : Operation :=
  .addStatic .udp ⟨.ofNat 0x01020304, port⟩ ⟨.ofNat 0x0A00000A, 80⟩

/-- A datagram from a client outside, `198.51.100.7:40000`, to an external port. -/
def requested (port : UInt16) : Ipv4Packet :=
  .datagram ⟨.ofNat 0xC6336407, 40000⟩ ⟨.ofNat 0x01020304, port⟩

/-- The datagram with which the server answers the client. -/
def answered : Ipv4Packet :=
  .datagram ⟨.ofNat 0x0A00000A, 80⟩ ⟨.ofNat 0xC6336407, 40000⟩

/-- The answer of a server with one mapping leaves from the port that was asked. -/
theorem answer_from_only_port :
    ∃ translator, create lan wan {} 0 = .ok translator ∧
      let later := Session.run ⟨0, translator⟩
        [published 8080, .inbound (requested 8080), .advance 1000]
      ∃ back, (later.translator.outbound later.now answered).1 = .translated back ∧
        Ends.leaving .udp back = Ends.arriving .udp (requested 8080) := by
  have created : create lan wan {} 0 = .ok _ := rfl
  refine ⟨_, created, ?_⟩
  -- With a single mapping the condition is evaluated, and the theorem gives the answer.
  have iff := answer_from_same_socket_iff created .udp [published 8080] [.advance 1000] rfl
    (Ipv4Packet.datagram_headerFits ⟨.ofNat 0xC6336407, 40000⟩ ⟨.ofNat 0x01020304, 8080⟩)
    (Ipv4Packet.datagram_carries ..) rfl rfl (by decide)
    (Ipv4Packet.datagram_headerFits ⟨.ofNat 0x0A00000A, 80⟩ ⟨.ofNat 0xC6336407, 40000⟩)
    (Ipv4Packet.datagram_carries ..) (by decide +kernel)
  exact iff.mpr (by decide +kernel)

/-- With two mappings to one server, what is asked at the second port is answered from the first. -/
theorem answer_from_other_port :
    ∃ translator arrived back, create lan wan {} 0 = .ok translator ∧
      let session := Session.run ⟨0, translator⟩
        [published 8080, published 8081, .inbound (requested 8080)]
      let later := session.step (.inbound (requested 8081))
      (session.translator.inbound session.now (requested 8081)).1 = .translated arrived ∧
      Ends.leaving .udp answered = Ends.arriving .udp arrived ∧
      (later.translator.outbound later.now answered).1 = .translated back ∧
      (Ends.leaving .udp back).near = ⟨translator.externalAddress, 8080⟩ ∧
      Ends.leaving .udp back ≠ Ends.arriving .udp (requested 8081) := by
  refine ⟨_, _, _, rfl, rfl, ?_, rfl, ?_, ?_⟩
  · decide +kernel
  · decide +kernel
  · decide +kernel

end Translator

end NetworkLayer
