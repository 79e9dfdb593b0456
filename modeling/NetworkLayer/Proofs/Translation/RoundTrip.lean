import NetworkLayer.Proofs.Translation.Datagram
import NetworkLayer.Proofs.Translation.Tracking

/-!
Within the timeout a reply goes back to the socket that asked, since no other flow ties the remote
socket to the external one.
-/

namespace NetworkLayer.Translator

variable {translator : Translator} {protocol : TrackedProtocol}

/-- If only sockets of the external address are mapped, every flow is at that address. -/
theorem Guarded.address {address : Address .v4} (own : translator.externalAddress = address)
    (guarded : translator.Guarded fun socket => socket.address = address) {flow : Flow}
    (tracked : flow ∈ (translator.table protocol).flows) : flow.external.address = address := by
  have ported (protocol : PortProtocol)
      (tracked : flow ∈ (translator.ports protocol).table.flows) :
      flow.external.address = address := by
    -- A flow of the pool is at the external address, and a mapped one where its mapping is.
    rcases (guarded.ports protocol).placed flow (List.mem_append_left _ tracked) with
      placed | mapped
    · exact placed.trans own
    · exact mapped
  cases protocol with
  | icmp => exact (guarded.icmp.placed flow tracked).trans own
  | tcp => exact ported .tcp tracked
  | udp => exact ported .udp tracked

/--
Within the timeout, whatever else happens, a reply goes back to the socket that asked.

Only sockets of the external address are mapped. The reply is one of the same protocol from the
remote socket to the one that the request left with.
-/
theorem reply_reaches_sender {inside outside : Side} {config : TranslatorConfig} {start : Nat}
    (created : create inside outside config start = .ok translator)
    (before after : List Operation) (permitted : ∀ operation ∈ before ++ after,
      operation.MapsOnly fun socket => socket.address = translator.externalAddress)
    {session later : Session} (reached : Session.run ⟨start, translator⟩ before = session)
    {request out reply : Ipv4Packet} (requestFits : request.HeaderFits)
    (asks : request.carries protocol .echoRequest)
    (translated : (session.translator.outbound session.now request).1 = .translated out)
    (continued : (session.step (.outbound request)).run after = later)
    (soon : later.now < session.now + config.entryTimeout) (replyFits : reply.HeaderFits)
    (answers : reply.carries protocol .echoReply)
    (returns : Ends.arriving protocol reply = Ends.leaving protocol out) :
    ∃ back, (later.translator.inbound later.now reply).1 = .translated back ∧
      Ends.arriving protocol back = Ends.leaving protocol request := by
  obtain ⟨flow, found, sentState, sentEnds⟩ := outbound_translated asks translated
  -- The guard holds before the request, after it, and when the reply comes.
  have new : translator.Guarded fun socket => socket.address = translator.externalAddress :=
    create_guarded created fun _ own _ _ => own
  have guarded := Session.run_guarded ⟨start, translator⟩ new fun operation member =>
    permitted operation (List.mem_append_left after member)
  have address := Session.run_externalAddress ⟨start, translator⟩ before
  rw [reached] at guarded address
  have sent := session.step_change (fun socket => socket.address = translator.externalAddress)
    (.outbound request) trivial
  have ended := Session.run_guarded _ (guarded.change sent) fun operation member =>
    permitted operation (List.mem_append_right before member)
  rw [continued] at ended
  -- The flow is at the external address, so the reply comes to its external socket.
  have tracks := flowOut_tracks found
  rw [← sentState] at tracks
  have returned : Ends.arriving protocol reply =
      ⟨flow.external, (Ends.leaving protocol request).far⟩ := by
    obtain ⟨tracked, member, -, -, external, -⟩ := tracks
    have placed := (guarded.change sent).address (sent.externalAddress.trans address) member
    rw [returns, sentEnds requestFits, address, ← placed, external]
  have asked : Session.run ⟨start, translator⟩ (before ++ [.outbound request]) =
      session.step (.outbound request) := by
    rw [Session.run_append, reached]
    rfl
  -- Less than the timeout later the flow is still tracked, whatever has happened in between.
  obtain ⟨kept, timeout⟩ := Session.tracks_until_timeout created asked continued tracks
    (Nat.le_refl _) soon
  obtain ⟨arrived, foundBack, internal⟩ :=
    flowIn_of_tracks ⟨flow.external, _⟩ kept ended (by rw [timeout]; exact soon)
  rw [← returned] at foundBack
  obtain ⟨back, result, backEnds⟩ := inbound_of_flow answers foundBack
  -- The reply goes to the internal socket of the flow, which sent the request.
  refine ⟨back, result, ?_⟩
  rw [backEnds replyFits, internal, returned]

/-- A second after a datagram has left, the answer to its external socket comes back to the host. -/
theorem reply_reaches_host :
    ∃ translator, create lan wan onePort 0 = .ok translator ∧
      let later := Session.run ⟨0, translator⟩ [.outbound (.datagram host server), .advance 1000]
      let reply := Ipv4Packet.datagram server ⟨translator.externalAddress, 6200⟩
      ∃ back, (later.translator.inbound later.now reply).1 = .translated back ∧
        Ends.arriving .udp back = Ends.leaving .udp (.datagram host server) := by
  have created : create lan wan onePort 0 = .ok _ := rfl
  refine ⟨_, created, ?_⟩
  refine reply_reaches_sender created [] [.advance 1000] ?_ rfl
    (Ipv4Packet.datagram_headerFits host server) (Ipv4Packet.datagram_carries host server _) rfl rfl
    (by decide) (Ipv4Packet.datagram_headerFits ..) (Ipv4Packet.datagram_carries ..)
    (by decide +kernel)
  -- A second that passes maps nothing.
  intro operation member
  simp only [List.nil_append, List.mem_singleton] at member
  rw [member]
  trivial

end NetworkLayer.Translator
