import NetworkLayer.Proofs.Translation.Datagram
import NetworkLayer.Proofs.Translation.Passage

/-!
What a translator lets in from the outside. A packet to the node or to an internal address passes
only through a live flow or a static mapping, to the internal socket of that flow or mapping.
-/

namespace NetworkLayer

/-- What a look-up finds on the way in was tracked, live and between the two sockets. -/
theorem FlowTable.lookupInbound_found {table : FlowTable} {now : Nat} {remote external : Endpoint}
    {flow : Flow} (found : (table.lookupInbound now remote external).1 = some flow) :
    ∃ old ∈ table.flows, old.isLive table.timeout now ∧ old.remote = remote ∧
      old.external = external ∧ old.internal = flow.internal := by
  obtain ⟨old, first, live, rfl⟩ := lookup_eq_some_iff.mp found
  -- A due sweep only takes flows out, so the flow was there before.
  have tracked := (sweepIfDue_sublist table now).subset (List.mem_of_find?_eq_some first)
  have selected := List.find?_some first
  simp only [Bool.and_eq_true, beq_iff_eq] at selected
  exact ⟨old, tracked, live, selected.1, selected.2, rfl⟩

/-- A packet with ports arrives through a live flow, or through the mapping of its socket. -/
theorem PortState.inbound_found {state : PortState} {reclaim : Bool} {now : Nat}
    {remote external : Endpoint} {flow : Flow}
    (found : (state.inbound reclaim now remote external).1 = some flow) :
    (∃ old ∈ state.table.flows, old.isLive state.table.timeout now ∧ old.remote = remote ∧
      old.external = external ∧ old.internal = flow.internal) ∨
    state.statics.get? external = some flow.internal := by
  -- An expired flow is not found, and then only a mapping helps.
  rcases state.inbound_cases reclaim now remote external with
    ⟨old, lookedUp, result⟩ | ⟨-, ⟨-, result⟩ | ⟨internal, mapping, result⟩⟩
  · rw [result] at found
    cases found
    exact Or.inl (FlowTable.lookupInbound_found lookedUp)
  · rw [result] at found
    cases found
  · rw [result] at found
    cases found
    exact Or.inr mapping

namespace Translator

variable {translator : Translator} {now : Nat} {protocol : TrackedProtocol} {packet : Ipv4Packet}

/--
Whether a packet between given ends may come in to an internal socket.

Either a live flow ties the far end to that socket through the near end, or a mapping leads to it,
which only protocols with ports have.
-/
def Admits (translator : Translator) (now : Nat) (protocol : TrackedProtocol) (ends : Ends)
    (internal : Endpoint) : Prop :=
  (∃ flow ∈ (translator.table protocol).flows,
    flow.isLive (translator.table protocol).timeout now ∧ flow.remote = ends.far ∧
      flow.external = ends.near ∧ flow.internal = internal) ∨
  ∃ ported : PortProtocol, ported.tracked = protocol ∧
    (translator.ports ported).statics.get? ends.near = some internal

/-- A packet comes in only where it is admitted. -/
theorem flowIn_admits {ends : Ends} {flow : Flow}
    (found : (translator.flowIn now protocol ends).1 = some flow) :
    translator.Admits now protocol ends flow.internal := by
  -- The echo state has no mappings, and the two protocols with ports are alike.
  cases protocol with
  | icmp => exact Or.inl (FlowTable.lookupInbound_found found)
  | tcp => exact (PortState.inbound_found found).imp_right fun mapping => ⟨.tcp, rfl, mapping⟩
  | udp => exact (PortState.inbound_found found).imp_right fun mapping => ⟨.udp, rfl, mapping⟩

/-- A packet that is translated on its way in is of a tracked protocol and was admitted. -/
theorem inbound_admits (fits : packet.HeaderFits) {out : Ipv4Packet}
    (translated : (translator.inbound now packet).1 = .translated out) :
    ∃ protocol, packet.carries protocol .echoReply ∧
      translator.Admits now protocol (Ends.arriving protocol packet)
        (Ends.arriving protocol out).near := by
  rcases translator.inbound_carried_or_refused now packet with
    ⟨protocol, carried⟩ | ⟨refusal, refused, result⟩
  · obtain ⟨flow, found, -, ends⟩ := inbound_translated carried translated
    refine ⟨protocol, carried, ?_⟩
    rw [ends fits]
    exact flowIn_admits found
  · -- What is refused is not translated.
    rw [result] at translated
    subst translated
    cases refused

/-- The two interfaces of a translator and its internal prefixes, which are fixed when it is made. -/
def fixture (translator : Translator) : InterfaceId × InterfaceId × List (Prefix .v4) :=
  (translator.internal, translator.external, translator.internalNets)

/-- A change of the state of a protocol with ports leaves the interfaces and prefixes alone. -/
@[simp] theorem withPorts_fixture (translator : Translator) (protocol : PortProtocol)
    (state : PortState) : (translator.withPorts protocol state).fixture = translator.fixture := by
  cases protocol <;> rfl

/-- Looking a flow up leaves the interfaces and prefixes alone. -/
theorem flowOut_fixture (translator : Translator) (now : Nat) (protocol : TrackedProtocol)
    (ends : Ends) : (translator.flowOut now protocol ends).2.fixture = translator.fixture := by
  cases protocol with
  | icmp => rfl
  | tcp => exact withPorts_fixture ..
  | udp => exact withPorts_fixture ..

/-- Looking the flow of an arriving packet up leaves the interfaces and prefixes alone. -/
theorem flowIn_fixture (translator : Translator) (now : Nat) (protocol : TrackedProtocol)
    (ends : Ends) : (translator.flowIn now protocol ends).2.fixture = translator.fixture := by
  cases protocol with
  | icmp => rfl
  | tcp => exact withPorts_fixture ..
  | udp => exact withPorts_fixture ..

/-- No operation touches the interfaces and prefixes. -/
theorem Session.step_fixture (session : Session) (operation : Operation) :
    (session.step operation).translator.fixture = session.translator.fixture := by
  cases operation with
  | outbound packet =>
    -- A packet changes the flows of one protocol, or nothing.
    rcases outbound_state session.translator session.now packet with
      same | ⟨protocol, ends, looked⟩
    · simp only [step, same]
    · simp only [step, looked, flowOut_fixture]
  | inbound packet =>
    rcases inbound_state session.translator session.now packet with
      same | ⟨protocol, ends, looked⟩
    · simp only [step, same]
    · simp only [step, looked, flowIn_fixture]
  | addStatic protocol external internal =>
    -- Only the protocols with ports take mappings.
    cases protocol with
    | icmp => rfl
    | tcp => exact withPorts_fixture _ .tcp _
    | udp => exact withPorts_fixture _ .udp _
  | removeStatic protocol external =>
    have unmapped (ported : PortProtocol) :
        (session.step (.removeStatic ported.tracked external)).translator.fixture =
          session.translator.fixture := by
      simp only [step, removeStatic_tracked, withPorts_fixture]
    cases protocol with
    | icmp => rfl
    | tcp => exact unmapped .tcp
    | udp => exact unmapped .udp
  | advance span => rfl

/-- No run touches the interfaces and prefixes. -/
theorem Session.run_fixture (session : Session) (operations : List Operation) :
    (session.run operations).translator.fixture = session.translator.fixture := by
  induction operations generalizing session with
  | nil => rfl
  | cons operation rest ih => exact (ih (session.step operation)).trans (session.step_fixture _)

/-- A translator is made between two different interfaces. -/
theorem create_sides {inside outside : Side} {config : TranslatorConfig} {start : Nat}
    (created : create inside outside config start = .ok translator) :
    translator.internal ≠ outside.interface ∧ translator.external = outside.interface := by
  simp only [create, bind, Except.bind] at created
  split at created
  · cases created
  -- The check for different interfaces comes first.
  rename_i apart
  have different : inside.interface ≠ outside.interface := fun same => by simp [same] at apart
  split at created
  · cases created
  -- Where the external address comes from does not matter for the interfaces.
  split at created
  · cases created
    exact ⟨different, rfl⟩
  split at created
  · cases created
    exact ⟨different, rfl⟩
  · cases created

/--
What passes from the outside to the inside was asked for.

After any run, a packet from the external interface to an address of the node or of an internal
prefix passes only if it is UDP, TCP or an echo reply, and then its new destination is the internal
socket of a live flow between its ends or of the mapping of its destination socket. A packet to any
other address passes as it is, and not to an internal prefix.
-/
theorem admitted_from_outside {inside outside : Side} {config : TranslatorConfig} {start : Nat}
    (created : create inside outside config start = .ok translator) (operations : List Operation)
    {session : Session} (reached : Session.run ⟨start, translator⟩ operations = session)
    (owns : Address .v4 → Bool) {packet out : Ipv4Packet} (fits : packet.HeaderFits)
    (passed : (session.translator.receive session.now owns outside.interface packet).1 =
      some out) :
    (owns packet.destination ∨ session.translator.isInside packet.destination →
      ∃ protocol, packet.carries protocol .echoReply ∧
        session.translator.Admits session.now protocol (Ends.arriving protocol packet)
          (Ends.arriving protocol out).near) ∧
    (¬ (owns packet.destination ∨ session.translator.isInside packet.destination) →
      out = packet ∧ ¬ session.translator.isInside out.destination) := by
  obtain ⟨different, same⟩ := create_sides created
  have fixture := Session.run_fixture ⟨start, translator⟩ operations
  simp only [reached, Translator.fixture, Prod.mk.injEq] at fixture
  rw [← fixture.1] at different
  rw [← fixture.2.1] at same
  rw [receive, if_neg different.symm, if_pos same.symm] at passed
  -- Only what is not for the inside goes around the translation.
  split at passed
  · rename_i concerned
    rw [isInternal, Bool.or_eq_true] at concerned
    exact ⟨fun _ => inbound_admits fits (settle_some passed), fun other => absurd concerned other⟩
  · rename_i concerned
    rw [isInternal, Bool.or_eq_true] at concerned
    obtain rfl := Option.some.inj passed
    exact ⟨fun inner => absurd inner concerned, fun other => ⟨rfl, fun inside => other (.inr inside)⟩⟩

/-- The answer to a host's datagram passes to the host, through the live flow of the datagram. -/
theorem answer_admitted_from_outside :
    ∃ translator, create lan wan onePort 0 = .ok translator ∧
      let later := Session.run ⟨0, translator⟩ [.outbound (.datagram host server), .advance 1000]
      let answer := Ipv4Packet.datagram server ⟨.ofNat 0x01020304, 6200⟩
      ∃ out, (later.translator.receive later.now (· == .ofNat 0x01020304) wan.interface
          answer).1 = some out ∧
        ∃ protocol, answer.carries protocol .echoReply ∧
          later.translator.Admits later.now protocol (Ends.arriving protocol answer)
            (Ends.arriving protocol out).near := by
  -- The run is concrete, so the answer is let in by evaluation, and the theorem says through what.
  have created : create lan wan onePort 0 = .ok _ := rfl
  refine ⟨_, created, ?_⟩
  intro later answer
  obtain ⟨out, passed⟩ : ∃ out, (later.translator.receive later.now (· == .ofNat 0x01020304)
      wan.interface answer).1 = some out := Option.isSome_iff_exists.mp (by decide +kernel)
  have admitted := admitted_from_outside created _ (show _ = later from rfl) _
    (Ipv4Packet.datagram_headerFits ..) passed
  exact ⟨out, passed, admitted.1 (Or.inl (by decide +kernel))⟩

end Translator

end NetworkLayer
