import NetworkLayer.Node.Forwarding
import NetworkLayer.Proofs.Metrics.Gauges
import NetworkLayer.Proofs.Translation.Failure

/-!
What a received packet tells the gauges. Main statement: the gauge of translations is told the number of tracked flows
when a packet is translated, and of nothing else; meanwhile a packet that is refused may cost flows that had expired.
-/

namespace NetworkLayer

namespace Translator

variable {translator : Translator} {now : Nat}

/-- A translator that tracks no flow which another one does not. -/
def Fewer (before after : Translator) : Prop :=
  ∀ protocol, (after.table protocol).flows.Sublist (before.table protocol).flows

/-- A translator tracks no more flows than itself. -/
theorem Fewer.refl (translator : Translator) : Fewer translator translator :=
  fun _ => .refl _

/-- The number of flows of a protocol is that of its table. -/
theorem size_eq (translator : Translator) (protocol : TrackedProtocol) :
    translator.size protocol = (translator.table protocol).flows.length := by
  cases protocol with
  | icmp => exact translator.icmp.indexed.size_eq
  | tcp => rfl
  | udp => rfl

/-- Fewer flows are a smaller number. -/
theorem Fewer.totalSize_le {before after : Translator} (fewer : Fewer before after) :
    after.totalSize ≤ before.totalSize := by
  have smaller (protocol : TrackedProtocol) : after.size protocol ≤ before.size protocol := by
    rw [size_eq, size_eq]
    -- The size is the sum over the three protocols.
    exact (fewer protocol).length_le
  have udp := smaller .udp
  have tcp := smaller .tcp
  have icmp := smaller .icmp
  unfold totalSize
  omega

/-- With fewer flows of one protocol with ports a translator tracks fewer. -/
theorem fewer_withPorts (protocol : PortProtocol) {state : PortState}
    (fewer : state.table.flows.Sublist (translator.ports protocol).table.flows) :
    Fewer translator (translator.withPorts protocol state) := by
  -- The protocol that was changed has the shorter table, and each other one keeps its own.
  intro other
  cases protocol with
  | tcp =>
    cases other with
    | tcp => exact fewer
    | udp => exact .refl _
    | icmp => exact .refl _
  | udp =>
    cases other with
    | udp => exact fewer
    | tcp => exact .refl _
    | icmp => exact .refl _

/-- With fewer flows of echoes a translator tracks fewer. -/
theorem fewer_withIcmp {state : EchoState}
    (fewer : state.table.flows.Sublist translator.icmp.table.flows) :
    Fewer translator { translator with icmp := state } := by
  intro protocol
  cases protocol with
  | icmp => exact fewer
  | tcp => exact .refl _
  | udp => exact .refl _

/-- A look-up in vain leaves no flow more in a table with ports. -/
theorem consulted_sublist {state : PortState} {reclaim : Bool} {selected : Flow → Bool}
    (missed : (state.table.lookup now selected).1 = none) :
    (state.consulted reclaim now selected).table.flows.Sublist state.table.flows := by
  rw [PortState.consulted_table]
  exact FlowTable.sublist_of_missed missed

/-- Where there is no way out, no flow more is tracked. -/
theorem flowOut_fewer {protocol : TrackedProtocol} {ends : Ends}
    (missed : (translator.flowOut now protocol ends).1 = none) :
    Fewer translator (translator.flowOut now protocol ends).2 := by
  -- UDP and TCP go the same way, with the state of their own.
  have ported (protocol : PortProtocol)
      (missed : ((translator.ports protocol).outbound translator.reclaimPorts
        translator.externalAddress now ends.near ends.far).1 = none) :
      Fewer translator (translator.withPorts protocol
        ((translator.ports protocol).outbound translator.reclaimPorts
          translator.externalAddress now ends.near ends.far).2) := by
    obtain ⟨nothing, result⟩ := PortState.outbound_of_missed missed
    apply fewer_withPorts
    rw [result]
    exact consulted_sublist nothing
  cases protocol with
  | icmp => exact fewer_withIcmp (EchoState.outbound_spared missed).sublist
  | tcp => exact ported .tcp missed
  | udp => exact ported .udp missed

/-- Where there is no way in, no flow more is tracked. -/
theorem flowIn_fewer {protocol : TrackedProtocol} {ends : Ends}
    (missed : (translator.flowIn now protocol ends).1 = none) :
    Fewer translator (translator.flowIn now protocol ends).2 := by
  -- UDP and TCP go the same way, with the state of their own.
  have ported (protocol : PortProtocol)
      (missed : ((translator.ports protocol).inbound translator.reclaimPorts now ends.far
        ends.near).1 = none) :
      Fewer translator (translator.withPorts protocol
        ((translator.ports protocol).inbound translator.reclaimPorts now ends.far
          ends.near).2) := by
    obtain ⟨nothing, result⟩ := PortState.inbound_of_missed missed
    apply fewer_withPorts
    rw [result]
    exact consulted_sublist nothing
  cases protocol with
  | icmp => exact fewer_withIcmp (EchoState.inbound_spared missed).sublist
  | tcp => exact ported .tcp missed
  | udp => exact ported .udp missed

/-- A packet on its way out is translated, or no flow more is tracked. -/
theorem outbound_fewer (packet : Ipv4Packet) :
    (∃ out, (translator.outbound now packet).1 = .translated out) ∨
      Fewer translator (translator.outbound now packet).2 := by
  -- A packet that names a flow is carried or missed; one that names none is refused before any table is
  -- consulted.
  rcases translator.outbound_carried_or_refused now packet with
    ⟨protocol, carried⟩ | ⟨refusal, -, result⟩
  · rcases outbound_of_carries translator now carried with
      ⟨missed, result⟩ | ⟨flow, out, -, result, -⟩
    · right
      rw [result]
      exact flowOut_fewer missed
    · left
      rw [result]
      exact ⟨out, rfl⟩
  · right
    rw [result]
    exact .refl _

/-- A packet on its way in is translated, or no flow more is tracked. -/
theorem inbound_fewer (packet : Ipv4Packet) :
    (∃ back, (translator.inbound now packet).1 = .translated back) ∨
      Fewer translator (translator.inbound now packet).2 := by
  -- A packet that names a flow is carried or missed. Any other is refused, and the translator stays as it is.
  rcases translator.inbound_carried_or_refused now packet with
    ⟨protocol, carried⟩ | ⟨refusal, -, result⟩
  · rcases inbound_of_carries translator now carried with
      ⟨missed, result⟩ | ⟨flow, back, -, result, -⟩
    · right
      rw [result]
      exact flowIn_fewer missed
    · left
      rw [result]
      exact ⟨back, rfl⟩
  · right
    rw [result]
    exact .refl _

end Translator

/-- Number of flows that a policy tracks. -/
def Policy.tracked {family : Family} (policy : Policy family) : Nat :=
  match policy with
  | .translating translator => translator.totalSize
  | _ => 0

/-- What a received packet tells the gauges: nothing of routes, and of translations either the number that is tracked
after it, or nothing while the number has not grown. In IPv6 nothing is translated. -/
structure Policy.Tells {family : Family} (before after : Policy family) (tallies : List Tally) :
    Prop where
  routes : tallies.filterMap Tally.routes? = []
  translations : tallies.filterMap Tally.translations? = [after.tracked] ∨
    tallies.filterMap Tally.translations? = [] ∧ after.tracked ≤ before.tracked
  untranslated : family = .v6 → tallies.filterMap Tally.translations? = []

/-- A policy that stays as it is has nothing to tell. -/
theorem Policy.Tells.refl {family : Family} (policy : Policy family) : Tells policy policy [] :=
  ⟨rfl, .inr ⟨rfl, Nat.le_refl _⟩, fun _ => rfl⟩

/-- A translation is told, and a failure tells nothing. -/
theorem Translator.settle_tells {translator : Translator} (counter : Counter)
    {result : Translation × Translator}
    (fewer : (∃ out, result.1 = .translated out) ∨ Fewer translator result.2) :
    Policy.Tells (.translating translator) (.translating (receive.settle counter result).2.1)
      (receive.settle counter result).2.2 := by
  rcases result with ⟨translation, after⟩
  rcases fewer with ⟨out, translated⟩ | fewer
  · cases translated
    exact ⟨rfl, .inl rfl, nofun⟩
  · -- A failure may have dropped flows that were too old, so only their number can be less.
    have smaller : after.totalSize ≤ translator.totalSize := fewer.totalSize_le
    -- Only a translated packet is followed by the number of flows.
    cases translation with
    | translated packet => exact ⟨rfl, .inl rfl, nofun⟩
    | _ => exact ⟨rfl, .inr ⟨rfl, smaller⟩, nofun⟩

/-- A translator tells the gauges of the packets that it translates. -/
theorem Translator.receive_tells (translator : Translator) (now : Nat) (owns : Address .v4 → Bool)
    (ingress : InterfaceId) (packet : Ipv4Packet) :
    Policy.Tells (.translating translator)
      (.translating (translator.receive now owns ingress packet).2.1)
      (translator.receive now owns ingress packet).2.2 := by
  unfold receive
  dsimp only
  -- Only what leaves the inside and what comes back to it is looked up.
  split
  · split
    · exact .refl _
    · exact settle_tells .translatedOut (outbound_fewer packet)
  · split
    · split
      · exact settle_tells .translatedIn (inbound_fewer packet)
      · exact .refl _
    · exact .refl _

variable {family : Family}

/-- A policy tells the gauges of the packets that it translates. -/
theorem Policy.receive_tells (policy : Policy family) (now : Nat) (owns : Address family → Bool)
    (ingress : InterfaceId) (packet : Packet family) :
    Tells policy (policy.receive now owns ingress packet).2.1
      (policy.receive now owns ingress packet).2.2 := by
  cases policy with
  | plain => exact .refl _
  | ruled rules => exact .refl _
  | translating translator => exact translator.receive_tells now owns ingress packet

namespace Reaction

/-- A reaction that tells no gauge anything. -/
def Ungauged (reaction : Reaction family) : Prop :=
  reaction.tallies.filterMap Tally.routes? = [] ∧
    reaction.tallies.filterMap Tally.translations? = []

variable {reaction : Reaction family}

/-- More counts tell no gauge anything. -/
theorem Ungauged.after (ungauged : reaction.Ungauged) {tallies : List Tally}
    (routes : tallies.filterMap Tally.routes? = [])
    (translations : tallies.filterMap Tally.translations? = []) :
    (reaction.after tallies).Ungauged := by
  constructor
  · rw [Reaction.after, List.filterMap_append, routes, ungauged.1]
    rfl
  · rw [Reaction.after, List.filterMap_append, translations, ungauged.2]
    rfl

/-- Counting tells no gauge anything. -/
theorem ungauged_counting (counters : List Counter) :
    (counting counters : Reaction family).Ungauged := by
  constructor
  · simp [counting, Tally.one, Tally.routes?]
  · simp [counting, Tally.one, Tally.translations?]

end Reaction

namespace Station

variable (station : Station family) (policy : Policy family) (ingress : InterfaceId)

/-- A packet that is routed tells no gauge anything. -/
theorem sendRouted_ungauged (packet : Bytes) (destination : Address family) :
    (station.sendRouted packet destination).2.Ungauged := by
  unfold sendRouted
  split
  · exact Reaction.ungauged_counting _
  · exact ⟨rfl, rfl⟩

/-- A packet that starts at the node tells no gauge anything. -/
theorem send_ungauged (packet : Packet family) : (station.send packet).2.Ungauged := by
  unfold send
  dsimp only
  split
  · exact ⟨rfl, rfl⟩
  · split
    -- Each copy for a group is counted as sent.
    · constructor
      · simp [sendAll, handOver, List.filterMap_flatMap, List.flatMap_map, Tally.routes?]
      · simp [sendAll, handOver, List.filterMap_flatMap, List.flatMap_map, Tally.translations?]
    · exact station.sendRouted_ungauged ..

/-- A report tells no gauge anything. -/
theorem report_ungauged (error : ControlError) (offending : Packet family) :
    (station.report policy error offending).Ungauged := by
  unfold report
  -- Errors are not reported, or there is no address to report from, or the report is sent, which is where the
  -- counting is.
  split
  · exact ⟨rfl, rfl⟩
  · split
    · exact ⟨rfl, rfl⟩
    · split
      · exact Reaction.ungauged_counting _
      · exact (station.send_ungauged _).after rfl rfl

/-- An echo tells no gauge anything. -/
theorem answerEcho_ungauged (request : Packet family) :
    (station.answerEcho ingress request).Ungauged := by
  unfold answerEcho
  dsimp only
  split
  · exact ⟨rfl, rfl⟩
  · exact (station.send_ungauged _).after rfl rfl

/-- A delivery tells no gauge anything. -/
theorem deliver_ungauged (packet : Packet family) :
    (station.deliver policy ingress packet).Ungauged := by
  unfold deliver
  -- Only an answer to an echo request and a refusal are sent. What is handed up counts nothing more.
  refine Reaction.Ungauged.after ?_ rfl rfl
  split
  · exact ⟨rfl, rfl⟩
  · exact station.answerEcho_ungauged ingress packet
  · split
    · exact ⟨rfl, rfl⟩
    · split
      · exact station.report_ungauged policy _ packet
      · exact ⟨rfl, rfl⟩

/-- A forwarded packet tells no gauge anything. -/
theorem forward_ungauged (packet : Packet family) : (station.forward policy packet).Ungauged := by
  unfold forward
  -- No route, no hop left, and a packet that cannot be shortened each count one thing. A packet that is sent
  -- may be followed by a note of a redirect.
  split
  · exact Reaction.ungauged_counting _
  · split
    · exact (station.report_ungauged policy _ packet).after rfl rfl
    · split
      · exact Reaction.ungauged_counting _
      · rename_i out _
        have sent := station.sendRouted_ungauged out.bytes out.destination
        dsimp only
        split
        · exact sent.after rfl rfl
        · exact sent

/-- A packet that is taken in tells no gauge anything, whatever segments it visits. -/
theorem takeIn_ungauged (visits : Nat) (packet : Packet family) :
    (station.takeIn policy ingress visits packet).Ungauged := by
  -- Induction on the visits: a segment that is an own address is taken in again with one visit less.
  induction visits generalizing packet with
  | zero => exact station.deliver_ungauged policy ingress packet
  | succ visits ih =>
    unfold takeIn
    split
    · split
      · exact station.deliver_ungauged policy ingress _
      · exact Reaction.ungauged_counting _
      · split
        · exact ih _
        · exact station.forward_ungauged policy _
    · exact station.deliver_ungauged policy ingress packet

/-- The verdict on a packet tells no gauge anything. -/
theorem dispatch_ungauged (packet : Packet family) :
    (station.dispatch policy ingress packet).Ungauged := by
  unfold dispatch
  dsimp only
  -- The three verdicts are handled apart.
  split
  · exact station.takeIn_ungauged policy ingress _ packet
  · exact station.forward_ungauged policy packet
  · exact Reaction.ungauged_counting _

/-- A received packet tells the gauges what the policy does. -/
theorem receive_tells (now : Nat) (data : Bytes) :
    policy.Tells (station.receive policy now ingress data).2
      (station.receive policy now ingress data).1.tallies := by
  unfold receive
  dsimp only
  -- A buffer that is no packet changes neither the policy nor a gauge.
  split
  · exact ⟨rfl, .inr ⟨rfl, Nat.le_refl _⟩, fun _ => rfl⟩
  · rename_i packet read
    have told := policy.receive_tells now station.hasAddress ingress packet
    generalize policy.receive now station.hasAddress ingress packet = result at told ⊢
    obtain ⟨passed, after, tallies⟩ := result
    dsimp only at told ⊢
    cases passed with
    | none => exact ⟨told.routes, told.translations, told.untranslated⟩
    -- The policy has told what there is to tell before the verdict.
    | some passed =>
      obtain ⟨routes, translations⟩ := station.dispatch_ungauged after ingress passed
      have both : (tallies ++ (station.dispatch after ingress passed).tallies).filterMap
          Tally.translations? = tallies.filterMap Tally.translations? := by
        rw [List.filterMap_append, translations, List.append_nil]
      refine ⟨?_, ?_, ?_⟩
      · have silent : (tallies ++ (station.dispatch after ingress passed).tallies).filterMap
            Tally.routes? = [] := by
          rw [List.filterMap_append, told.routes, routes]
          rfl
        exact silent
      · have told := told.translations
        rw [← both] at told
        exact told
      · intro six
        exact both.trans (told.untranslated six)

end Station

end NetworkLayer
