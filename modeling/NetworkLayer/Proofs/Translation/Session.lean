import NetworkLayer.Proofs.Translation.EchoState
import NetworkLayer.Proofs.Translation.PortState
import NetworkLayer.Proofs.Translation.Rewriting

/-!
Runs of a translator: any order of packets both ways, static mappings and time that passes. What an
operation makes of the state of each protocol is one change of that state.
-/

namespace NetworkLayer.Translator

/-- One use of a translator, or time that passes. -/
inductive Operation
  | outbound (packet : Ipv4Packet)
  | inbound (packet : Ipv4Packet)
  | addStatic (protocol : TrackedProtocol) (external internal : Endpoint)
  | removeStatic (protocol : TrackedProtocol) (external : Endpoint)
  | advance (span : Nat)
deriving DecidableEq

/-- Whether an operation maps only allowed external sockets. -/
def Operation.MapsOnly (allowed : Endpoint → Prop) : Operation → Prop
  | addStatic _ external _ => allowed external
  | _ => True

/-- An operation may map any socket when all are allowed. -/
theorem Operation.mapsOnly_any (operation : Operation) : operation.MapsOnly fun _ => True := by
  cases operation <;> trivial

/-- A translator and the clock that each of its operations reads once. -/
structure Session where
  now : Nat
  translator : Translator

namespace Session

/-- The session after an operation. -/
def step (session : Session) : Operation → Session
  | .outbound packet =>
    { session with translator := (session.translator.outbound session.now packet).2 }
  | .inbound packet =>
    { session with translator := (session.translator.inbound session.now packet).2 }
  | .addStatic protocol external internal =>
    match session.translator.addStatic protocol external internal with
    | .ok translator => { session with translator }
    -- A mapping that is refused changes nothing.
    | .error _ => session
  | .removeStatic protocol external =>
    { session with translator := (session.translator.removeStatic protocol external).2 }
  | .advance span => { session with now := session.now + span }

/-- The session after a run of operations. -/
def run (session : Session) (operations : List Operation) : Session :=
  operations.foldl step session

end Session

section Ports

variable (translator : Translator) (protocol : PortProtocol) (state : PortState)

/-- The state of a protocol that was put in. -/
@[simp] theorem withPorts_ports_self :
    (translator.withPorts protocol state).ports protocol = state := by
  cases protocol <;> rfl

/-- The state of the other protocol stays. -/
theorem withPorts_ports_of_ne {other : PortProtocol} (different : other ≠ protocol) :
    (translator.withPorts protocol state).ports other = translator.ports other := by
  cases protocol <;> cases other <;> first | rfl | exact absurd rfl different

/-- The echo state stays. -/
@[simp] theorem withPorts_icmp : (translator.withPorts protocol state).icmp = translator.icmp := by
  cases protocol <;> rfl

/-- The external address stays. -/
@[simp] theorem withPorts_externalAddress :
    (translator.withPorts protocol state).externalAddress = translator.externalAddress := by
  cases protocol <;> rfl

/-- Whether ports are reclaimed stays. -/
@[simp] theorem withPorts_reclaimPorts :
    (translator.withPorts protocol state).reclaimPorts = translator.reclaimPorts := by
  cases protocol <;> rfl

end Ports

/--
What an operation may make of a translator: one change of each protocol's state.

The external address stays, and so does the choice to reclaim ports or not.
-/
structure Change (allowed : Endpoint → Prop) (now : Nat) (before after : Translator) : Prop where
  externalAddress : after.externalAddress = before.externalAddress
  reclaimPorts : after.reclaimPorts = before.reclaimPorts
  ports : ∀ protocol, PortState.Change allowed before.reclaimPorts before.externalAddress now
    (before.ports protocol) (after.ports protocol)
  icmp : EchoState.Change before.externalAddress now before.icmp after.icmp

namespace Change

variable {allowed : Endpoint → Prop} {now : Nat} {translator : Translator}

/-- A translator may stay as it is. -/
theorem refl : Change allowed now translator translator where
  externalAddress := rfl
  reclaimPorts := rfl
  ports _ := .same
  icmp := .same

/-- A translator may change the state of one protocol with ports. -/
theorem withPorts (protocol : PortProtocol) {state : PortState}
    (change : PortState.Change allowed translator.reclaimPorts translator.externalAddress now
      (translator.ports protocol) state) :
    Change allowed now translator (translator.withPorts protocol state) where
  externalAddress := withPorts_externalAddress ..
  reclaimPorts := withPorts_reclaimPorts ..
  -- The state of this protocol is replaced, and the others are the same.
  ports other := by
    by_cases same : other = protocol
    · rw [same, withPorts_ports_self]
      exact change
    · rw [withPorts_ports_of_ne _ _ _ same]
      exact .same
  icmp := by
    rw [withPorts_icmp]
    exact .same

/-- A translator may change its echo state. -/
theorem withIcmp {state : EchoState}
    (change : EchoState.Change translator.externalAddress now translator.icmp state) :
    Change allowed now translator { translator with icmp := state } where
  externalAddress := rfl
  reclaimPorts := rfl
  ports protocol := by cases protocol <;> exact .same
  icmp := change

/-- Looking the flow of a leaving packet up is a change. -/
theorem flowOut (protocol : TrackedProtocol) (ends : Ends) :
    Change allowed now translator (translator.flowOut now protocol ends).2 := by
  -- Each protocol changes its own state.
  cases protocol with
  | icmp => exact withIcmp (.outbound ..)
  | tcp => exact withPorts .tcp (.outbound ..)
  | udp => exact withPorts .udp (.outbound ..)

/-- Looking the flow of an arriving packet up is a change. -/
theorem flowIn (protocol : TrackedProtocol) (ends : Ends) :
    Change allowed now translator (translator.flowIn now protocol ends).2 := by
  -- Each protocol changes its own state.
  cases protocol with
  | icmp => exact withIcmp (.inbound ..)
  | tcp => exact withPorts .tcp (.inbound ..)
  | udp => exact withPorts .udp (.inbound ..)

/-- Translating a packet on its way out is a change. -/
theorem outbound (translator : Translator) (packet : Ipv4Packet) :
    Change allowed now translator (translator.outbound now packet).2 := by
  rcases outbound_state translator now packet with same | ⟨protocol, ends, looked⟩
  · rw [same]
    exact refl
  · rw [looked]
    exact flowOut protocol ends

/-- Translating a packet on its way in is a change. -/
theorem inbound (translator : Translator) (packet : Ipv4Packet) :
    Change allowed now translator (translator.inbound now packet).2 := by
  rcases inbound_state translator now packet with same | ⟨protocol, ends, looked⟩
  · rw [same]
    exact refl
  · rw [looked]
    exact flowIn protocol ends

end Change

/-- Putting a mapping in changes the state of its protocol. -/
theorem addStatic_tracked (translator : Translator) (protocol : PortProtocol)
    (external internal : Endpoint) :
    translator.addStatic protocol.tracked external internal =
      .ok (translator.withPorts protocol
        ((translator.ports protocol).mapped external internal)) := by
  cases protocol <;> rfl

/-- Taking a mapping out changes the state of its protocol. -/
theorem removeStatic_tracked (translator : Translator) (protocol : PortProtocol)
    (external : Endpoint) :
    (translator.removeStatic protocol.tracked external).2 =
      translator.withPorts protocol ((translator.ports protocol).unmapped external) := by
  have ported : portProtocol? protocol.tracked = some protocol := by cases protocol <;> rfl
  simp only [removeStatic, ported, PortState.unmapped]
  split
  · simp only [PortState.freed]
    -- The port is given back unless something else holds it.
    split
    · rfl
    · rfl
  · -- Without such a mapping, what is put in is what was there.
    cases protocol <;> rfl

/-- What one operation makes of the translator of a session is a change. -/
theorem Session.step_change (allowed : Endpoint → Prop) (session : Session) (operation : Operation)
    (permitted : operation.MapsOnly allowed) :
    Change allowed session.now session.translator (session.step operation).translator := by
  -- A packet and a mapping change the state of one protocol, and time changes none.
  cases operation with
  | outbound packet => exact Change.outbound ..
  | inbound packet => exact Change.inbound ..
  | advance span => exact Change.refl
  | addStatic protocol external internal =>
    have mapped (ported : PortProtocol) : Change allowed session.now session.translator
        (session.step (.addStatic ported.tracked external internal)).translator := by
      simp only [step, addStatic_tracked]
      exact Change.withPorts ported (.mapped external internal permitted)
    cases protocol with
    | icmp => exact Change.refl
    | tcp => exact mapped .tcp
    | udp => exact mapped .udp
  | removeStatic protocol external =>
    have unmapped (ported : PortProtocol) : Change allowed session.now session.translator
        (session.step (.removeStatic ported.tracked external)).translator := by
      simp only [step, removeStatic_tracked]
      exact Change.withPorts ported (.unmapped external)
    cases protocol with
    | icmp => exact Change.refl
    | tcp => exact unmapped .tcp
    | udp => exact unmapped .udp

/-- No operation turns the clock back. -/
theorem Session.step_now (session : Session) (operation : Operation) :
    session.now ≤ (session.step operation).now := by
  -- Only time that passes moves the clock.
  cases operation with
  | advance span => exact Nat.le_add_right ..
  | addStatic protocol external internal =>
    simp only [step]
    split
    · exact Nat.le_refl _
    · exact Nat.le_refl _
  | outbound packet => exact Nat.le_refl _
  | inbound packet => exact Nat.le_refl _
  | removeStatic protocol external => exact Nat.le_refl _

/-- What every change and the passing of time keep holds after every run. -/
theorem Session.run_induction (allowed : Endpoint → Prop) (property : Session → Prop)
    (changed : ∀ now before after, Change allowed now before after →
      property ⟨now, before⟩ → property ⟨now, after⟩)
    (later : ∀ now next translator, now ≤ next → property ⟨now, translator⟩ →
      property ⟨next, translator⟩)
    {operations : List Operation} (permitted : ∀ operation ∈ operations, operation.MapsOnly allowed)
    {session : Session} (start : property session) : property (session.run operations) := by
  -- The induction is on the operations; each is one change, after which time may have passed.
  induction operations generalizing session with
  | nil => exact start
  | cons operation rest ih =>
    refine ih (fun other member => permitted other (List.mem_cons_of_mem _ member)) ?_
    have step := session.step_change allowed operation (permitted operation (List.mem_cons_self ..))
    exact later _ _ _ (session.step_now operation) (changed _ _ _ step start)

/-- What every change of the state of a protocol with ports keeps holds after every run. -/
theorem Session.run_ports (allowed : Endpoint → Prop) {session : Session} (protocol : PortProtocol)
    (property : PortState → Prop)
    (changed : ∀ now before after, PortState.Change allowed session.translator.reclaimPorts
      session.translator.externalAddress now before after → property before → property after)
    {operations : List Operation} (permitted : ∀ operation ∈ operations, operation.MapsOnly allowed)
    (start : property (session.translator.ports protocol)) :
    property ((session.run operations).translator.ports protocol) := by
  -- The two parameters of a change are the same all along.
  refine (Session.run_induction allowed (fun current =>
    current.translator.externalAddress = session.translator.externalAddress ∧
      current.translator.reclaimPorts = session.translator.reclaimPorts ∧
      property (current.translator.ports protocol)) ?_ ?_ permitted ⟨rfl, rfl, start⟩).2.2
  · rintro now before after change ⟨address, reclaim, kept⟩
    refine ⟨change.externalAddress.trans address, change.reclaimPorts.trans reclaim, ?_⟩
    have step := change.ports protocol
    simp only at address reclaim
    rw [address, reclaim] at step
    exact changed _ _ _ step kept
  · intro now next translator _ kept
    exact kept

/-- No run changes the external address. -/
theorem Session.run_externalAddress (session : Session) (operations : List Operation) :
    (session.run operations).translator.externalAddress = session.translator.externalAddress := by
  -- Neither a change nor time alone touches the address.
  refine Session.run_induction (fun _ => True)
    (fun current => current.translator.externalAddress = session.translator.externalAddress)
    ?_ ?_ (fun operation _ => operation.mapsOnly_any) rfl
  · intro now before after change same
    exact change.externalAddress.trans same
  · intro now next translator _ same
    exact same

/-- Operations one after the other are the run of both lists. -/
theorem Session.run_append (session : Session) (before after : List Operation) :
    session.run (before ++ after) = (session.run before).run after :=
  List.foldl_append

/-- What a translator starts with: no flow, no mapping, and every port of its range free. -/
theorem create_eq_ok {internal external : Side} {config : TranslatorConfig} {now : Nat}
    {translator : Translator} (created : create internal external config now = .ok translator) :
    (∀ protocol, translator.ports protocol =
      ⟨.empty config.entryTimeout config.sweepInterval now (config.releases.order protocol.tracked),
        .ofRange config.firstPort config.lastPort, .empty⟩) ∧
    translator.icmp =
      .ofTable (.empty config.entryTimeout config.sweepInterval now (config.releases.order .icmp)) 0 ∧
    translator.reclaimPorts = config.reclaimPorts := by
  simp only [create, bind, Except.bind] at created
  split at created
  · cases created
  split at created
  · cases created
  -- All checks have passed, and only the address depends on the interface.
  split at created
  · cases created
    exact ⟨fun protocol => by cases protocol <;> rfl, rfl, rfl⟩
  split at created
  · cases created
    exact ⟨fun protocol => by cases protocol <;> rfl, rfl, rfl⟩
  · cases created

end NetworkLayer.Translator
