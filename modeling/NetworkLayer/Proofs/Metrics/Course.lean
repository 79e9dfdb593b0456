import NetworkLayer.Proofs.Addressing.Changes
import NetworkLayer.Proofs.Metrics.Assembly
import NetworkLayer.Proofs.Translation.Datagram

/-!
The gauges of a stack in use. Main statement: over every course of changes and received packets the gauge of routes
shows too few by exactly the configured routes, until it is told anew, and the gauge of translations shows too many
by exactly the flows that expired under packets that were refused, until one is translated.
-/

namespace NetworkLayer

namespace Station

/-- Whatever is changed, the gauge is told of what has become of the routes. -/
theorem tallied_told {family : Family} (station : Station family) (node : NodeId) (change : Change family) :
    Told station (station.tallied node change).1 (station.tallied node change).2 := by
  cases change with
  | attach id => exact station.attach_told node id
  | detach id => exact station.detach_told node id
  | give id entry => exact station.addAddress_told id entry
  | take id address => exact station.removeAddress_told id address

end Station

namespace Network

/-- How far the gauges of a node are off after a change of it that comes with tallies. -/
def afterChange (network : Network) (node : NodeId) (drift : Drift)
    (tallies : Station .v4 → List Tally) : Drift :=
  match network.view? node with
  | none => drift
  | some view => drift.changed (tallies view.station)

/-- How far the gauges of a node are off after a packet that it has received. -/
def afterReceipt (network : Network) (node : NodeId) (drift : Drift) (ingress : InterfaceId)
    (data : Bytes) : Drift :=
  match network.view? node with
  | none => drift
  | some view =>
    drift.received view.policy (view.station.receive view.policy network.now ingress data)

/-- A change sets the gauge of routes right, or it leaves it as far off as it was. -/
theorem afterChange_untold (network : Network) (node : NodeId) (drift : Drift)
    (tallies : Station .v4 → List Tally) :
    (network.afterChange node drift tallies).untold = 0 ∨
      (network.afterChange node drift tallies).untold = drift.untold := by
  unfold afterChange Drift.changed
  -- A node that is not shown, and a change without a word, leave the drift as it is.
  split
  · exact .inr rfl
  · split
    · exact .inr rfl
    · exact .inl rfl

/-- A received packet says nothing of the routes. -/
theorem afterReceipt_untold (network : Network) (node : NodeId) (drift : Drift) (ingress : InterfaceId)
    (data : Bytes) : (network.afterReceipt node drift ingress data).untold = drift.untold := by
  unfold afterReceipt Drift.received
  split
  · rfl
  · split <;> rfl

/-- The networks that changes of a node and received packets lead to, with how far its gauges are off there. What
goes on elsewhere meanwhile leaves the node alone. -/
inductive Course (alone : Bool) (node : NodeId) (start : Network) (off : Drift) :
    Network → Drift → Prop
  | start : Course alone node start off start off
  | change {network : Network} {drift : Drift}
      (before : Course alone node start off network drift) (change : Station.Change .v4) :
      Course alone node start off
        (network.configure .v4 node fun station => ((), station.tallied node change)).2
        (network.afterChange node drift fun station => (station.tallied node change).2)
  | close {network : Network} {drift : Drift}
      (before : Course alone node start off network drift) :
      Course alone node start off (network.configure .v4 node fun station => ((), station.close node)).2
        (network.afterChange node drift fun station => (station.close node).2)
  | receive {network : Network} {drift : Drift}
      (before : Course alone node start off network drift) (ingress : InterfaceId) (data : Bytes) :
      Course alone node start off
        (network.follow (.heard (.node node) ingress data : Transit .v4)).1
        (network.afterReceipt node drift ingress data)
  | elsewhere {network after : Network} {drift : Drift}
      (before : Course alone node start off network drift)
      (spares : Spares alone node network after) : Course alone node start off after drift

namespace Course

variable {alone : Bool} {node : NodeId} {start network : Network} {off drift : Drift}

/-- Gauges that are off by so much at the start are off by so much after a course. -/
theorem drifts (course : Course alone node start off network drift)
    (begun : start.Drifts alone node off) : network.Drifts alone node drift := by
  -- The induction is on the steps of the course, each of which is a step of the drift.
  induction course with
  | start => exact begun
  | change _ change ih =>
    obtain ⟨view, shown, drifts⟩ := ih
    rw [afterChange, shown]
    exact ⟨_, configure_view shown _, drifts.changed (view.station.tallied_told node change)⟩
  | close _ ih =>
    obtain ⟨view, shown, drifts⟩ := ih
    rw [afterChange, shown]
    exact ⟨_, configure_view shown _, drifts.changed (view.station.close_told node)⟩
  | receive _ ingress data ih =>
    obtain ⟨view, shown, drifts⟩ := ih
    rw [afterReceipt, shown]
    exact ⟨_, follow_view shown ingress data, drifts.received (view.station.receive_tells ..)⟩
  | elsewhere _ spares ih => exact ih.spared spares

/-- Once the gauge of routes is told, it misses none from then on. -/
theorem untold_eq (course : Course alone node start off network drift) :
    drift.untold = 0 ∨ drift.untold = off.untold := by
  have onward {between after : Drift} (ih : between.untold = 0 ∨ between.untold = off.untold)
      (step : after.untold = 0 ∨ after.untold = between.untold) :
      after.untold = 0 ∨ after.untold = off.untold :=
    step.elim .inl fun same => same ▸ ih
  -- Induction on the course: a change or a closing may tell the gauge, and nothing else touches what it was not
  -- told.
  induction course with
  | start => exact .inr rfl
  | change _ _ ih => exact onward ih (afterChange_untold ..)
  | close _ ih => exact onward ih (afterChange_untold ..)
  | receive _ _ _ ih => exact onward ih (.inr (afterReceipt_untold ..))
  | elsewhere _ _ ih => exact ih

variable {family : Family}

/-- One step of a packet through the network is a step of the course, if other nodes stay apart. -/
theorem follow (course : Course alone node start off network drift) (apart : network.Apart node)
    (transit : Transit family) :
    ∃ later, Course alone node start off (network.follow transit).1 later ∧
      (network.follow transit).1.Apart node := by
  -- What the node hears is a packet that it receives, and all else happens elsewhere.
  have quietly (quiet : Quiet alone network (network.follow transit).1) :
      ∃ later, Course alone node start off (network.follow transit).1 later ∧
        (network.follow transit).1.Apart node :=
    ⟨drift, course.elsewhere quiet.spares, apart.of_nodes quiet.nodes⟩
  cases transit with
  | sent sending => exact quietly (.follow_sent sending)
  | heard listener ingress data =>
    cases listener with
    | tap tap => exact quietly (.follow_tap tap ingress data)
    | node other =>
      cases family with
      | v6 => exact quietly (.follow_v6 other ingress data)
      | v4 =>
        have still := apart.of_nodes (follow_heard_nodes other ingress data)
        by_cases own : other = node
        · subst own
          exact ⟨_, course.receive ingress data, still⟩
        · exact ⟨drift, course.elsewhere (apart.follow_spares own ingress data), still⟩

/-- A packet that is followed for some steps, with all that it leads to, is part of the course. -/
theorem deliverWithin (course : Course alone node start off network drift)
    (apart : network.Apart node) (steps : Nat) (transit : Transit family) :
    ∃ later, Course alone node start off (network.deliverWithin steps transit) later ∧
      (network.deliverWithin steps transit).Apart node := by
  induction steps generalizing network drift transit with
  | zero => exact ⟨drift, course, apart⟩
  | succ steps ih =>
    obtain ⟨later, followed, still⟩ := course.follow apart transit
    unfold Network.deliverWithin
    dsimp only
    -- The packets that come of it are followed one after the other.
    exact List.foldlRecOn
      (motive := fun network => ∃ later, Course alone node start off network later ∧
        network.Apart node)
      (network.follow transit).2 (Network.deliverWithin steps) ⟨later, followed, still⟩
      fun between held transit _ => held.elim fun _ reached => ih reached.1 reached.2 transit

/-- A packet that is delivered in the network, with all that it leads to, is part of the course. -/
theorem deliver (course : Course alone node start off network drift) (apart : network.Apart node)
    (transit : Transit family) :
    ∃ later, Course alone node start off (network.deliver transit) later ∧
      (network.deliver transit).Apart node :=
  course.deliverWithin apart longestWay transit

end Course

/--
The gauges of the IPv4 node of a stack, over every course of changes and received packets.

The gauge of routes misses the routes that the configuration has for IPv4 as long as it is not told of others, and
none after that. The gauge of translations shows the flows that are tracked, and those that were lost with packets
which were refused since the last one that was translated. A gauge that is a multiple of 2^64 off shows the right
figure all the same. The gauge of routes is told by both nodes of a stack, so it is followed where the IPv6 node has
no interface.
-/
theorem gauges_exact {alone : Bool} {network built reached : Network} {config : Config}
    {surroundings : Surroundings} {stack : Stack} {drift : Drift}
    (only : alone = true → ∀ interface ∈ config.interfaces, interface.ipv6 = [])
    (made : network.addStack config surroundings = (.ok stack, built))
    (course : Course alone stack.v4 built ⟨routeCount config.routing.staticRoutes .v4, 0⟩
      reached drift) :
    ∃ view, reached.view? stack.v4 = some view ∧
      (drift.untold = 0 ∨ drift.untold = routeCount config.routing.staticRoutes .v4) ∧
      (alone = true → drift.untold ≤ view.routes ∧
        view.metrics.routes = UInt64.ofNat (view.routes - drift.untold) ∧
        (view.metrics.routes = UInt64.ofNat view.routes ↔ UInt64.size ∣ drift.untold)) ∧
      view.metrics.translations = UInt64.ofNat (view.tracked + drift.lost) ∧
      (view.metrics.translations = UInt64.ofNat view.tracked ↔ UInt64.size ∣ drift.lost) := by
  -- What the assembly leaves untold is what the course starts with.
  obtain ⟨view, shown, drifts⟩ := course.drifts (addStack_drifts only made)
  refine ⟨view, shown, course.untold_eq, fun alone => ?_, drifts.translations, ?_⟩
  · obtain ⟨told, sum, gauge⟩ := drifts.routes alone
    have rest : view.routes - drift.untold = told := by omega
    refine ⟨by omega, gauge.trans (congrArg UInt64.ofNat rest.symm), ?_⟩
    rw [gauge, sum, eq_comm]
    exact Drift.figure_eq_iff told drift.untold
  · rw [drifts.translations]
    exact Drift.figure_eq_iff view.tracked drift.lost

/-- A stack between the hosts of a home, `10.0.0.0/24`, and all others, which a configured route leads to. -/
def homeConfig : Config := {
  interfaces := [
    { name := "lan", ipv4 := ["10.0.0.1/24"] },
    { name := "wan", ipv4 := ["1.2.3.4/24"] }]
  routing := { staticRoutes := [
    { destination := "0.0.0.0/0", gateway := some "1.2.3.1", interface := some "wan" }] }
  translation := some { internal := "lan", external := "wan" } }

/-- A question from a host at home to a server. -/
def question : Bytes := (Ipv4Packet.datagram Translator.host Translator.server).bytes

/-- The answer of the server to the socket that the question was sent from. -/
def answer : Bytes := (Ipv4Packet.datagram Translator.server ⟨.ofNat 0x01020304, 6200⟩).bytes

/-- A late answer costs the flow of the question, which the gauge of translations goes on to show, and an address
that is given tells the gauge of routes of the configured one. -/
theorem gauges_after_late_answer :
    let stack : Stack := ⟨1, 4, [("lan", 9), ("wan", 10)], [], some 11⟩
    let built := (Network.addStack {} homeConfig .apart).2
    let asked := (built.follow (.heard (.node 1) 9 question : Transit .v4)).1
    let late := { asked with now := asked.now + 300000 }
    let refused := (late.follow (.heard (.node 1) 10 answer : Transit .v4)).1
    let given := Station.Change.give 9 (.unicast (.ofNat 0x0A000101) 24)
    let reached := (refused.configure .v4 1 fun station => ((), station.tallied 1 given)).2
    (true = true → ∀ interface ∈ homeConfig.interfaces, interface.ipv6 = []) ∧
      Network.addStack {} homeConfig .apart = (.ok stack, built) ∧
      Course true stack.v4 built ⟨routeCount homeConfig.routing.staticRoutes .v4, 0⟩
        reached ⟨0, 1⟩ ∧
      ∃ view, reached.view? stack.v4 = some view ∧
        view.metrics.routes = UInt64.ofNat view.routes ∧
        view.metrics.translations = UInt64.ofNat (view.tracked + 1) := by
  intro stack built asked late refused given reached
  -- A single fact about a fixed configuration, which evaluation settles.
  have only : true = true → ∀ interface ∈ homeConfig.interfaces, interface.ipv6 = [] := by
    decide +kernel
  have made : Network.addStack {} homeConfig .apart =
      (.ok stack, (Network.addStack {} homeConfig .apart).2) := by
    have stacked : (Network.addStack {} homeConfig .apart).1.toOption = some stack := by
      decide +kernel
    generalize Network.addStack {} homeConfig .apart = result at stacked ⊢
    obtain ⟨outcome, network⟩ := result
    cases outcome with
    | error cause => cases stacked
    | ok other =>
      cases stacked
      rfl
  -- The flow is opened, grows old, and is dropped by the late answer that the translator refuses.
  have asking : Course true 1 built ⟨1, 0⟩ asked _ := .receive .start 9 question
  have waiting := asking.elsewhere (Quiet.wait asked (asked.now + 300000)).spares
  have refusing : Course true 1 built ⟨1, 0⟩ refused _ := .receive waiting 10 answer
  have giving : Course true 1 built ⟨1, 0⟩ reached _ := .change refusing given
  -- The drift is what the steps come to.
  have course : Course true stack.v4 built ⟨routeCount homeConfig.routing.staticRoutes .v4, 0⟩
      reached ⟨0, 1⟩ := by
    refine Eq.subst (motive := Course true 1 built ⟨1, 0⟩ reached) ?_ giving
    decide +kernel
  obtain ⟨view, shown, -, routes, gauge, -⟩ := gauges_exact only made course
  refine ⟨only, made, course, view, shown, ?_, gauge⟩
  exact (routes rfl).2.2.mpr (Nat.dvd_zero _)

/-- The gauge of routes misses the configured route from the start, and the gauge of translations shows a flow that
went with a late answer. -/
theorem gauges_fall_behind :
    let built := (Network.addStack {} homeConfig .apart).2
    let asked := (built.follow (.heard (.node 1) 9 question : Transit .v4)).1
    let late := { asked with now := asked.now + 300000 }
    let refused := (late.follow (.heard (.node 1) 10 answer : Transit .v4)).1
    ((Network.addStack {} homeConfig .apart).1.toOption.map Stack.v4 = some 1) ∧
      (∀ interface ∈ homeConfig.interfaces, interface.ipv6 = []) ∧
      (built.view? 1).map (fun view => (view.routes, view.metrics.routes)) = some (3, 2) ∧
      (refused.view? 1).map (fun view => (view.routes, view.metrics.routes)) = some (3, 2) ∧
      (asked.view? 1).map (fun view => (view.tracked, view.metrics.translations)) = some (1, 1) ∧
      (refused.view? 1).map (fun view => (view.tracked, view.metrics.translations)) = some (0, 1) := by
  decide +kernel

end Network

end NetworkLayer
