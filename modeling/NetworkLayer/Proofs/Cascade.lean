import NetworkLayer.Network.Delivery
import NetworkLayer.Proofs.Reception

/-!
Every cascade of deliveries ends. A packet that is sent on a link or a loopback reaches nodes, whose
replies, reports and forwarded packets reach nodes again. Main statement: following all of them, the
first one first, comes to an end in every network, routing loops included, and `deliver` is that end.
-/

namespace NetworkLayer

variable {family : Family}

/-- A bound on the steps that a packet on its way and what it leads to can take in a row. -/
def Transit.stepsLeft : Transit family → Nat
  | .sent sending => 2 * Packet.dataLifetime family sending.packet + 1
  | .heard _ _ data => 2 * Packet.dataLifetime family data

namespace Network

variable (network : Network)

/-- What is heard of a packet that is sent has one step less left. -/
theorem audience_stepsLeft (id : InterfaceId) (data : Bytes) (accepted : Bool) :
    ∀ transit ∈ network.audience family id data accepted,
      transit.stepsLeft = 2 * Packet.dataLifetime family data := by
  intro transit member
  obtain ⟨listener, _, rfl⟩ := List.mem_map.mp member
  rfl

/-- All who hear a packet on a link hear the packet that was sent. -/
theorem onLink_stepsLeft (link : LinkId) (sending : Sending family) :
    ∀ transit ∈ network.onLink link sending,
      transit.stepsLeft = 2 * Packet.dataLifetime family sending.packet := by
  intro transit member
  rcases List.mem_append.mp member with watched | heard
  · exact network.audience_stepsLeft _ _ _ transit watched
  · obtain ⟨peer, _, heard⟩ := List.mem_flatMap.mp heard
    exact network.audience_stepsLeft _ _ _ transit heard

/-- Every step leads only to packets with fewer steps left. -/
theorem follow_stepsLeft (transit : Transit family) :
    ∀ next ∈ (network.follow transit).2, next.stepsLeft < transit.stepsLeft := by
  intro next member
  cases transit with
  | sent sending =>
    -- Whoever hears the packet has one step less left than the sender.
    have heard (same : next.stepsLeft = 2 * Packet.dataLifetime family sending.packet) :
        next.stepsLeft < (Transit.sent sending).stepsLeft := by
      rw [same]
      exact Nat.lt_succ_self _
    simp only [follow] at member
    split at member
    · exact heard (network.audience_stepsLeft _ _ _ next member)
    · split at member
      · exact heard (network.onLink_stepsLeft _ _ next member)
      · cases member
    · split at member
      · cases member
      · cases member
  | heard listener id data =>
    cases listener with
    | tap tap =>
      simp only [follow] at member
      split at member
      · cases member
      · cases member
    | node node =>
      simp only [follow] at member
      split at member
      · cases member
      · -- What the node sends lasts less long than what it heard.
        obtain ⟨sending, sent, rfl⟩ := List.mem_map.mp member
        have below := Station.receive_below _ _ _ _ _ sending sent
        simp only [Transit.stepsLeft]
        omega

/-- Whether what one step does comes to an end by itself: a node that hears a packet visits its own
segments only so often. -/
def Settles (network : Network) : Transit family → Prop
  | .heard (.node id) ingress data =>
    ∀ hosted policy, (network.side family).nodes.get? id = some hosted →
      Station.Settles ⟨hosted.node, (network.side family).interfaces⟩ policy network.now ingress data
  | _ => True

/-- Every step comes to an end by itself. -/
theorem settles (transit : Transit family) : network.Settles transit := by
  -- Only a node that hears a packet has something to do, and what it sends ranks below.
  cases transit with
  | sent sending => trivial
  | heard listener id data =>
    cases listener with
    | tap tap => trivial
    | node node =>
      intro hosted policy _
      exact Station.settles _ policy id network.now data

/-- Packets on their way are followed one after another, each with all that it leads to before the
next one, until none is left; what the network is then. -/
inductive Drains : Network → List (Transit family) → Network → Prop
  /-- Nothing is left to follow. -/
  | done {network : Network} : Drains network [] network
  /-- The first packet is followed by one step, and what it leads to goes before the others. -/
  | step {network final : Network} {transit : Transit family} {rest : List (Transit family)}
      (settles : network.Settles transit)
      (drains : Drains (network.follow transit).1 ((network.follow transit).2 ++ rest) final) :
      Drains network (transit :: rest) final

section Within

variable {steps : Nat}

/-- Packets that are followed each to their end leave nothing to follow but what comes after them. -/
theorem drains_foldl {transits : List (Transit family)} {rest : List (Transit family)}
    {network final : Network}
    (each : ∀ transit ∈ transits, ∀ (network : Network) (rest : List (Transit family)),
      Drains (deliverWithin steps network transit) rest final →
        Drains network (transit :: rest) final)
    (drains : Drains (transits.foldl (deliverWithin steps) network) rest final) :
    Drains network (transits ++ rest) final := by
  induction transits generalizing network with
  | nil => exact drains
  | cons transit transits ih =>
    have later := ih (fun next member => each next (List.mem_cons_of_mem _ member)) drains
    -- The first packet is followed to its end before the others.
    exact each transit List.mem_cons_self _ _ later

/-- A packet is followed to its end if the steps suffice for it. -/
theorem drains_deliverWithin {transit : Transit family} {rest : List (Transit family)}
    {network final : Network} (enough : transit.stepsLeft < steps)
    (drains : Drains (deliverWithin steps network transit) rest final) :
    Drains network (transit :: rest) final := by
  -- By induction on the steps: what one step leads to has fewer of them left.
  induction steps generalizing network transit rest with
  | zero => cases enough
  | succ steps ih =>
    rw [deliverWithin] at drains
    refine .step (network.settles transit) (drains_foldl (fun next member _ _ => ?_) drains)
    have fewer := network.follow_stepsLeft transit next member
    exact ih (show next.stepsLeft < steps by omega)

end Within

/-- No packet takes more steps than are made. -/
theorem stepsLeft_lt (transit : Transit family) : transit.stepsLeft < longestWay := by
  have bound (data : Bytes) : Packet.dataLifetime family data ≤ 385 := by
    rw [Packet.dataLifetime]
    split
    · exact Packet.lifetime_le _
    · exact Nat.zero_le _
  -- Twice 385 steps and one more are fewer than 1024.
  have most : longestWay = 1024 := rfl
  cases transit with
  | sent sending =>
    have short := bound sending.packet
    simp only [Transit.stepsLeft]
    omega
  | heard listener id data =>
    have short := bound data
    simp only [Transit.stepsLeft]
    omega

/-- Whatever is sent or heard in a network, the cascade that it triggers ends. -/
theorem deliver_drains (transit : Transit family) :
    Drains network [transit] (network.deliver transit) :=
  drains_deliverWithin (stepsLeft_lt transit) .done

/-- The end of a cascade is the only one. -/
theorem Drains.unique {network left right : Network} {transits : List (Transit family)}
    (one : Drains network transits left) (other : Drains network transits right) :
    left = right := by
  -- Induction on one of the two cascades: each step of the other is the same.
  induction one with
  | done =>
    cases other
    rfl
  | step _ _ ih =>
    cases other with
    | step _ drains => exact ih drains

end Network

end NetworkLayer
