import NetworkLayer.Proofs.Arp
import NetworkLayer.Proofs.ControlMessage
import NetworkLayer.Proofs.Ethernet.Showing
import NetworkLayer.Proofs.Neighbor

/-!
How a question about a link-layer address finds its answer, over ARP and over Neighbor Discovery. Main
statements: a question is answered exactly by a station whose resolver owns the target, the answer ends the
resolution that waits for it with the address of that station, and without an answer nothing changes.
-/

namespace NetworkLayer

namespace ResolutionTraffic

/-- The frame in which the owner of a target answers a question that came from an address. -/
def claim {family : Family} (mac asker : Mac) (target source : Address family) : Bytes :=
  match family with
  | .v4 => Frame.encode asker mac .arp (ArpPacket.reply mac target asker source).encode
  | .v6 => Frame.encode asker mac .ipv6 (Icmpv6Message.encapsulate target source Neighbor.hopLimit
      (NeighborAdvertisement.answer target mac).encode)

section Arp

variable (mac : Mac) (owns : Address .v4 → Bool) (destination source : Mac) (packet : ArpPacket)

/-- What an ARP packet means does not depend on the frame that it came in. -/
theorem ofFrame_arp (padding : Bytes) :
    ofFrame mac owns ⟨destination, source, EtherType.arp.code, packet.encode ++ padding⟩ =
      ofArp mac owns packet := by
  simp only [ofFrame, ne_eq, not_true_eq_false, if_false, ArpPacket.parse_encode]

end Arp

section Neighbor

variable (mac : Mac) (owns : Address .v6 → Bool) (destination sender : Mac)
  (source group : Address .v6)

/-- A message about neighbors means what its body says, if it comes from the link. -/
theorem ofFrame_neighbor {message : Bytes} (room : 4 ≤ message.length)
    (short : message.length < 65536) (padding : Bytes) :
    ofFrame mac owns ⟨destination, sender, EtherType.ipv6.code,
        Icmpv6Message.encapsulate source group Neighbor.hopLimit message ++ padding⟩ =
      match Icmpv6Type.ofCode? (Bytes.byteAt message 0) with
      | some .neighborSolicitation =>
        match NeighborSolicitation.parse (message.drop Icmpv6Message.headerSize) with
        | .ok solicitation =>
          if owns solicitation.target then question (advertisement mac sender source solicitation)
          else ignored
        | .error _ => ignored
      | some .neighborAdvertisement =>
        match NeighborAdvertisement.parse (message.drop Icmpv6Message.headerSize) with
        | .ok claim => answer claim.target (claim.link.getD sender)
        | .error _ => ignored
      | _ => foreign := by
  -- The message reads back from the packet around it, with its type, its body, its hop limit and its source.
  have read := (Icmpv6Message.carrier_wellFormed source group Neighbor.hopLimit room
    short).parse_append padding
  obtain ⟨parsed, kind, body⟩ := Icmpv6Message.parse_stamp source group message room
  have payload := @Icmpv6Message.carrier_upperPayload source group message Neighbor.hopLimit
  have hops := @Icmpv6Message.carrier_hopLimit source group message Neighbor.hopLimit
  have origin := @Icmpv6Message.carrier_source source group message Neighbor.hopLimit
  simp only [ofFrame, ne_eq, not_true_eq_false, if_false]
  rw [show Ipv6Packet.parse (Icmpv6Message.encapsulate source group Neighbor.hopLimit message ++
    padding) = _ from read]
  simp only [ofPacket, payload, parsed, hops, origin, Icmpv6Message.kind, kind, Icmpv6Message.body, body,
    ne_eq, not_true_eq_false, if_false]
  rfl

end Neighbor

end ResolutionTraffic

namespace Adapter

variable {family : Family}

/-- A frame of another station that is about resolution is taken for what it means. -/
theorem hear_encode (adapter : Adapter family) {destination source : Mac} {etherType : EtherType}
    {payload : Bytes} {traffic : ResolutionTraffic family} (apart : source ≠ adapter.mac)
    (means : ∀ padding, ResolutionTraffic.ofFrame adapter.mac adapter.resolver.owns
      ⟨destination, source, etherType.code, payload ++ padding⟩ = traffic)
    (own : traffic ≠ .foreign) :
    adapter.hear (Frame.encode destination source etherType payload) = .resolution traffic := by
  simp only [hear, Frame.parse_encode, if_neg apart, means]

/-- A question is heard as one, and as nothing more by a station that does not own the target. -/
theorem hear_solicitation (bearer : Adapter family) {asker : Mac} (apart : asker ≠ bearer.mac)
    {target source : Address family} (specified : family = .v6 → source ≠ .unspecified) :
    bearer.hear (ResolutionTraffic.solicitation asker target source) = .resolution
      (if bearer.resolver.owns target then
        .question (ResolutionTraffic.claim bearer.mac asker target source) else .ignored) := by
  -- An ARP question is read from the frame alone, and one of IPv6 goes through the packet around it.
  cases family with
  | v4 =>
    refine bearer.hear_encode apart (fun padding => ?_) ?_
    · rw [ResolutionTraffic.ofFrame_arp]
      rfl
    · split <;> simp
  | v6 =>
    let message : NeighborSolicitation := ⟨target, some asker⟩
    refine bearer.hear_encode apart (fun padding => ?_) ?_
    · rw [ResolutionTraffic.ofFrame_neighbor _ _ _ _ _ _ message.encode_fits.1
          (Nat.lt_of_le_of_lt message.encode_fits.2 (by decide)),
        message.parse_encode]
      -- A source that can be reached is told alone.
      have told : ResolutionTraffic.advertisement bearer.mac asker source message =
          ResolutionTraffic.claim bearer.mac asker target source := by
        rw [ResolutionTraffic.advertisement, if_neg (specified rfl)]
        rfl
      rw [← told]
      rfl
    · split <;> simp

/-- A claim is heard as an answer that tells the link-layer address of the owner. -/
theorem hear_claim (asker : Adapter family) {mac : Mac} (apart : mac ≠ asker.mac)
    (target source : Address family) :
    asker.hear (ResolutionTraffic.claim mac asker.mac target source) =
      .resolution (.answer target mac) := by
  -- As for the question, one family reads a frame and the other a packet.
  cases family with
  | v4 =>
    refine asker.hear_encode apart (fun padding => ?_) (by simp)
    rw [ResolutionTraffic.ofFrame_arp]
    rfl
  | v6 =>
    let message : NeighborAdvertisement := .answer target mac
    refine asker.hear_encode apart (fun padding => ?_) (by simp)
    rw [ResolutionTraffic.ofFrame_neighbor _ _ _ _ _ _ message.encode_fits.1
          (Nat.lt_of_le_of_lt message.encode_fits.2 (by decide)),
      message.parse_encode]
    rfl

/-- The frame in which an adapter answers a frame that it hears, if it does. -/
def reply? (adapter : Adapter family) (data : Bytes) : Option Bytes :=
  match adapter.hear data with
  | .resolution (.question reply) => some reply
  | _ => none

section Question

variable (bearer : Adapter family) {asker : Mac} (apart : asker ≠ bearer.mac)
  {target source : Address family} (specified : family = .v6 → source ≠ .unspecified)
include apart specified

/-- A question is answered with a claim by a station that owns the target, and else not at all. -/
theorem reply?_solicitation :
    bearer.reply? (ResolutionTraffic.solicitation asker target source) =
      if bearer.resolver.owns target then
        some (ResolutionTraffic.claim bearer.mac asker target source) else none := by
  rw [reply?, bearer.hear_solicitation apart specified]
  cases bearer.resolver.owns target with
  | true => rfl
  | false => rfl

/-- A question is answered exactly for the unicast addresses of the resolver. -/
theorem isSome_reply?_solicitation :
    (bearer.reply? (ResolutionTraffic.solicitation asker target source)).isSome ↔
      ∃ entry ∈ bearer.resolver.addresses, entry.isUnicast = true ∧ entry.address = target := by
  -- Owning is to have a unicast entry for the target.
  have owns : bearer.resolver.owns target = true ↔
      ∃ entry ∈ bearer.resolver.addresses, entry.isUnicast = true ∧ entry.address = target := by
    simp only [Resolver.owns, List.any_eq_true, Bool.and_eq_true, beq_iff_eq]
  rw [bearer.reply?_solicitation apart specified, ← owns]
  cases bearer.resolver.owns target with
  | true => exact iff_of_true rfl rfl
  | false => simp

/-- A question that is not answered is heard as nothing to act on. -/
theorem hear_solicitation_of_silent
    (silent : bearer.reply? (ResolutionTraffic.solicitation asker target source) = none) :
    bearer.hear (ResolutionTraffic.solicitation asker target source) = .resolution .ignored := by
  have heard := @hear_solicitation _ bearer _ apart target source specified
  rw [bearer.reply?_solicitation apart specified] at silent
  -- An owner would reply, so the target is not owned and the question is ignored.
  cases owned : bearer.resolver.owns target with
  | true =>
    rw [owned, if_pos rfl] at silent
    cases silent
  | false => rw [heard, owned, if_neg (by decide)]

end Question

end Adapter

namespace ResolutionTraffic

/-- A frame about a neighbor is short enough to be read as a whole. -/
theorem neighbor_short (destination mac : Mac) (source group : Address .v6) {message : Bytes}
    (room : 4 ≤ message.length) (short : message.length ≤ 32) :
    (Frame.encode destination mac .ipv6 (Icmpv6Message.encapsulate source group Neighbor.hopLimit
      message)).length ≤ Network.receiveLimit := by
  have length := Icmpv6Message.encapsulate_length source group Neighbor.hopLimit room
  refine Nat.le_trans (Frame.encode_length_le ..) ?_
  rw [length, Frame.leastSize, Ipv6Packet.headerSize, Network.receiveLimit]
  omega

/-- A frame with an ARP packet is short enough to be read as a whole. -/
theorem arp_short (destination mac : Mac) (packet : ArpPacket) :
    (Frame.encode destination mac .arp packet.encode).length ≤ Network.receiveLimit := by
  refine Nat.le_trans (Frame.encode_length_le ..) ?_
  rw [packet.encode_length]
  decide

/-- A question is short enough to be read as a whole. -/
theorem solicitation_short {family : Family} (asker : Mac) (target source : Address family) :
    (solicitation asker target source).length ≤ Network.receiveLimit := by
  cases family with
  | v4 => exact arp_short ..
  | v6 =>
    have fits := NeighborSolicitation.encode_fits ⟨target, some asker⟩
    exact neighbor_short _ _ _ _ fits.1 fits.2

/-- A claim is short enough to be read as a whole. -/
theorem claim_short {family : Family} (mac asker : Mac) (target source : Address family) :
    (claim mac asker target source).length ≤ Network.receiveLimit := by
  cases family with
  | v4 => exact arp_short ..
  | v6 =>
    have fits := NeighborAdvertisement.encode_fits (.answer target mac)
    exact neighbor_short _ _ _ _ fits.1 fits.2

end ResolutionTraffic

namespace Resolver

variable {family : Family}

/-- The resolver after the answer that its turn waits for. -/
def told (resolver : Resolver family) (now : Nat) (turn : ResolutionTurn family) (mac : Mac) :
    Resolver family :=
  { resolver with
    cache := resolver.cache.map fun cache => cache.insert now turn.call.target mac
    turn := some { turn with answer := some mac } }

variable {resolver : Resolver family} {turn : ResolutionTurn family} {target : Address family}
  (awaited : turn.awaits target)
include awaited

/-- An answer that is awaited is told. -/
theorem accept_awaited (taken : resolver.turn = some turn) (now : Nat) (mac : Mac) :
    resolver.accept now target mac = (true, resolver.told now turn mac, [.wake turn.call.id]) := by
  have same : turn.call.target = target := by
    simp only [ResolutionTurn.awaits, Bool.and_eq_true, beq_iff_eq] at awaited
    exact awaited.2
  simp only [accept, taken, if_pos awaited, told, same]

omit awaited in
/-- A turn that was told its answer awaits no other one. -/
theorem told_accepts (now later : Nat) (mac other : Mac) (address : Address family) :
    ((resolver.told now turn mac).accept later address other).1 = false := by
  have settled : ¬ ({ turn with answer := some mac } : ResolutionTurn family).awaits address := by
    simp [ResolutionTurn.awaits]
  simp only [accept, told, if_neg settled]

/-- A call that was told its answer ends with that answer, whenever it is looked at. -/
theorem told_finishes (now later : Nat) (mac : Mac) (found : Option Mac) :
    .finish turn.call.id found ∈ ((resolver.told now turn mac).resume later turn.call.id).2 ↔
      found = some mac := by
  -- A turn that awaits has asked, so it ends with its answer as soon as it is looked at.
  have begun : turn.asked ≠ 0 := by
    simp only [ResolutionTurn.awaits, Bool.and_eq_true, decide_eq_true_eq] at awaited
    exact awaited.1.1
  have ended : ((resolver.told now turn mac).resume later turn.call.id).2 =
      (resolver.told now turn mac).passTurn.2 ++ [.finish turn.call.id (some mac)] := by
    simp only [resume, told, ne_eq, not_true_eq_false, if_false, begun, conclude]
  rw [ended, List.mem_append, List.mem_singleton]
  constructor
  · rintro (passed | same)
    · obtain ⟨call, woken⟩ := passTurn_effects _ passed
      cases woken
    · cases same
      rfl
  · rintro rfl
    exact Or.inr rfl

end Resolver

namespace Network

variable {family : Family} {network : Network} {id : InterfaceId}

/-- Work that is put in line is ready. -/
theorem mem_wake (network : Network) (job : Job) : job ∈ (network.wake job).ready := by
  rw [wake]
  split
  · rename_i there
    exact List.contains_iff_mem.mp there
  · exact List.mem_append_right _ (List.mem_singleton.mpr rfl)

/-- A frame that is not heard as a question or an answer, nor as a packet, changes nothing. -/
theorem hear_ignored {adapter : Adapter family}
    (medium : (network.interface family id).medium = .ethernet adapter) {data : Bytes}
    (short : data.length ≤ receiveLimit) (ignored : adapter.hear data = .resolution .ignored) :
    network.hear family id data = network := by
  have found : (network.interface family id).adapter? = some adapter := by
    rw [Interface.adapter?, medium]
  simp only [hear, found, List.take_of_length_le short]
  -- An interface that is closed hears nothing at all.
  cases (network.interface family id).running with
  | false => rfl
  | true => simp only [ignored]

/-- An answer that is awaited is told to its call, which is looked at soon. -/
theorem hear_awaited {adapter : Adapter family}
    (medium : (network.interface family id).medium = .ethernet adapter)
    (running : (network.interface family id).running = true) {data : Bytes}
    (short : data.length ≤ receiveLimit) {target : Address family} {mac : Mac}
    (answer : adapter.hear data = .resolution (.answer target mac)) {turn : ResolutionTurn family}
    (taken : adapter.resolver.turn = some turn) (awaited : turn.awaits target) :
    ((network.hear family id data).interface family id).medium =
        .ethernet { adapter with resolver := adapter.resolver.told network.now turn mac } ∧
      .call family turn.call.id ∈ (network.hear family id data).ready := by
  -- The card at hand is the one that hears, so the step of its resolver is all that happens to the interface.
  have shown : network.Shows id (network.interface family id).name
      (⟨adapter, (network.side family).calls, network.now, network.fresh,
        network.sendDrops adapter.registry (network.interface family id).name⟩ : Card family) :=
    ⟨medium, running, rfl, rfl, rfl, rfl, rfl⟩
  have heard : network.hear family id data = (network.onInterface family id
      (·.withResolver fun _ => adapter.resolver.told network.now turn mac)).wake
        (.call family turn.call.id) := by
    simp only [hear, running, shown.adapter, List.take_of_length_le short, answer, stepResolver,
      Resolver.accept_awaited awaited taken, List.foldl_cons, List.foldl_nil, applyEffect]
  rw [heard]
  exact ⟨((shown.withResolver _).wake _).medium, mem_wake _ _⟩

end Network

namespace Adapter

variable {family : Family}

/-- A frame ends the resolution of a target with a link-layer address, if the adapter that hears it waits for one. -/
structure Completes (asker : Adapter family) (frame : Bytes) (target : Address family) (mac : Mac) :
    Prop where
  /-- The frame is heard as an answer about the target. -/
  heard : asker.hear frame = .resolution (.answer target mac)
  /-- The call that waits is told the address, which the cache has from now on, and is looked at soon. -/
  told : ∀ (network : Network) (id : InterfaceId) (turn : ResolutionTurn family),
    (network.interface family id).medium = .ethernet asker →
    (network.interface family id).running = true →
    asker.resolver.turn = some turn → turn.awaits target →
      ((network.hear family id frame).interface family id).medium =
          .ethernet { asker with resolver := asker.resolver.told network.now turn mac } ∧
        .call family turn.call.id ∈ (network.hear family id frame).ready
  /-- With that the request is used up: no other answer is taken for it. -/
  consumed : ∀ (turn : ResolutionTurn family) (now later : Nat) (address : Address family) (other : Mac),
    ((asker.resolver.told now turn mac).accept later address other).1 = false
  /-- The call ends with the address and with nothing else. -/
  ends : ∀ (turn : ResolutionTurn family), turn.awaits target →
    ∀ (now later : Nat) (found : Option Mac),
      .finish turn.call.id found ∈ ((asker.resolver.told now turn mac).resume later turn.call.id).2 ↔
        found = some mac

/-- A claim ends the resolution of its target with the address of the station that makes it. -/
theorem claim_completes (asker : Adapter family) {mac : Mac} (apart : mac ≠ asker.mac)
    (target source : Address family) :
    asker.Completes (ResolutionTraffic.claim mac asker.mac target source) target mac where
  heard := asker.hear_claim apart target source
  told := fun network _ _ medium running taken awaited => network.hear_awaited medium running
    (ResolutionTraffic.claim_short ..) (asker.hear_claim apart target source) taken awaited
  consumed := fun _ now later address other => Resolver.told_accepts now later mac other address
  ends := fun _ awaited now later found => Resolver.told_finishes awaited now later mac found

end Adapter

end NetworkLayer
