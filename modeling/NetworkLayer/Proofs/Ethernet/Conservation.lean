import Mathlib.Data.List.Induction
import NetworkLayer.Network.Operation
import NetworkLayer.Proofs.Ethernet.Showing
import NetworkLayer.Proofs.Ethernet.Tracking

/-!
An Ethernet interface neither duplicates, misaddresses nor silently loses packets: whatever the order of
packets, frames, resolutions and bursts, each packet that is sent on it leads to one frame to its next
hop, is counted as dropped, or waits for a resolution.
-/

namespace NetworkLayer.Ethernet

variable {family : Family}

/-- A network, and what is on record of one of its interfaces. -/
structure Session (family : Family) where
  network : Network
  journal : Journal family := {}

namespace Session

/-- The session after something has happened to an interface on an adapter. -/
def act (id : InterfaceId) (session : Session family) (adapter : Adapter family) :
    Operation family → Session family
  | .send packet nextHop =>
    { network := (session.network.follow (.sent ⟨id, packet, nextHop⟩)).1
      journal := { session.journal with
        sends := session.journal.sends ++ [(packet, nextHop)] } }
  | .inquire target => { session with network := (session.network.call id target .inquiry).2 }
  | .look call =>
    -- Other interfaces have calls of their own.
    if ((session.network.side family).calls.get? call).any (·.interface == id) then
      { session with network := session.network.look family call }
    else session
  | .hear data =>
    -- What its listeners do about a packet happens on its own.
    if (adapter.hear (data.take Network.receiveLimit)).isPacket then session
    else
      { network := session.network.hear family id data
        journal := session.journal.hearing adapter session.network.now data }
  | .transmit =>
    { network := session.network.transmit family id
      journal := { session.journal with
        transmitted :=
          session.journal.transmitted ++ adapter.queue.take Network.transmitBurst } }
  | .advance span =>
    { session with network := { session.network with now := session.network.now + span } }

/-- The session after something has happened to an interface. -/
def step (id : InterfaceId) (session : Session family) (operation : Operation family) :
    Session family :=
  match (session.network.interface family id).adapter? with
  | some adapter => session.act id adapter operation
  | none => session

/-- The session after some operations. -/
def run (id : InterfaceId) (session : Session family) (operations : List (Operation family)) :
    Session family :=
  operations.foldl (step id) session

/-- The losses of a run have their causes: each operation has cost one packet at most, and the interface shows why as
it was before the operation. -/
structure Explained (id : InterfaceId) (name : String) (session : Session family)
    (operations : List (Operation family)) (losses : List Loss) : Prop where
  moments : losses.Pairwise (·.moment < ·.moment)
  causes : ∀ loss ∈ losses, ∃ operation card,
    operations[loss.moment]? = some operation ∧
    (session.run id (operations.take loss.moment)).network.Shows id name card ∧
    Loses id card (session.run id (operations.take loss.moment)).journal.sends operation loss.index
      loss.cause

/-- The interface is a card on which all packets are accounted for, some of which were dropped. -/
def Kept (id : InterfaceId) (name : String) (settings : ResolverSettings) (start : Card family)
    (session : Session family) (dropped : List Nat) : Prop :=
  ∃ card, session.network.Shows id name card ∧
    Sound id settings start session.journal card dropped

variable {id : InterfaceId} {name : String} {settings : ResolverSettings} {start : Card family}
  {session : Session family} {dropped : List Nat}

/-- Whatever happens to the interface, the packets stay accounted for, and one at most is lost. -/
theorem Kept.step (kept : Kept id name settings start session dropped)
    (operation : Operation family) : ∃ card, session.network.Shows id name card ∧
      LosesAtMostOne id card session.journal.sends operation dropped
        (Kept id name settings start (session.step id operation)) := by
  obtain ⟨card, shown, sound⟩ := kept
  refine ⟨card, shown, ?_⟩
  rw [Session.step, shown.adapter]
  -- Only a packet that is sent and a call that ends can cost a packet.
  cases operation with
  | send packet nextHop =>
    exact (sound.send packet nextHop).imp fun _ sound => ⟨_, shown.send packet nextHop, sound⟩
  | inquire target => exact .inl ⟨_, shown.call target .inquiry, sound.inquire target⟩
  | look call =>
    simp only [act, shown.calls]
    -- A call that belongs to another interface is not looked at here.
    split
    · rename_i own
      obtain ⟨made, there, own⟩ := (Option.any_eq_true _ _).mp own
      exact (sound.look there (eq_of_beq own)).imp fun _ sound =>
        ⟨_, shown.look there (eq_of_beq own), sound⟩
    · exact .inl ⟨card, shown, sound⟩
  | hear data =>
    refine .inl ?_
    simp only [act]
    -- A frame that would deliver a packet is left out of the course.
    split
    · exact ⟨card, shown, sound⟩
    · rename_i plain
      refine ⟨_, shown.hear plain, ?_⟩
      rw [shown.now]
      exact sound.hear data
  | transmit => exact .inl ⟨_, shown.transmit, sound.transmit⟩
  | advance span => exact .inl ⟨_, shown.advance span, sound.advance span⟩

namespace Explained

variable {operations : List (Operation family)} {losses : List Loss}

/-- Losses happen during the run. -/
theorem moment_lt (explained : Explained id name session operations losses) {loss : Loss}
    (here : loss ∈ losses) : loss.moment < operations.length := by
  obtain ⟨_, _, there, -⟩ := explained.causes loss here
  exact (List.getElem?_eq_some_iff.mp there).1

/-- A further operation leaves the losses explained. -/
theorem append (explained : Explained id name session operations losses)
    (operation : Operation family) :
    Explained id name session (operations ++ [operation]) losses := by
  refine ⟨explained.moments, fun loss here => ?_⟩
  have earlier := explained.moment_lt here
  rw [List.getElem?_append_left earlier, List.take_append_of_le_length (Nat.le_of_lt earlier)]
  exact explained.causes loss here

/-- What the last operation has cost is explained by the interface before it. -/
theorem concat (explained : Explained id name session operations losses)
    {operation : Operation family} {card : Card family} {index : Nat} {cause : Cause}
    (shown : (session.run id operations).network.Shows id name card)
    (loses : Loses id card (session.run id operations).journal.sends operation index cause) :
    Explained id name session (operations ++ [operation])
      (losses ++ [⟨operations.length, index, cause⟩]) := by
  -- The new loss comes at the end of the run, so its moment is later than those before.
  refine ⟨List.pairwise_append.mpr ⟨explained.moments, List.pairwise_singleton .., ?_⟩, ?_⟩
  · intro loss here last same
    rw [List.mem_singleton.mp same]
    exact explained.moment_lt here
  · intro loss here
    rcases List.mem_append.mp here with old | last
    · exact (explained.append operation).causes loss old
    · -- What the last operation has lost is told of the interface that the run before it leads to.
      obtain rfl := List.mem_singleton.mp last
      refine ⟨operation, card, List.getElem?_concat_length, ?_⟩
      rw [List.take_append_of_le_length (Nat.le_refl _), List.take_length]
      exact ⟨shown, loses⟩

end Explained

/-- In every run the packets stay accounted for, and each loss has its cause. -/
theorem Kept.run (kept : Kept id name settings start session [])
    (operations : List (Operation family)) : ∃ losses, Explained id name session operations losses ∧
      Kept id name settings start (session.run id operations) (losses.map (·.index)) := by
  -- The induction is on the operations, the last one first, since a loss is explained by the run before it.
  induction operations using List.reverseRecOn with
  | nil => exact ⟨[], ⟨.nil, nofun⟩, kept⟩
  | append_singleton operations operation ih =>
    obtain ⟨losses, explained, kept⟩ := ih
    have stepped : session.run id (operations ++ [operation]) =
        (session.run id operations).step id operation := by
      rw [Session.run, List.foldl_append]
      rfl
    rw [stepped]
    obtain ⟨card, shown, none | ⟨index, cause, loses, lost⟩⟩ := kept.step operation
    · exact ⟨losses, explained.append operation, none⟩
    · refine ⟨_, explained.concat shown loses, ?_⟩
      rw [List.map_append]
      exact lost

end Session

/-- An interface is up on a new adapter, and nobody has called its resolver. -/
structure Starts (network : Network) (id : InterfaceId) (settings : AdapterSettings)
    (addresses : List (InterfaceAddress family)) (adapter : Adapter family) : Prop where
  medium : (network.interface family id).medium = .ethernet adapter
  running : (network.interface family id).running = true
  created : ∃ port registry, adapter = { (Adapter.create settings port registry : Adapter family) with
    resolver := { Resolver.create settings.resolver settings.mac with addresses } }
  uncalled : ∀ entry ∈ (network.side family).calls.entries, entry.2.interface ≠ id
  distinct : (network.side family).calls.keys.Nodup
  issued : ∀ call ∈ (network.side family).calls.keys, call < network.fresh

section Start

variable {network : Network} {id : InterfaceId} {settings : AdapterSettings}
  {addresses : List (InterfaceAddress family)} {adapter : Adapter family}

/-- What a network has of an interface at its start. -/
def Starts.card (_ : Starts network id settings addresses adapter) : Card family where
  adapter
  calls := (network.side family).calls
  now := network.now
  fresh := network.fresh
  drops := network.sendDrops adapter.registry (network.interface family id).name

/-- An interface starts on its card. -/
theorem Starts.shown (starts : Starts network id settings addresses adapter) :
    network.Shows id (network.interface family id).name starts.card :=
  ⟨starts.medium, starts.running, rfl, rfl, rfl, rfl, rfl⟩

/-- An interface starts with nothing to account for. -/
theorem Starts.kept (starts : Starts network id settings addresses adapter) :
    Session.Kept id (network.interface family id).name settings.resolver starts.card
      { network : Session family } [] := by
  obtain ⟨port, registry, created⟩ := starts.created
  -- No call is made for the interface, so nothing waits.
  have waiting : starts.card.waiting id = [] := by
    rw [Card.waiting, List.filter_eq_nil_iff]
    intro entry here own
    rw [Bool.and_eq_true, beq_iff_eq] at own
    exact starts.uncalled entry here own.1
  -- The resolver starts as the session of a resolver does.
  let session : Resolver.Session family :=
    .fresh network.now settings.resolver settings.mac addresses
  have tracks : Tracks id settings.resolver starts.card {} starts.card session := by
    refine ⟨?_, rfl, ?_, .fresh .late .., .fresh .., ?_, List.forall_mem_nil _, ?_⟩
    · exact congrArg Adapter.resolver created
    · exact (congrArg (·.resolver.addresses) created).symm
    · intro time address station recorded
      cases recorded
    · intro call made there own
      exact absurd own (starts.uncalled _ (Dictionary.mem_entries_of_get? there))
  -- The queue is empty and no drop is counted beyond those at the start.
  have books : Books id starts.card {} starts.card ⟨[], [], fun _ => 0⟩ [] := by
    have queue : starts.card.adapter.queue = [] := congrArg (·.queue) created
    refine ⟨queue, List.forall_mem_nil _, ?_, ?_, ?_, ?_, rfl, rfl, rfl,
      congrArg (·.isOpen) created, rfl, ?_, starts.distinct, starts.issued⟩
    · rw [Ledger.waiting, waiting]
      exact .refl _
    · rw [waiting]
      intro call made waits
      cases waits
    · rw [waiting]
      exact Nat.zero_le _
    · show starts.card.drops = starts.card.drops.map (· + 0)
      simp
    · rw [queue]
      exact Nat.zero_le _
  exact ⟨starts.card, starts.shown, session, tracks, _, books, rfl⟩

/-- An interface that is set up starts without addresses. -/
theorem addEthernet_starts (network : Network) (hub : HubId) (name : String)
    (settings : AdapterSettings) (registry : RegistryId)
    (uncalled : ∀ entry ∈ (network.side family).calls.entries,
      entry.2.interface < network.fresh)
    (distinct : (network.side family).calls.keys.Nodup)
    (issued : ∀ call ∈ (network.side family).calls.keys, call < network.fresh) :
    Starts (network.addEthernet family hub name settings registry).2
      (network.addEthernet family hub name settings registry).1 settings []
      (.create settings network.fresh registry : Adapter family) := by
  -- Only the interfaces of the family and the identities given out change.
  have calls : ((network.addEthernet family hub name settings registry).2.side family).calls =
      (network.side family).calls := by
    cases family <;> rfl
  have fresh : (network.addEthernet family hub name settings registry).2.fresh =
      network.fresh + 2 := by
    cases family <;> rfl
  have interface : (network.addEthernet family hub name settings registry).2.interface family
      (network.fresh + 1) = .onPort name (.create settings network.fresh registry) := by
    have inserted : ((network.addEthernet family hub name settings registry).2.side
        family).interfaces = (network.side family).interfaces.insert (network.fresh + 1)
          (.onPort name (.create settings network.fresh registry)) := by
      cases family <;> rfl
    rw [Network.interface, inserted, Interfaces.at, Dictionary.get?_insert,
      if_pos (beq_self_eq_true _)]
    rfl
  refine ⟨?_, ?_, ⟨network.fresh, registry, rfl⟩, ?_, ?_, ?_⟩
  · exact congrArg (·.medium) interface
  · exact congrArg (·.running) interface
  · -- A call for the new interface would be older than the interface itself.
    rw [calls]
    intro entry here same
    have older := uncalled entry here
    rw [same] at older
    exact absurd older (Nat.not_lt.mpr (Nat.le_succ _))
  · rw [calls]
    exact distinct
  · rw [calls, fresh]
    intro call known
    exact Nat.lt_add_right 2 (issued call known)

/-- The resolver of an interface gets the address that the interface gets. -/
theorem addAddress_medium {interface : Interface family}
    (medium : interface.medium = .ethernet adapter) (entry : InterfaceAddress family) :
    (interface.addAddress entry).medium =
        .ethernet { adapter with resolver := adapter.resolver.addAddress entry } ∧
      (interface.addAddress entry).running = interface.running := by
  rcases interface with ⟨name, addresses, _, running, _, _⟩
  obtain rfl := medium
  rw [Interface.addAddress]
  -- The list of the interface is not the one of the resolver.
  constructor
  · split <;> rfl
  · split <;> rfl

/-- An interface that gets an address starts with it, too. -/
theorem Starts.addAddress (starts : Starts network id settings addresses adapter)
    (entry : InterfaceAddress family) :
    Starts (network.onInterface family id (·.addAddress entry)) id settings
      (adapter.resolver.addAddress entry).addresses
      { adapter with resolver := adapter.resolver.addAddress entry } := by
  -- The interface gets the address, and its adapter tells the resolver.
  have interface : (network.onInterface family id (·.addAddress entry)).interface family id =
      (network.interface family id).addAddress entry := by
    rw [Network.onInterface, Network.interface, Network.side_onSide, Interfaces.at,
      Dictionary.get?_modify, if_pos (beq_self_eq_true id), starts.shown.interface_eq]
    rfl
  have side : (network.onInterface family id (·.addAddress entry)).side family =
      { network.side family with
        interfaces := (network.side family).interfaces.modify id (·.addAddress entry) } :=
    Network.side_onSide ..
  obtain ⟨port, registry, created⟩ := starts.created
  -- The rest of the card is what it was, and so are the calls.
  refine ⟨?_, ?_, ⟨port, registry, ?_⟩, ?_, ?_, ?_⟩
  · rw [interface]
    exact (addAddress_medium starts.medium entry).1
  · rw [interface, (addAddress_medium starts.medium entry).2]
    exact starts.running
  · rw [created, Resolver.addAddress]
    split <;> rfl
  · rw [side]
    exact starts.uncalled
  · rw [side]
    exact starts.distinct
  · rw [side, Network.onInterface, (Network.onSide_rest ..).2.2]
    exact starts.issued

/-- An interface starts as well if figures are counted before. -/
theorem Starts.record (starts : Starts network id settings addresses adapter) (registry : RegistryId)
    (tallies : List Tally) :
    Starts (network.record registry tallies) id settings addresses adapter := by
  -- Tallies touch the figures and nothing of the family.
  have side : (network.record registry tallies).side family = network.side family := by
    cases family <;> rfl
  have interface : (network.record registry tallies).interface family id =
      network.interface family id := Network.interface_congr side
  refine ⟨?_, ?_, starts.created, ?_, ?_, ?_⟩
  · rw [interface]
    exact starts.medium
  · rw [interface]
    exact starts.running
  · rw [side]
    exact starts.uncalled
  · rw [side]
    exact starts.distinct
  · rw [side]
    exact starts.issued

/--
Whatever happens on an Ethernet interface since it is up, no packet is doubled, misdirected or lost
without a trace.

All frames that were put into the queue are entries: a frame that carries a packet carries one that was
sent, once, to the fixed address of its next hop or to a station that an accepted answer told for it, and
any other asks a question or answers one that was heard. Each packet has exactly one fate: it is in one
entry, it was lost and counted, or it waits for a resolution, as only so many may. And each loss has a
cause at the operation that it happened in: the queue was full, as many packets waited as may, or the
resolution of the next hop had failed.
-/
theorem packets_conserved (starts : Starts network id settings addresses adapter)
    (operations : List (Operation family)) :
    let session := Session.run id { network } operations
    let sends := session.journal.sends
    let pending := session.network.pendingSends family id
    ∃ (after : Adapter family) (entries : List (Entry family)) (losses : List Loss)
        (waiting : List Nat),
      (session.network.interface family id).medium = .ethernet after ∧
      (after.isOpen = true ∧ after.queueDepth = max 1 settings.queueDepth ∧
        after.pendingLimit = max 1 settings.pendingLimit ∧ after.queue.length ≤ after.queueDepth) ∧
      session.journal.transmitted ++ after.queue = entries.map (Entry.frame adapter) ∧
      (∀ index station bytes, .packet index station bytes ∈ entries →
        (∃ nextHop, sends[index]? = some (bytes, nextHop) ∧
          (adapter.resolver.wellKnown? nextHop = some station ∨
            (nextHop, station) ∈ session.journal.accepted)) ∧
        ∃ padding, Frame.parse ((Entry.packet index station bytes).frame adapter) = .ok
          ⟨station, adapter.mac, (Adapter.etherType family).code, bytes ++ Bytes.zeros padding⟩) ∧
      (∀ frame, .reply frame ∈ entries → ∃ data ∈ session.journal.heard,
        adapter.hear (data.take Network.receiveLimit) = .resolution (.question frame)) ∧
      (entries.filterMap Entry.index?).Nodup ∧
      (entries.filterMap Entry.index? ++ losses.map (·.index) ++ waiting).Perm
        (List.range sends.length) ∧
      Session.Explained id (network.interface family id).name { network } operations losses ∧
      session.network.sendDrops adapter.registry (network.interface family id).name =
        (network.sendDrops adapter.registry (network.interface family id).name).map
          (· + UInt64.ofNat losses.length) ∧
      waiting.length = pending ∧
      sends.length = (entries.filterMap Entry.index?).length + losses.length + pending ∧
      pending ≤ max 1 settings.pendingLimit := by
  -- The run keeps the account, and each loss on it is explained by the card before it.
  obtain ⟨losses, explained, card, shown, resolver, -, ledger, books, dropped⟩ :=
    starts.kept.run operations
  -- What the account has waiting are the calls of the interface that the network counts.
  have pending : (ledger.waiting card id).length =
      (Session.run id { network } operations).network.pendingSends family id := by
    rw [Ledger.waiting, List.length_map, Network.pendingSends, shown.calls,
      List.countP_eq_length_filter]
    rfl
  -- Nothing is at hand at the end, so each packet is queued, lost or waits.
  have once := books.once
  rw [List.append_nil, dropped] at once
  have distinct : (ledger.queued ++ losses.map (·.index) ++ ledger.waiting card id).Nodup :=
    once.nodup_iff.mpr List.nodup_range
  have counts := once.length_eq
  obtain ⟨port, registry, created⟩ := starts.created
  -- The limits are the ones that the adapter was made with.
  have depth : starts.card.adapter.queueDepth = max 1 settings.queueDepth :=
    congrArg (·.queueDepth) created
  have limit : starts.card.adapter.pendingLimit = max 1 settings.pendingLimit :=
    congrArg (·.pendingLimit) created
  refine ⟨card.adapter, ledger.entries, losses, ledger.waiting card id, shown.medium,
    ⟨books.isOpen, books.depth.trans depth, books.limit.trans limit, ?_⟩, books.frames, ?_, ?_, ?_,
    once, explained, ?_, pending, ?_, ?_⟩
  · rw [books.depth]
    exact books.room
  · intro index station bytes here
    exact ⟨books.genuine _ here, _, Entry.parse_packet ..⟩
  · intro frame here
    exact books.genuine _ here
  · exact (List.nodup_append.mp (List.nodup_append.mp distinct).1).1
  · have counted := shown.drops.trans books.counted
    rw [books.registry, dropped, List.length_map] at counted
    exact counted
  · rw [← pending]
    simpa only [List.length_append, List.length_range, List.length_map, Ledger.queued] using counts.symm
  · have bounded := books.bounded
    rw [← pending, Ledger.waiting, List.length_map, ← limit]
    exact bounded

/-- A packet of `10.0.0.1` to `10.0.0.2`, which answers, is in one entry, to the station that has answered, and nothing
is lost. -/
theorem neighbor_packet_settled :
    let settings : AdapterSettings := { mac := .ofNat 1, resolver := .standard .v4 }
    let entry : InterfaceAddress .v4 := .unicast (.ofNat 0x0A000001) 24
    let network := ((({} : Network).addEthernet .v4 0 "eth0" settings 0).2.onInterface .v4 1
      (·.addAddress entry)).record 0 [.register "eth0"]
    let adapter : Adapter .v4 := { (Adapter.create settings 0 0 : Adapter .v4) with
      resolver := { Resolver.create settings.resolver settings.mac with addresses := [entry] } }
    let answer := Frame.encode (.ofNat 1) (.ofNat 2) .arp
      (ArpPacket.reply (.ofNat 2) (.ofNat 0x0A000002) (.ofNat 1) (.ofNat 0x0A000001)).encode
    let operations : List (Operation .v4) :=
      [.send [0x45] (.ofNat 0x0A000002), .look 2, .hear answer, .look 2, .transmit]
    Starts network 1 settings [entry] adapter ∧
      (Session.run 1 { network } operations).network.pendingSends .v4 1 = 0 ∧
      (Session.run 1 { network } operations).network.sendDrops 0 "eth0" = some 0 ∧
      ∃ entries : List (Entry .v4),
        (Session.run 1 { network } operations).journal.transmitted <+:
          entries.map (Entry.frame adapter) ∧
        entries.filterMap Entry.index? = [0] ∧ .packet 0 (.ofNat 2) [0x45] ∈ entries := by
  intro settings entry network adapter answer operations
  have nobody : (Network.side {} .v4).calls = .empty := rfl
  have starts : Starts network 1 settings [entry] adapter := by
    refine ((@addEthernet_starts .v4 {} 0 "eth0" settings 0 ?_ ?_ ?_).addAddress entry).record 0 _
    · rw [nobody]
      exact nofun
    · rw [nobody]
      exact .nil
    · rw [nobody]
      exact nofun
  -- A single look-up and a single answer settle the packet, and no counter moves.
  have settled : (Session.run 1 { network } operations).network.pendingSends .v4 1 = 0 := by decide
  have counter : (Session.run 1 { network } operations).network.sendDrops 0 "eth0" = some 0 := by
    decide
  have sends : (Session.run 1 { network } operations).journal.sends =
      [([0x45], .ofNat 0x0A000002)] := by decide
  have accepted : (Session.run 1 { network } operations).journal.accepted =
      [(.ofNat 0x0A000002, .ofNat 2)] := by decide
  obtain ⟨_, entries, losses, waiting, _, _, frames, genuine, _, _, once, _, counted, waits, counts, _⟩ :=
    packets_conserved starts operations
  -- The account of the run leaves one index to place.
  obtain rfl := List.length_eq_zero_iff.mp (waits.trans settled)
  -- The counter has stayed at zero, and one loss at most would have been possible.
  have lossless : losses = [] := by
    rw [sends, settled, List.length_singleton] at counts
    have before : network.sendDrops 0 "eth0" = some 0 := by decide
    have kept : some 0 = (some 0).map (· + UInt64.ofNat losses.length) :=
      counter.symm.trans (counted.trans (congrArg (Option.map _) before))
    match losses with
    | [] => rfl
    | [_] => cases kept
    | _ :: _ :: _ =>
      simp only [List.length_cons] at counts
      omega
  subst lossless
  -- With nothing lost and nothing waiting the one packet is in an entry.
  have queued : entries.filterMap Entry.index? = [0] := by
    rw [sends, List.map_nil, List.append_nil, List.append_nil] at once
    exact List.perm_singleton.mp once
  refine ⟨starts, settled, counter, entries, ⟨_, frames⟩, queued, ?_⟩
  obtain ⟨carrier, here, index⟩ := List.mem_filterMap.mp (queued ▸ List.mem_singleton.mpr rfl)
  cases carrier with
  | question | reply => cases index
  | packet index station bytes =>
    -- The next hop has one station only, which is the one that has answered.
    cases index
    obtain ⟨nextHop, sent, reached⟩ := (genuine _ _ _ here).1
    rw [sends] at sent
    cases sent
    have unknown : adapter.resolver.wellKnown? (.ofNat 0x0A000002) = none := by decide
    rw [unknown, accepted, List.mem_singleton, Prod.mk.injEq, and_iff_right rfl] at reached
    obtain rfl := reached.resolve_left nofun
    exact here

end Start

end NetworkLayer.Ethernet
