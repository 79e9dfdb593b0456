import NetworkLayer.Proofs.Ethernet.Card
import NetworkLayer.Proofs.Network
import NetworkLayer.Proofs.Resolution.Outcome

/-!
A network shows the card of a running Ethernet interface: what the network does on the interface is what
happens on the card, whatever else the network consists of.
-/

namespace NetworkLayer.Network

variable {family : Family} {network : Network} {id : InterfaceId} {name : String}
  {card : Card family}

/-- The packets to send that were counted as dropped on an interface name, if it is registered. -/
def sendDrops (network : Network) (registry : RegistryId) (name : String) : Option UInt64 :=
  ((network.metrics registry).interfaces.get? name).map (·.sendDrops)

/-- A card is what a network has of a running interface. -/
structure Shows (network : Network) (id : InterfaceId) (name : String) (card : Card family) :
    Prop where
  medium : (network.interface family id).medium = .ethernet card.adapter
  running : (network.interface family id).running = true
  named : (network.interface family id).name = name
  calls : (network.side family).calls = card.calls
  now : network.now = card.now
  fresh : network.fresh = card.fresh
  drops : network.sendDrops card.adapter.registry name = card.drops

section Frame

/-- The drops that were counted stay the same if the registries do. -/
theorem sendDrops_congr {other : Network} (registries : other.registries = network.registries)
    (registry : RegistryId) (name : String) :
    other.sendDrops registry name = network.sendDrops registry name := by
  rw [sendDrops, metrics, registries, sendDrops, metrics]

/-- If the interface stays as it is, its card takes over what has changed around it. -/
theorem Shows.of_interface {other : Network} (shown : network.Shows id name card)
    (same : other.interface family id = network.interface family id) :
    other.Shows id name { card with
      calls := (other.side family).calls
      now := other.now
      fresh := other.fresh
      drops := other.sendDrops card.adapter.registry name } := by
  refine ⟨?_, ?_, ?_, rfl, rfl, rfl, rfl⟩
  · rw [same]
    exact shown.medium
  · rw [same]
    exact shown.running
  · rw [same]
    exact shown.named

/-- A card shows what it needs of a network, and no more. -/
theorem Shows.congr {other : Network} (shown : network.Shows id name card)
    (side : other.side family = network.side family)
    (registries : other.registries = network.registries) (now : other.now = network.now)
    (fresh : other.fresh = network.fresh) : other.Shows id name card := by
  have taken := shown.of_interface (interface_congr side)
  rw [side, shown.calls, now, shown.now, fresh, shown.fresh, sendDrops_congr registries,
    shown.drops] at taken
  exact taken

/-- Work that is ready is none of a card's business. -/
theorem Shows.wake (shown : network.Shows id name card) (job : Job) :
    (network.wake job).Shows id name card := by
  rw [Network.wake]
  split
  · exact shown
  · refine shown.congr ?_ rfl rfl rfl
    cases family <;> rfl

/-- An event is none of a card's business. -/
theorem Shows.observe (shown : network.Shows id name card) (event : Event) :
    (network.observe event).Shows id name card := by
  refine shown.congr ?_ rfl rfl rfl
  cases family <;> rfl

/-- A timer is none of a card's business. -/
theorem Shows.timers (shown : network.Shows id name card) (timers : List Timer) :
    Shows { network with timers } id name card := by
  refine shown.congr ?_ rfl rfl rfl
  cases family <;> rfl

/-- What ports have heard is none of a card's business. -/
theorem Shows.ports (shown : network.Shows id name card) (ports : Dictionary PortId Port) :
    Shows { network with ports } id name card := by
  refine shown.congr ?_ rfl rfl rfl
  cases family <;> rfl

end Frame

section Parts

/-- The adapter of a card is the one of its interface. -/
theorem Shows.adapter (shown : network.Shows id name card) :
    (network.interface family id).adapter? = some card.adapter := by
  rw [Interface.adapter?, shown.medium]

/-- An interface on a card is in use. -/
theorem Shows.interface_eq (shown : network.Shows id name card) :
    (network.side family).interfaces.get? id = some (network.interface family id) := by
  have medium := shown.medium
  rw [interface, Interfaces.at] at medium ⊢
  cases found : (network.side family).interfaces.get? id with
  | none =>
    -- What is not in use counts as a loopback.
    rw [found] at medium
    cases medium
  | some interface => rfl

/-- A changed adapter is the one of the card. -/
theorem Shows.withAdapter (shown : network.Shows id name card)
    (change : Adapter family → Adapter family)
    (registry : (change card.adapter).registry = card.adapter.registry) :
    (network.onInterface family id (·.withAdapter change)).Shows id name
      { card with adapter := change card.adapter } := by
  -- Only the adapter of the interface changes, so all else is looked at as before.
  have interface : (network.onInterface family id (·.withAdapter change)).interface family id =
      { network.interface family id with medium := .ethernet (change card.adapter) } := by
    rw [onInterface, Network.interface, side_onSide, Interfaces.at, Dictionary.get?_modify,
      if_pos (beq_self_eq_true id), shown.interface_eq, Option.map_some, Option.getD_some,
      Interface.withAdapter, shown.medium]
  have rest := onSide_rest network fun side : Side family =>
    { side with interfaces := side.interfaces.modify id (·.withAdapter change) }
  refine ⟨?_, ?_, ?_, ?_, rest.2.1.trans shown.now, rest.2.2.trans shown.fresh, ?_⟩
  · rw [interface]
  · rw [interface]
    exact shown.running
  · rw [interface]
    exact shown.named
  · rw [onInterface, side_onSide]
    exact shown.calls
  · rw [registry, onInterface, sendDrops_congr rest.1]
    exact shown.drops

/-- A changed resolver is the one of the card. -/
theorem Shows.withResolver (shown : network.Shows id name card) (resolver : Resolver family) :
    (network.onInterface family id (·.withResolver fun _ => resolver)).Shows id name
      (card.withResolver resolver) :=
  shown.withAdapter (fun adapter => { adapter with resolver }) rfl

/-- Changed calls are the ones of the card. -/
theorem Shows.withCalls (shown : network.Shows id name card)
    (change : Dictionary CallId (Call family) → Dictionary CallId (Call family)) :
    (network.onSide family fun side => { side with calls := change side.calls }).Shows id name
      { card with calls := change card.calls } := by
  have rest := onSide_rest network fun side : Side family =>
    { side with calls := change side.calls }
  -- The interface is what it was, since no interface is a call.
  have taken := shown.of_interface (show (network.onSide family fun side : Side family =>
      { side with calls := change side.calls }).interface family id =
        network.interface family id by rw [Network.interface, side_onSide, Network.interface])
  rw [side_onSide, shown.calls, rest.2.1, shown.now, rest.2.2, shown.fresh,
    sendDrops_congr rest.1, shown.drops] at taken
  exact taken

/-- Counters of the whole leave the figures of the interfaces alone. -/
theorem record_ones (metrics : Metrics) (counters : List Counter) :
    (metrics.record (counters.map .one)).interfaces = metrics.interfaces := by
  induction counters generalizing metrics with
  | nil => rfl
  | cons counter rest ih => exact ih (metrics.tally (.one counter))

/-- Changed metrics of the adapter are the ones that the card looks at. -/
theorem Shows.record (shown : network.Shows id name card) (tallies : List Tally) :
    (network.record card.adapter.registry tallies).Shows id name
      { card with drops := ((((network.metrics card.adapter.registry).record tallies).interfaces.get?
        name).map (·.sendDrops)) } := by
  -- Counting changes neither side of the network.
  have side : (network.record card.adapter.registry tallies).side family =
      network.side family := by
    cases family <;> rfl
  have drops : (network.record card.adapter.registry tallies).sendDrops card.adapter.registry name =
      (((network.metrics card.adapter.registry).record tallies).interfaces.get? name).map
        (·.sendDrops) := by
    rw [sendDrops, Network.record, metrics, Dictionary.get?_insert, if_pos (beq_self_eq_true _)]
    rfl
  have taken := shown.of_interface (interface_congr side)
  rw [side, shown.calls, drops] at taken
  rw [← shown.now, ← shown.fresh]
  exact taken

/-- Counting leaves a card as it is. -/
theorem Shows.countAt (shown : network.Shows id name card) (counters : List Counter) :
    (network.countAt family id (counters.map .one)).Shows id name card := by
  have recorded := shown.record (counters.map .one)
  -- Of what is counted none is a drop of a frame, so the drops are as they were.
  have drops := shown.drops
  rw [sendDrops] at drops
  rw [record_ones, drops] at recorded
  rw [Network.countAt, shown.adapter]
  exact recorded

/-- A drop that is counted is one of the card. -/
theorem Shows.countSendDrop (shown : network.Shows id name card) :
    (network.countSendDrop family id).Shows id name card.drop := by
  -- The one count is at the name of the interface, where the drops of the card are read.
  have recorded := shown.record [.sendDrop name]
  rw [Network.countSendDrop, Network.countAt, shown.adapter, shown.named]
  rw [Metrics.record, List.foldl_cons, List.foldl_nil, Metrics.tally, Metrics.forInterface,
    Dictionary.get?_modify, if_pos (beq_self_eq_true name), Option.map_map] at recorded
  rw [Card.drop, ← shown.drops, sendDrops, Option.map_map]
  exact recorded

end Parts

section Steps

/-- A frame that finds room is in the queue of the card. -/
theorem Shows.enqueue (shown : network.Shows id name card) (frame : Bytes) :
    (network.enqueue family id frame).2.Shows id name (card.offer frame) ∧
      (network.enqueue family id frame).1 = (card.adapter.enqueue? frame).isSome := by
  rw [Network.enqueue, Card.offer, shown.adapter, Option.bind_some]
  -- Without room nothing is changed; with room the work of sending is made ready.
  cases found : card.adapter.enqueue? frame with
  | none => exact ⟨shown, rfl⟩
  | some adapter =>
    have registry : adapter.registry = card.adapter.registry := by
      rw [Adapter.enqueue?_eq_some found]
    exact ⟨(shown.withAdapter (fun _ => adapter) registry).wake _, rfl⟩

/-- A frame for a packet is in the queue of the card, or the packet is dropped. -/
theorem Shows.sendFrame (shown : network.Shows id name card) (destination : Mac)
    (packet : Bytes) :
    (network.sendFrame family id destination packet).Shows id name
      (card.carry destination packet) := by
  have queued := shown.enqueue (card.adapter.dataFrame destination packet)
  rw [Card.offer] at queued
  simp only [Network.sendFrame, shown.adapter, Card.carry]
  -- The frame has found room in the queue exactly if the network says so.
  split
  · rename_i after happens
    rw [happens] at queued
    obtain ⟨adapter, found⟩ := Option.isSome_iff_exists.mp queued.2.symm
    simp only [found] at queued ⊢
    exact queued.1
  · rename_i after happens
    rw [happens] at queued
    have found := Option.not_isSome_iff_eq_none.mp (Bool.eq_false_iff.mp queued.2.symm)
    simp only [found]
    exact shown.countSendDrop

/-- A call of the interface that ends has ended for the card. -/
theorem Shows.finishCall (shown : network.Shows id name card) (call : CallId) (mac : Option Mac)
    (own : ∀ found, card.calls.get? call = some found → found.interface = id) :
    (network.finishCall family call mac).Shows id name (card.finish call mac) := by
  rw [Network.finishCall, Card.finish, shown.calls]
  -- A call that is unknown ends for neither.
  cases found : card.calls.get? call with
  | none => exact shown
  | some ended =>
    have erased := shown.withCalls (·.erase call)
    rcases ended with ⟨interface, target, purpose, started⟩
    obtain rfl : interface = id := own _ found
    -- What ends with a call is told, sent or counted, the same way on both.
    cases purpose with
    | inquiry => exact erased.observe _
    | send packet =>
      cases mac with
      | some mac => exact erased.sendFrame mac packet
      | none => exact erased.countSendDrop

/-- An effect of the resolver is one on the card. -/
theorem Shows.applyEffect (shown : network.Shows id name card)
    (effect : ResolutionEffect family)
    (own : ∀ call mac found, effect = .finish call mac → card.calls.get? call = some found →
      found.interface = id) :
    (network.applyEffect id effect).Shows id name (card.undergo effect) := by
  -- Each effect is carried out by one operation, which the card goes along with.
  cases effect with
  | tally counter => exact shown.countAt [counter]
  | solicit target source =>
    rw [Network.applyEffect, shown.adapter]
    exact (shown.enqueue _).1
  | wake call => exact shown.wake _
  | arm call deadline => exact shown.timers _
  | finish call mac => exact shown.finishCall call mac fun found => own call mac found rfl

/-- The effects of the resolver are the ones on the card, if no call of another interface ends. -/
theorem Shows.applyEffects (shown : network.Shows id name card)
    (effects : List (ResolutionEffect family))
    (own : ∀ call mac found, .finish call mac ∈ effects → card.calls.get? call = some found →
      found.interface = id) :
    (effects.foldl (fun network effect => network.applyEffect id effect) network).Shows id name
      (effects.foldl Card.undergo card) := by
  -- The induction is on the effects, from any network, since each of them changes it.
  induction effects generalizing network card with
  | nil => exact shown
  | cons effect effects ih =>
    refine ih (shown.applyEffect effect ?_) ?_
    · intro call mac found same
      exact own call mac found (same ▸ List.mem_cons_self)
    · intro call mac found caused there
      exact own call mac found (List.mem_cons_of_mem _ caused)
        ((card.undergo_rest effect).calls _ _ there)

/-- A step of the resolver is one on the card. -/
theorem Shows.stepResolver (shown : network.Shows id name card)
    (step : Resolver family → Resolver family × List (ResolutionEffect family))
    (own : ∀ call mac found, .finish call mac ∈ (step card.adapter.resolver).2 →
      card.calls.get? call = some found → found.interface = id) :
    (network.stepResolver family id step).Shows id name (card.stepResolver step) := by
  rw [Network.stepResolver, shown.adapter]
  exact (shown.withResolver _).applyEffects _ own

/-- A new call is one of the card. -/
theorem Shows.call (shown : network.Shows id name card) (target : Address family)
    (purpose : CallPurpose) :
    (network.call id target purpose).2.Shows id name (card.call id target purpose) := by
  -- The identity of the call is the next one, on both.
  have renewed : Shows { network with fresh := network.fresh + 1 } id name
      { card with fresh := card.fresh + 1 } := by
    have side : Network.side { network with fresh := network.fresh + 1 } family =
        network.side family := by
      cases family <;> rfl
    have taken := shown.of_interface (interface_congr side)
    rw [side, shown.calls] at taken
    rw [← shown.fresh, ← shown.now, ← shown.drops]
    exact taken
  have called := renewed.withCalls (·.insert network.fresh ⟨id, target, purpose, false⟩)
  rw [shown.fresh] at called
  rw [Network.call, newId, shown.fresh]
  exact called.wake _

/-- A packet that is sent on the interface is sent on the card. -/
theorem Shows.send (shown : network.Shows id name card) (packet : Bytes)
    (nextHop : Address family) :
    (network.follow (.sent ⟨id, packet, nextHop⟩)).1.Shows id name
      (card.send id packet nextHop) := by
  simp only [follow, shown.medium, shown.running, if_true]
  rw [sendOnEthernet, shown.now, Card.send]
  rcases card.adapter.resolver.lookup card.now nextHop with ⟨mac, resolver, hits⟩
  have looked := (shown.withResolver resolver).countAt hits
  cases mac with
  | some mac => exact looked.sendFrame mac packet
  | none =>
    -- The network counts the waiting packets in the calls of the card.
    have limit : (card.withResolver resolver).adapter.pendingLimit =
        card.adapter.pendingLimit := rfl
    simp only [pendingSends, List.countP_eq_length_filter, looked.calls, Card.waiting, limit]
    split
    · exact looked.call nextHop _
    · exact looked.countSendDrop

/-- A call of the interface that is looked at is looked at on the card. -/
theorem Shows.look (shown : network.Shows id name card) {call : CallId} {found : Call family}
    (there : card.calls.get? call = some found) (own : found.interface = id) :
    (network.look family call).Shows id name (card.look call found) := by
  rcases found with ⟨interface, target, purpose, started⟩
  obtain rfl : interface = id := own
  have started := shown.withCalls (·.modify call fun call => { call with started := true })
  simp only [Network.look, shown.calls, there, Card.look]
  -- What ends is the call itself, since a resolver ends no call but the one that it looks at.
  split
  · -- A call that runs is woken.
    rw [shown.now]
    refine shown.stepResolver _ ?_
    intro other mac ended caused known
    obtain ⟨rfl, _⟩ :=
      Resolver.Session.resume_finish ⟨card.now, card.adapter.resolver, []⟩ caused
    cases there.symm.trans known
    rfl
  · -- A call that waits begins its turn, marked as running.
    rw [started.now]
    refine started.stepResolver _ ?_
    intro other mac ended caused known
    obtain ⟨rfl, _⟩ :=
      Resolver.Session.start_finish ⟨card.now, card.adapter.resolver, []⟩ rfl caused
    rw [Dictionary.get?_modify, if_pos (beq_self_eq_true _), there] at known
    cases known
    rfl

/-- A frame without a packet is heard on the card. -/
theorem Shows.hear (shown : network.Shows id name card) {data : Bytes}
    (plain : ¬ (card.adapter.hear (data.take receiveLimit)).isPacket) :
    (network.hear family id data).Shows id name
      (card.hear (card.adapter.hear (data.take receiveLimit))) := by
  -- The frame is sorted by the same adapter on both.
  simp only [Network.hear, shown.running, shown.adapter]
  generalize card.adapter.hear (data.take receiveLimit) = heard at plain ⊢
  cases heard with
  | nothing => exact shown
  | packet => exact absurd rfl plain
  | resolution traffic =>
    cases traffic with
    | question reply =>
      have queued := shown.enqueue reply
      simp only [Card.hear]
      split
      · rename_i after happens
        rw [happens] at queued
        exact queued.1.countAt [.resolutionReplies]
      · -- Without room the network stays as it was.
        rename_i after happens
        rw [happens, Card.offer] at queued
        have full := Option.not_isSome_iff_eq_none.mp (Bool.eq_false_iff.mp queued.2.symm)
        rw [Card.offer, full]
        exact shown
    -- An answer ends no call, so none of another interface does.
    | answer address mac =>
      rw [shown.now]
      refine shown.stepResolver _ ?_
      intro call mac found caused
      exact absurd caused Resolver.Session.accept_finish
    | _ => exact shown

/-- What a port hears is none of a card's business. -/
theorem Shows.hearFrame (shown : network.Shows id name card) (port : PortId) (frame : Bytes) :
    (network.hearFrame port frame).Shows id name card := by
  rw [Network.hearFrame]
  split
  · exact (shown.ports _).wake _
  · exact shown.ports _

/-- What some ports hear is none of a card's business. -/
theorem Shows.hearFrames (shown : network.Shows id name card) (ports : List (PortId × Port))
    (frame : Bytes) : (ports.foldl (fun network (id, _) => network.hearFrame id frame)
      network).Shows id name card := by
  induction ports generalizing network with
  | nil => exact shown
  | cons port ports ih => exact ih (shown.hearFrame port.1 frame)

/-- What is repeated to ports is none of a card's business. -/
theorem Shows.repeatFrame (shown : network.Shows id name card) (source : PortId)
    (frame : Bytes) : (network.repeatFrame source frame).Shows id name card := by
  rw [Network.repeatFrame]
  split
  · exact shown
  · exact shown.hearFrames _ frame

/-- The frames that an adapter sends have left the queue of the card. -/
theorem Shows.transmit (shown : network.Shows id name card) :
    (network.transmit family id).Shows id name card.transmit := by
  have sent := shown.withAdapter
    (fun adapter => { adapter with queue := card.adapter.queue.drop transmitBurst }) rfl
  -- The frames go out one after the other, and the hub that repeats them is no matter of the card.
  have repeated (frames : List Bytes) {network : Network}
      (shown : network.Shows id name card.transmit) :
      (frames.foldl (fun network frame => network.repeatFrame card.adapter.port frame)
        network).Shows id name card.transmit := by
    induction frames generalizing network with
    | nil => exact shown
    | cons frame frames ih => exact ih (shown.repeatFrame card.adapter.port frame)
  simp only [Network.transmit, shown.adapter]
  split
  · exact repeated _ sent
  · exact (repeated _ sent).wake _

/-- As time passes, it passes for the card. -/
theorem Shows.advance (shown : network.Shows id name card) (span : Nat) :
    Shows { network with now := network.now + span } id name
      { card with now := card.now + span } := by
  -- Time belongs to the network, not to a side.
  have side : Network.side { network with now := network.now + span } family =
      network.side family := by
    cases family <;> rfl
  have taken := shown.of_interface (interface_congr side)
  rw [side, shown.calls] at taken
  rw [← shown.now, ← shown.fresh, ← shown.drops]
  exact taken

end Steps

end NetworkLayer.Network
