import NetworkLayer.Network.Schedule
import NetworkLayer.Proofs.Dictionary

/-!
What a network has of one running Ethernet interface: its adapter, the calls of its family, and its
count of drops. What happens on the interface happens on that small part.
-/

namespace NetworkLayer

/-- Whether a frame carries a packet. -/
def Adapter.Heard.isPacket {family : Family} : Adapter.Heard family → Bool
  | .packet .. => true
  | .nothing | .resolution _ => false

/-- The answer that a frame tells, if it is awaited. -/
def Adapter.answers {family : Family} (adapter : Adapter family) (now : Nat) (data : Bytes) :
    List (Address family × Mac) :=
  match adapter.hear (data.take Network.receiveLimit) with
  | .resolution (.answer address mac) =>
    if (adapter.resolver.accept now address mac).1 then [(address, mac)] else []
  | _ => []

/-- What a frame means depends on the address of the adapter and on those that its resolver has. -/
theorem Adapter.hear_congr {family : Family} {left right : Adapter family}
    (mac : left.mac = right.mac)
    (addresses : left.resolver.addresses = right.resolver.addresses) (data : Bytes) :
    left.hear data = right.hear data := by
  have owns : left.resolver.owns = right.resolver.owns := by
    funext address
    rw [Resolver.owns, Resolver.owns, addresses]
  rw [hear, hear, mac, owns]

/-- A frame that finds room is the last in the queue. -/
theorem Adapter.enqueue?_eq_some {family : Family} {adapter after : Adapter family} {frame : Bytes}
    (room : adapter.enqueue? frame = some after) :
    after = { adapter with queue := adapter.queue ++ [frame] } := by
  rw [enqueue?] at room
  split at room
  · exact (Option.some.inj room).symm
  · cases room

/-- A frame finds room only below the depth of the queue. -/
theorem Adapter.enqueue?_room {family : Family} {adapter after : Adapter family} {frame : Bytes}
    (room : adapter.enqueue? frame = some after) : adapter.queue.length < adapter.queueDepth := by
  rw [enqueue?] at room
  -- The queue takes a frame under one condition, which has the room in it.
  split at room
  · rename_i fits
    rw [Bool.and_eq_true, decide_eq_true_eq] at fits
    exact fits.2
  · cases room

/-- An open adapter refuses a frame only if its queue is full. -/
theorem Adapter.enqueue?_eq_none {family : Family} {adapter : Adapter family} {frame : Bytes}
    (isOpen : adapter.isOpen = true) (refused : adapter.enqueue? frame = none) :
    adapter.queueDepth ≤ adapter.queue.length := by
  -- With the adapter open only the room is left to fail.
  rw [enqueue?] at refused
  split at refused
  · cases refused
  · rename_i full
    rw [isOpen, Bool.true_and, decide_eq_true_eq] at full
    exact Nat.le_of_not_lt full

/-- What a network has of one running Ethernet interface. -/
structure Card (family : Family) where
  adapter : Adapter family
  calls : Dictionary CallId (Call family)
  now : Nat
  /-- The identity that is given next. -/
  fresh : Nat
  /-- The packets that were counted as dropped, if the name of the interface is registered. -/
  drops : Option UInt64

namespace Card

variable {family : Family}

/-- The card with another resolver. -/
def withResolver (card : Card family) (resolver : Resolver family) : Card family :=
  { card with adapter := { card.adapter with resolver } }

/-- The card with a frame in its queue, if there is room. -/
def offer (card : Card family) (frame : Bytes) : Card family :=
  match card.adapter.enqueue? frame with
  | some adapter => { card with adapter }
  | none => card

/-- The card with one more packet dropped. -/
def drop (card : Card family) : Card family :=
  { card with drops := card.drops.map (· + 1) }

/-- The card with a packet to a station in its queue, or dropped. -/
def carry (card : Card family) (destination : Mac) (packet : Bytes) : Card family :=
  match card.adapter.enqueue? (card.adapter.dataFrame destination packet) with
  | some adapter => { card with adapter }
  | none => card.drop

/-- The card after a call has ended. -/
def finish (card : Card family) (id : CallId) (mac : Option Mac) : Card family :=
  match card.calls.get? id with
  | none => card
  | some call =>
    let card := { card with calls := card.calls.erase id }
    match call.purpose, mac with
    | .inquiry, _ => card
    | .send packet, some mac => card.carry mac packet
    | .send _, none => card.drop

/-- The card after an effect of its resolver. -/
def undergo (card : Card family) : ResolutionEffect family → Card family
  | .solicit target source =>
    card.offer (ResolutionTraffic.solicitation card.adapter.mac target source)
  | .finish call mac => card.finish call mac
  | .tally _ | .wake _ | .arm _ _ => card

/-- The card after a step of its resolver. -/
def stepResolver (card : Card family)
    (step : Resolver family → Resolver family × List (ResolutionEffect family)) : Card family :=
  (step card.adapter.resolver).2.foldl undergo
    (card.withResolver (step card.adapter.resolver).1)

/-- The card with a new call. -/
def call (card : Card family) (id : InterfaceId) (target : Address family)
    (purpose : CallPurpose) : Card family :=
  { card with
    calls := card.calls.insert card.fresh ⟨id, target, purpose, false⟩
    fresh := card.fresh + 1 }

/-- The calls that packets wait for on an interface. -/
def waiting (card : Card family) (id : InterfaceId) : List (CallId × Call family) :=
  card.calls.entries.filter fun (_, call) =>
    call.interface == id && call.purpose != .inquiry

/-- The card after a packet was sent on it. -/
def send (card : Card family) (id : InterfaceId) (packet : Bytes) (nextHop : Address family) :
    Card family :=
  let looked := card.adapter.resolver.lookup card.now nextHop
  let card := card.withResolver looked.2.1
  match looked.1 with
  | some mac => card.carry mac packet
  | none =>
    if (card.waiting id).length < card.adapter.pendingLimit then card.call id nextHop (.send packet)
    else card.drop

/-- The card after a call was looked at. -/
def look (card : Card family) (id : CallId) (call : Call family) : Card family :=
  if call.started then card.stepResolver (·.resume card.now id)
  else
    let card := { card with
      calls := card.calls.modify id fun call => { call with started := true } }
    card.stepResolver (·.start card.now id call.target)

/-- The card after a frame was heard on it; a packet is for the listeners. -/
def hear (card : Card family) : Adapter.Heard family → Card family
  | .resolution (.question reply) => card.offer reply
  | .resolution (.answer address mac) =>
    card.stepResolver fun resolver => (resolver.accept card.now address mac).2
  | .resolution .foreign | .resolution .ignored | .nothing | .packet .. => card

/-- The card after it has sent a burst of frames. -/
def transmit (card : Card family) : Card family :=
  { card with adapter := { card.adapter with
      queue := card.adapter.queue.drop Network.transmitBurst } }

section Rest

variable {card : Card family}

/-- What the effects of a resolver leave alone: they put frames in the queue, and end calls. -/
structure Rest (before after : Card family) : Prop where
  resolver : after.adapter.resolver = before.adapter.resolver
  limit : after.adapter.pendingLimit = before.adapter.pendingLimit
  now : after.now = before.now
  fresh : after.fresh = before.fresh
  calls : ∀ id call, after.calls.get? id = some call → before.calls.get? id = some call

/-- A card leaves itself alone. -/
theorem Rest.refl (card : Card family) : Rest card card :=
  ⟨rfl, rfl, rfl, rfl, fun _ _ found => found⟩

/-- What is left alone twice is left alone. -/
theorem Rest.trans {before between after : Card family} (early : Rest before between)
    (late : Rest between after) : Rest before after :=
  ⟨late.resolver.trans early.resolver, late.limit.trans early.limit, late.now.trans early.now,
    late.fresh.trans early.fresh,
    fun id call found => early.calls id call (late.calls id call found)⟩

/-- A frame that is offered changes the queue alone. -/
theorem offer_rest (card : Card family) (frame : Bytes) : Rest card (card.offer frame) := by
  rw [offer]
  -- A frame that finds no room changes nothing at all.
  split
  · rename_i room
    obtain rfl := Adapter.enqueue?_eq_some room
    exact ⟨rfl, rfl, rfl, rfl, fun _ _ found => found⟩
  · exact .refl card

/-- A drop changes its count alone. -/
theorem drop_rest (card : Card family) : Rest card card.drop :=
  ⟨rfl, rfl, rfl, rfl, fun _ _ found => found⟩

/-- A packet that is sent or dropped changes the queue and the count of drops. -/
theorem carry_rest (card : Card family) (destination : Mac) (packet : Bytes) :
    Rest card (card.carry destination packet) := by
  have offered := card.offer_rest (card.adapter.dataFrame destination packet)
  rw [offer] at offered
  rw [carry]
  -- A frame for which there is room changes the queue only, and a refused one the count only.
  split
  · rename_i found
    rw [found] at offered
    exact offered
  · exact card.drop_rest

/-- A call that ends is forgotten, and no other is. -/
theorem finish_rest (card : Card family) (id : CallId) (mac : Option Mac) :
    Rest card (card.finish id mac) := by
  rw [finish]
  split
  · exact .refl card
  · -- The call goes whatever it was made for, and nothing else of the calls does.
    have erased : Rest card { card with calls := card.calls.erase id } := by
      refine ⟨rfl, rfl, rfl, rfl, ?_⟩
      intro other call found
      rw [Dictionary.get?_erase] at found
      split at found
      · cases found
      · exact found
    split
    · exact erased
    · exact erased.trans (carry_rest ..)
    · exact erased.trans (drop_rest _)

/-- An effect of the resolver leaves the rest alone. -/
theorem undergo_rest (card : Card family) (effect : ResolutionEffect family) :
    Rest card (card.undergo effect) := by
  cases effect with
  | solicit => exact card.offer_rest _
  | finish => exact card.finish_rest _ _
  | _ => exact .refl card

/-- The effects of the resolver leave the rest alone. -/
theorem foldl_undergo_rest (card : Card family) (effects : List (ResolutionEffect family)) :
    Rest card (effects.foldl undergo card) := by
  induction effects generalizing card with
  | nil => exact .refl card
  | cons effect effects ih => exact (card.undergo_rest effect).trans (ih _)

end Rest

end Card

end NetworkLayer
