import NetworkLayer.Proofs.Ethernet.Card
import NetworkLayer.Proofs.Resolution.Ending

/-!
What happens on an Ethernet interface, and when it costs a packet: the queue is full, too many packets wait for a
resolution already, or the resolution of the next hop has failed.
-/

namespace NetworkLayer

/-- Effects that put nothing in the queue and end no call leave a card as it is. -/
theorem Card.foldl_undergo_quiet {family : Family} (card : Card family) {effects : List (ResolutionEffect family)}
    (calm : ∀ effect ∈ effects, Resolver.isQuiet effect = true) :
    effects.foldl undergo card = card := by
  -- The induction is on the effects, none of which touches the queue or a call.
  induction effects with
  | nil => rfl
  | cons effect effects ih =>
    have same : card.undergo effect = card := by
      have quiet := calm effect List.mem_cons_self
      cases effect with
      | solicit | finish => cases quiet
      | _ => rfl
    rw [List.foldl_cons, same]
    exact ih fun other here => calm other (List.mem_cons_of_mem _ here)

namespace Ethernet

variable {family : Family}

/-- Something that happens to an interface, or time that passes. -/
inductive Operation (family : Family)
  /-- A packet is sent on it. -/
  | send (packet : Bytes) (nextHop : Address family)
  /-- Its resolver is asked for a next hop, without a packet. -/
  | inquire (target : Address family)
  /-- A call of it is looked at, for the first time or again. -/
  | look (call : CallId)
  /-- It hears a frame. -/
  | hear (data : Bytes)
  /-- It sends a burst of the frames in its queue. -/
  | transmit
  | advance (span : Nat)

/-- Why a packet is dropped. -/
inductive Cause
  /-- There is no room in the queue. -/
  | full
  /-- As many packets wait for a resolution as may. -/
  | crowded
  /-- The resolution of the next hop has failed. -/
  | unresolved
deriving DecidableEq, Repr

/-- What an operation finds out about the next hop of a packet, which has an index among those that were sent. -/
inductive Finds (id : InterfaceId) (card : Card family) (sends : List (Bytes × Address family)) :
    Operation family → Nat → Option Mac → Prop
  /-- The next hop of a packet that is sent now is known at once. -/
  | sent {packet : Bytes} {nextHop : Address family} {station : Mac}
      (known : (card.adapter.resolver.lookup card.now nextHop).1 = some station) :
      Finds id card sends (.send packet nextHop) sends.length (some station)
  /-- The call ends for which a packet has waited. -/
  | ended {call : CallId} {made : Call family} {packet : Bytes} {index : Nat} {found : Option Mac}
      (there : card.calls.get? call = some made) (own : made.interface = id)
      (purpose : made.purpose = .send packet) (sent : sends[index]? = some (packet, made.target))
      (ending : card.adapter.resolver.Ending card.now call made.target found) :
      Finds id card sends (.look call) index found

/-- An operation costs a packet, for a cause that the card shows before it. -/
inductive Loses (id : InterfaceId) (card : Card family) (sends : List (Bytes × Address family)) :
    Operation family → Nat → Cause → Prop
  | full {operation : Operation family} {index : Nat} {station : Mac}
      (finds : Finds id card sends operation index (some station))
      (full : card.adapter.queueDepth ≤ card.adapter.queue.length) :
      Loses id card sends operation index .full
  | crowded {packet : Bytes} {nextHop : Address family}
      (unknown : (card.adapter.resolver.lookup card.now nextHop).1 = none)
      (crowd : card.adapter.pendingLimit ≤ (card.waiting id).length) :
      Loses id card sends (.send packet nextHop) sends.length .crowded
  | unresolved {operation : Operation family} {index : Nat}
      (finds : Finds id card sends operation index none) :
      Loses id card sends operation index .unresolved

/-- A packet that was lost: the operations that came before, its index, and the cause. -/
structure Loss where
  moment : Nat
  index : Nat
  cause : Cause

/-- After an operation something holds of the packets that were dropped before, or of these and one that the operation
has cost. -/
def LosesAtMostOne (id : InterfaceId) (card : Card family) (sends : List (Bytes × Address family))
    (operation : Operation family) (dropped : List Nat) (holds : List Nat → Prop) : Prop :=
  holds dropped ∨ ∃ index cause, Loses id card sends operation index cause ∧ holds (dropped ++ [index])

section LosesAtMostOne

variable {id : InterfaceId} {card : Card family} {sends : List (Bytes × Address family)}
  {operation : Operation family} {dropped : List Nat} {holds : List Nat → Prop}

/-- What follows for all lists of dropped packets follows after the operation. -/
theorem LosesAtMostOne.imp {other : List Nat → Prop}
    (after : LosesAtMostOne id card sends operation dropped holds)
    (next : ∀ dropped, holds dropped → other dropped) :
    LosesAtMostOne id card sends operation dropped other := by
  rcases after with none | ⟨index, cause, loses, one⟩
  · exact .inl (next _ none)
  · exact .inr ⟨index, cause, loses, next _ one⟩

/-- A packet that finds no room costs one packet at most, if the queue is full then. -/
theorem Finds.losesAtMostOne {index : Nat} {found : Option Mac}
    (finds : Finds id card sends operation index found)
    (after : holds dropped ∨ (∀ station, found = some station →
      card.adapter.queueDepth ≤ card.adapter.queue.length) ∧ holds (dropped ++ [index])) :
    LosesAtMostOne id card sends operation dropped holds := by
  rcases after with none | ⟨full, one⟩
  · exact .inl none
  · cases found with
    | none => exact .inr ⟨index, _, .unresolved finds, one⟩
    | some station => exact .inr ⟨index, _, .full finds (full station rfl), one⟩

end LosesAtMostOne

end Ethernet

end NetworkLayer
