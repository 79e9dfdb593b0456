import NetworkLayer.Proofs.Ethernet.Losses
import NetworkLayer.Proofs.Frame

/-!
A ledger of what has become of the packets that were sent on an Ethernet interface: each was put into
the queue in one frame, was dropped, or waits for a call that was made for it.
-/

namespace NetworkLayer.Ethernet

variable {family : Family}

/-- What is on record of an interface. -/
structure Journal (family : Family) where
  /-- The packets that were sent on it, with their next hops, the first one first. -/
  sends : List (Bytes × Address family) := []
  /-- The frames that have left its queue. -/
  transmitted : List Bytes := []
  /-- The frames that it has heard. -/
  heard : List Bytes := []
  /-- The answers that its resolver has accepted. -/
  accepted : List (Address family × Mac) := []

/-- The journal after an adapter has heard a frame. -/
def Journal.hearing (journal : Journal family) (adapter : Adapter family) (now : Nat)
    (data : Bytes) : Journal family :=
  { journal with
    heard := journal.heard ++ [data]
    accepted := journal.accepted ++ adapter.answers now data }

/-- A station has a fixed address for a next hop, or an accepted answer about it. -/
def Journal.Reaches (journal : Journal family) (adapter : Adapter family)
    (nextHop : Address family) (station : Mac) : Prop :=
  adapter.resolver.wellKnown? nextHop = some station ∨ (nextHop, station) ∈ journal.accepted

/-- Why a frame was put into the queue. -/
inductive Entry (family : Family)
  /-- It carries the packet that was sent at an index. -/
  | packet (index : Nat) (station : Mac) (bytes : Bytes)
  | question (target source : Address family)
  | reply (frame : Bytes)

namespace Entry

/-- The frame of an entry. -/
def frame (adapter : Adapter family) : Entry family → Bytes
  | .packet _ station bytes => adapter.dataFrame station bytes
  | .question target source => ResolutionTraffic.solicitation adapter.mac target source
  | .reply frame => frame

/-- The index of the packet that an entry carries. -/
def index? : Entry family → Option Nat
  | .packet index _ _ => some index
  | .question .. | .reply .. => none

/-- A packet is the one that was sent, to a station that its next hop is reached at, and a reply
answers a frame that was heard. -/
def Genuine (adapter : Adapter family) (journal : Journal family) : Entry family → Prop
  | .packet index station bytes => ∃ nextHop,
    journal.sends[index]? = some (bytes, nextHop) ∧ journal.Reaches adapter nextHop station
  | .question .. => True
  | .reply frame => ∃ data ∈ journal.heard,
    adapter.hear (data.take Network.receiveLimit) = .resolution (.question frame)

end Entry

/-- The frame of a packet takes just the packet, from the adapter to the station. -/
theorem Entry.parse_packet (adapter : Adapter family) (index : Nat) (station : Mac)
    (bytes : Bytes) :
    Frame.parse ((packet index station bytes : Entry family).frame adapter) = .ok {
      destination := station
      source := adapter.mac
      etherType := (Adapter.etherType family).code
      payload := bytes ++ Bytes.zeros (Frame.leastSize - (Frame.headerSize + bytes.length)) } :=
  Frame.parse_encode ..

/-- What has become of the packets that were sent. -/
structure Ledger (family : Family) where
  /-- What was put into the queue, the first one first. -/
  entries : List (Entry family)
  /-- The packets that were dropped. -/
  dropped : List Nat
  /-- The packet that a call was made for. -/
  packetOf : CallId → Nat

/-- The packets that were put into the queue. -/
def Ledger.queued (ledger : Ledger family) : List Nat :=
  ledger.entries.filterMap Entry.index?

/-- The packets that wait on a card. -/
def Ledger.waiting (ledger : Ledger family) (card : Card family) (id : InterfaceId) : List Nat :=
  (card.waiting id).map fun waiting => ledger.packetOf waiting.1

/-- A ledger is about a card since a start, but for some packets that are at hand. -/
structure Books (id : InterfaceId) (start : Card family) (journal : Journal family)
    (card : Card family) (ledger : Ledger family) (loose : List Nat) : Prop where
  frames : journal.transmitted ++ card.adapter.queue = ledger.entries.map (·.frame start.adapter)
  genuine : ∀ entry ∈ ledger.entries, entry.Genuine start.adapter journal
  /-- Every packet has one fate. -/
  once : (ledger.queued ++ ledger.dropped ++ ledger.waiting card id ++ loose).Perm
    (List.range journal.sends.length)
  awaited : ∀ call made, (call, made) ∈ card.waiting id → ∃ packet, made.purpose = .send packet ∧
    journal.sends[ledger.packetOf call]? = some (packet, made.target)
  bounded : (card.waiting id).length ≤ start.adapter.pendingLimit
  counted : card.drops = start.drops.map (· + UInt64.ofNat ledger.dropped.length)
  registry : card.adapter.registry = start.adapter.registry
  mac : card.adapter.mac = start.adapter.mac
  limit : card.adapter.pendingLimit = start.adapter.pendingLimit
  isOpen : card.adapter.isOpen = true
  depth : card.adapter.queueDepth = start.adapter.queueDepth
  room : card.adapter.queue.length ≤ start.adapter.queueDepth
  distinct : card.calls.keys.Nodup
  issued : ∀ call ∈ card.calls.keys, call < card.fresh

/-- All packets are accounted for, some of which were dropped. -/
def Balanced (id : InterfaceId) (start : Card family) (journal : Journal family) (card : Card family)
    (dropped : List Nat) : Prop :=
  ∃ ledger, Books id start journal card ledger [] ∧ ledger.dropped = dropped

namespace Books

variable {id : InterfaceId} {start card : Card family} {journal : Journal family}
  {ledger : Ledger family} {loose : List Nat}

section Queue

/-- An entry that goes into the queue is in the ledger, and its packet is at hand no more. -/
theorem queues {entry : Entry family} (books : Books id start journal card ledger entry.index?.toList)
    (genuine : entry.Genuine start.adapter journal) {after : Adapter family}
    (room : card.adapter.enqueue? (entry.frame start.adapter) = some after) :
    Books id start journal { card with adapter := after }
      { ledger with entries := ledger.entries ++ [entry] } [] := by
  have below := Adapter.enqueue?_room room
  obtain rfl := Adapter.enqueue?_eq_some room
  -- An entry with a packet has its index among those in the queue, and any other has none.
  have queued : Ledger.queued { ledger with entries := ledger.entries ++ [entry] } =
      ledger.queued ++ entry.index?.toList := by
    rw [Ledger.queued, Ledger.queued, List.filterMap_append]
    cases entry <;> rfl
  refine { books with frames := ?_, genuine := ?_, once := ?_, room := ?_ }
  · rw [List.map_append, ← books.frames, List.append_assoc]
    rfl
  · intro other here
    rcases List.mem_append.mp here with old | new
    · exact books.genuine other old
    · obtain rfl := List.mem_singleton.mp new
      exact genuine
  · -- The packet at hand is now one in the queue, and each is counted once as before.
    rw [queued]
    refine List.Perm.trans (List.perm_iff_count.mpr fun index => ?_) books.once
    simp only [Ledger.waiting, Card.waiting, List.count_append, List.count_nil]
    omega
  · show (card.adapter.queue ++ [_]).length ≤ _
    rw [List.length_append, ← books.depth]
    exact below

/-- A frame that is about no packet keeps the books, whether it finds room or not. -/
theorem offered (books : Books id start journal card ledger []) (entry : Entry family)
    (other : entry.index? = none) (genuine : entry.Genuine start.adapter journal) :
    Balanced id start journal (card.offer (entry.frame start.adapter)) ledger.dropped := by
  rw [Card.offer]
  split
  · rename_i room
    exact ⟨_, queues (by rwa [other]) genuine room, rfl⟩
  · exact ⟨ledger, books, rfl⟩

/-- A packet that is dropped is in the ledger, and it is counted. -/
theorem drops {index : Nat} (books : Books id start journal card ledger [index]) :
    Books id start journal card.drop { ledger with dropped := ledger.dropped ++ [index] } [] := by
  refine { books with once := ?_, counted := ?_ }
  · -- The packet at hand is now one that was dropped, and each is counted once as before.
    refine List.Perm.trans (List.perm_iff_count.mpr fun other => ?_) books.once
    simp only [Ledger.queued, Ledger.waiting, Card.waiting, Card.drop, List.count_append,
      List.count_nil]
    omega
  · show card.drops.map (· + 1) = _
    rw [books.counted, Option.map_map]
    refine congrArg (start.drops.map ·) (funext fun drops => ?_)
    rw [List.length_append, UInt64.ofNat_add]
    exact UInt64.add_assoc ..

/-- A packet to a station that its next hop is reached at is queued, or dropped for want of room. -/
theorem carries {index : Nat} {packet : Bytes} {nextHop : Address family} {station : Mac}
    (books : Books id start journal card ledger [index])
    (sent : journal.sends[index]? = some (packet, nextHop))
    (reached : journal.Reaches start.adapter nextHop station) :
    Balanced id start journal (card.carry station packet) ledger.dropped ∨
      card.adapter.queueDepth ≤ card.adapter.queue.length ∧
        Balanced id start journal (card.carry station packet) (ledger.dropped ++ [index]) := by
  -- The frame of the entry is the one that the card offers to the queue.
  let entry : Entry family := .packet index station packet
  have frame : card.adapter.dataFrame station packet = entry.frame start.adapter := by
    rw [Adapter.dataFrame, books.mac]
    rfl
  rw [Card.carry, frame]
  split
  · rename_i room
    have queued : Books id start journal card ledger entry.index?.toList := books
    exact .inl ⟨_, queued.queues ⟨nextHop, sent, reached⟩ room, rfl⟩
  · rename_i refused
    -- A queue that is open refuses a frame only if it is full.
    exact .inr ⟨Adapter.enqueue?_eq_none books.isOpen refused, _, books.drops, rfl⟩

end Queue

section Calls

variable {call : CallId} {made : Call family}

/-- A call that is not known yet has no entry. -/
theorem fresh_absent (books : Books id start journal card ledger loose) :
    card.fresh ∉ card.calls.keys :=
  fun known => Nat.lt_irrefl _ (books.issued _ known)

/-- The keys of the calls differ and were all given out, also with a new call. -/
theorem call_keys (books : Books id start journal card ledger loose) (target : Address family)
    (purpose : CallPurpose) :
    (card.call id target purpose).calls.keys.Nodup ∧
      ∀ call ∈ (card.call id target purpose).calls.keys,
        call < (card.call id target purpose).fresh := by
  -- A call gets an identity that was never given out, so it comes last.
  have keys : (card.call id target purpose).calls.keys = card.calls.keys ++ [card.fresh] := by
    rw [Card.call, Dictionary.keys, Dictionary.entries_insert books.fresh_absent, List.map_append]
    rfl
  rw [keys]
  constructor
  · refine List.nodup_append.mpr
      ⟨books.distinct, List.nodup_cons.mpr ⟨List.not_mem_nil, List.nodup_nil⟩, ?_⟩
    intro call known other new same
    obtain rfl := List.mem_singleton.mp new
    exact books.fresh_absent (same ▸ known)
  · intro call here
    rcases List.mem_append.mp here with known | new
    · exact Nat.lt_succ_of_lt (books.issued call known)
    · rw [List.mem_singleton.mp new]
      exact Nat.lt_succ_self _

/-- A packet for which a call is made waits. -/
theorem waits {index : Nat} {packet : Bytes} {nextHop : Address family}
    (books : Books id start journal card ledger [index])
    (sent : journal.sends[index]? = some (packet, nextHop))
    (room : (card.waiting id).length < start.adapter.pendingLimit) :
    Balanced id start journal (card.call id nextHop (.send packet)) ledger.dropped := by
  -- The new call stands for the packet at hand, and each other call for the packet that it had.
  let packetOf := fun call => if call = card.fresh then index else ledger.packetOf call
  have waiting : (card.call id nextHop (.send packet)).waiting id =
      card.waiting id ++ [(card.fresh, ⟨id, nextHop, .send packet, false⟩)] := by
    rw [Card.call, Card.waiting, Dictionary.entries_insert books.fresh_absent, List.filter_append]
    simp [Card.waiting]
  -- The packets of the other calls stay the same.
  have others : ∀ waiting ∈ card.waiting id, packetOf waiting.1 = ledger.packetOf waiting.1 := by
    intro waiting here
    refine if_neg fun same => books.fresh_absent ?_
    rw [← same]
    exact List.mem_map_of_mem (List.mem_filter.mp here).1
  have packets : Ledger.waiting { ledger with packetOf } (card.call id nextHop (.send packet)) id =
      ledger.waiting card id ++ [index] := by
    rw [Ledger.waiting, waiting, List.map_append, List.map_congr_left others]
    simp [packetOf, Ledger.waiting]
  have keys := books.call_keys nextHop (.send packet)
  refine ⟨{ ledger with packetOf }, { books with
    once := ?_, awaited := ?_, bounded := ?_, distinct := keys.1, issued := keys.2 }, rfl⟩
  · -- The packet at hand is now one that waits, and each is counted once as before.
    rw [packets]
    refine List.Perm.trans (List.perm_iff_count.mpr fun other => ?_) books.once
    simp only [Ledger.queued, List.count_append, List.count_nil]
    omega
  · intro call made here
    rw [waiting] at here
    rcases List.mem_append.mp here with old | new
    · obtain ⟨packet, purpose, sent⟩ := books.awaited call made old
      refine ⟨packet, purpose, ?_⟩
      rw [← others _ old] at sent
      exact sent
    · cases List.mem_singleton.mp new
      exact ⟨packet, rfl, by simpa [packetOf] using sent⟩
  · rw [waiting, List.length_append]
    exact room

/-- No packet waits for a call that only inquires. -/
theorem inquires (books : Books id start journal card ledger []) (target : Address family) :
    Books id start journal (card.call id target .inquiry) ledger [] := by
  -- A call that inquires is none of those that a packet waits for.
  have waiting : (card.call id target .inquiry).waiting id = card.waiting id := by
    rw [Card.call, Card.waiting, Dictionary.entries_insert books.fresh_absent, List.filter_append]
    simp [Card.waiting]
  have keys := books.call_keys target .inquiry
  refine { books with
    once := ?_, awaited := ?_, bounded := ?_, distinct := keys.1, issued := keys.2 }
  · rw [Ledger.waiting, waiting]
    exact books.once
  · rw [waiting]
    exact books.awaited
  · rw [waiting]
    exact books.bounded

/-- A call that gets its turn to run is made for the same packet. -/
theorem runs (books : Books id start journal card ledger []) (call : CallId) :
    Books id start journal { card with
      calls := card.calls.modify call fun call => { call with started := true } } ledger [] := by
  -- Running is marked on the call, and what it was made for stays.
  let run := fun entry : CallId × Call family =>
    if call == entry.1 then (entry.1, { entry.2 with started := true }) else entry
  have waiting : Card.waiting { card with
      calls := card.calls.modify call fun call => { call with started := true } } id =
        (card.waiting id).map run := by
    rw [Card.waiting, Dictionary.modify, List.filter_map, Card.waiting]
    refine congrArg (List.map run) (List.filter_congr fun entry _ => ?_)
    simp only [Function.comp_apply]
    split <;> rfl
  have packets : Ledger.waiting ledger { card with
      calls := card.calls.modify call fun call => { call with started := true } } id =
        ledger.waiting card id := by
    rw [Ledger.waiting, waiting, List.map_map]
    refine List.map_congr_left fun entry _ => ?_
    simp only [Function.comp_apply, run]
    split <;> rfl
  -- The same packets wait for the same calls, so the account does not change.
  refine { books with
    once := ?_, awaited := ?_, bounded := ?_, distinct := ?_, issued := ?_ }
  · rw [packets]
    exact books.once
  · intro other made here
    rw [waiting] at here
    obtain ⟨⟨_, before⟩, there, same⟩ := List.mem_map.mp here
    have awaited := books.awaited _ before there
    simp only [run] at same
    split at same
    · cases same
      exact awaited
    · cases same
      exact awaited
  · rw [waiting, List.length_map]
    exact books.bounded
  · rw [Dictionary.keys_modify]
    exact books.distinct
  · rw [Dictionary.keys_modify]
    exact books.issued

/-- A call that has ended leaves the packet at hand that waited for it. -/
theorem ends (books : Books id start journal card ledger [])
    (there : card.calls.get? call = some made) :
    Books id start journal { card with calls := card.calls.erase call } ledger
      (if made.interface == id && made.purpose != .inquiry then [ledger.packetOf call] else []) := by
  -- The call goes from those that wait, if a packet waited for it at all.
  have waiting : (card.waiting id).Perm
      ((if made.interface == id && made.purpose != .inquiry then [(call, made)] else []) ++
        Card.waiting { card with calls := card.calls.erase call } id) := by
    have split := (Dictionary.perm_erase books.distinct there).filter fun entry =>
      entry.2.interface == id && entry.2.purpose != .inquiry
    cases own : made.interface == id && made.purpose != .inquiry with
    | true => simpa [Card.waiting, List.filter_cons, own] using split
    | false => simpa [Card.waiting, List.filter_cons, own] using split
  refine { books with once := ?_, awaited := ?_, bounded := ?_, distinct := ?_, issued := ?_ }
  · -- The packet that waited is now at hand, and each is counted once as before.
    have packets := waiting.map fun waiting => ledger.packetOf waiting.1
    rw [List.map_append, apply_ite (List.map _)] at packets
    refine List.Perm.trans (List.perm_iff_count.mpr fun index => ?_) books.once
    have counts := packets.count_eq index
    simp only [Ledger.waiting, List.count_append, List.count_nil, List.map_cons,
      List.map_nil] at counts ⊢
    omega
  · intro other before here
    exact books.awaited other before (waiting.mem_iff.mpr (List.mem_append_right _ here))
  · refine Nat.le_trans ?_ books.bounded
    rw [waiting.length_eq, List.length_append]
    exact Nat.le_add_left ..
  · exact Dictionary.nodup_keys_erase books.distinct
  · intro other known
    exact books.issued other (Dictionary.mem_keys_erase.mp known).2

/-- A packet whose call has ended is queued, or dropped if its next hop was not found or the queue is full. -/
theorem finishes (books : Books id start journal card ledger []) {found : Option Mac}
    (there : card.calls.get? call = some made) (own : made.interface = id)
    (reached : ∀ station, found = some station → journal.Reaches start.adapter made.target station) :
    Balanced id start journal (card.finish call found) ledger.dropped ∨
      ∃ packet index, made.purpose = .send packet ∧
        journal.sends[index]? = some (packet, made.target) ∧
        (∀ station, found = some station → card.adapter.queueDepth ≤ card.adapter.queue.length) ∧
        Balanced id start journal (card.finish call found) (ledger.dropped ++ [index]) := by
  have ended := books.ends there
  rcases made with ⟨interface, target, purpose, started⟩
  obtain rfl := own
  rw [Card.finish, there]
  -- A call that inquires costs no packet, and one for a packet leaves it at hand.
  cases purpose with
  | inquiry => exact .inl ⟨ledger, by simpa using ended, rfl⟩
  | send packet =>
    simp only [beq_self_eq_true, Bool.true_and, bne_iff_ne, ne_eq, reduceCtorEq, not_false_iff,
      if_true] at ended
    have waits : (call, ⟨interface, target, .send packet, started⟩) ∈ card.waiting interface :=
      List.mem_filter.mpr ⟨Dictionary.mem_entries_of_get? there, by simp⟩
    obtain ⟨_, same, sent⟩ := books.awaited _ _ waits
    cases same
    cases found with
    -- Without an address the packet is dropped, and with one it is offered to the queue.
    | none =>
      refine .inr ⟨packet, _, rfl, sent, fun station same => ?_, _, ended.drops, rfl⟩
      cases same
    | some station =>
      -- Without the call the card has the same queue.
      rcases ended.carries sent (reached station rfl) with kept | ⟨full, lost⟩
      · exact .inl kept
      · exact .inr ⟨packet, _, rfl, sent, fun _ _ => full, lost⟩

end Calls

section Effects

/-- A resolver with the same address may take another state. -/
theorem withResolver (books : Books id start journal card ledger []) (resolver : Resolver family)
    (mac : resolver.mac = card.adapter.resolver.mac) :
    Books id start journal (card.withResolver resolver) ledger [] :=
  { books with mac := mac.trans books.mac }

/-- Effects that end no call keep the books. -/
theorem undergoes (books : Books id start journal card ledger [])
    {effects : List (ResolutionEffect family)}
    (unfinished : ∀ call found, .finish call found ∉ effects) :
    Balanced id start journal (effects.foldl Card.undergo card) ledger.dropped := by
  -- The induction is on the effects, with the books that the one before has left.
  induction effects generalizing card ledger with
  | nil => exact ⟨ledger, books, rfl⟩
  | cons effect effects ih =>
    have first : Balanced id start journal (card.undergo effect) ledger.dropped := by
      cases effect with
      | solicit target source =>
        have offered := books.offered (.question target source) rfl trivial
        rw [Entry.frame, ← books.mac] at offered
        exact offered
      | finish call found => exact absurd List.mem_cons_self (unfinished call found)
      | _ => exact ⟨ledger, books, rfl⟩
    obtain ⟨after, books, same⟩ := first
    rw [← same]
    exact ih books fun call found here => unfinished call found (List.mem_cons_of_mem _ here)

end Effects

section Journal

/-- What was sent at an index stays there as more is sent. -/
theorem sent_later {sends later : List (Bytes × Address family)} (longer : sends <+: later)
    {index : Nat} {sent : Bytes × Address family} (here : sends[index]? = some sent) :
    later[index]? = some sent := by
  obtain ⟨more, rfl⟩ := longer
  rw [List.getElem?_append_left (List.getElem?_eq_some_iff.mp here).1]
  exact here

/-- An entry is as genuine when more is on record. -/
theorem genuine_mono {adapter : Adapter family} {before after : Journal family}
    {entry : Entry family} (genuine : entry.Genuine adapter before)
    (sends : before.sends <+: after.sends) (heard : before.heard ⊆ after.heard)
    (accepted : before.accepted ⊆ after.accepted) : entry.Genuine adapter after := by
  -- What is on record stays there, so what an entry rests on can still be pointed to.
  cases entry with
  | packet index station bytes =>
    obtain ⟨nextHop, sent, reached⟩ := genuine
    refine ⟨nextHop, ?_, reached.imp_right fun known => accepted known⟩
    exact sent_later sends sent
  | question => trivial
  | reply frame =>
    obtain ⟨data, here, asks⟩ := genuine
    exact ⟨data, heard here, asks⟩

/-- The books are kept as more is heard and accepted. -/
theorem learns (books : Books id start journal card ledger loose) {heard : List Bytes}
    {accepted : List (Address family × Mac)} (more : journal.heard ⊆ heard)
    (more' : journal.accepted ⊆ accepted) :
    Books id start { journal with heard, accepted } card ledger loose :=
  { books with
    genuine := fun entry here =>
      genuine_mono (books.genuine entry here) (List.prefix_refl _) more more' }

/-- A packet that is sent is at hand. -/
theorem sends (books : Books id start journal card ledger []) (packet : Bytes)
    (nextHop : Address family) :
    Books id start { journal with sends := journal.sends ++ [(packet, nextHop)] } card ledger
      [journal.sends.length] := by
  have longer : journal.sends <+: journal.sends ++ [(packet, nextHop)] := List.prefix_append ..
  -- The packet that is sent is the last one on record and the only one at hand.
  refine { books with genuine := ?_, once := ?_, awaited := ?_ }
  · intro entry here
    exact genuine_mono (books.genuine entry here) longer (List.Subset.refl _) (List.Subset.refl _)
  · have once := books.once
    rw [List.append_nil] at once
    rw [List.length_append, List.length_singleton, List.range_succ]
    exact once.append_right _
  · intro call made here
    obtain ⟨packet, purpose, sent⟩ := books.awaited call made here
    exact ⟨packet, purpose, sent_later longer sent⟩

/-- A burst of frames leaves the queue. -/
theorem transmits (books : Books id start journal card ledger []) :
    Books id start { journal with
      transmitted := journal.transmitted ++ card.adapter.queue.take Network.transmitBurst }
      card.transmit ledger [] := by
  -- What was sent and what is still queued are together what was queued before.
  refine { books with frames := ?_, genuine := books.genuine, room := ?_ }
  · rw [← books.frames, List.append_assoc]
    exact congrArg _ (List.take_append_drop ..)
  · show (card.adapter.queue.drop _).length ≤ _
    rw [List.length_drop]
    exact Nat.le_trans (Nat.sub_le ..) books.room

end Journal

end Books

end NetworkLayer.Ethernet
