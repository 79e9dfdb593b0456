import NetworkLayer.Proofs.Ethernet.Ownership

/-!
Questions about the addresses of an Ethernet interface that is configured while it runs. Main statement: the
interface answers for none but its own unicast addresses, an answer ends the resolution that waits for it, and all
of its unicast addresses are answered for exactly if none of them may be configured with a second entry.
-/

namespace NetworkLayer

variable {family : Family}

namespace Interface

/-- An Ethernet interface with entries of a set, at any time after it was opened. -/
inductive Reached (allowed : InterfaceAddress family → Prop) : Interface family → Prop
  | opened (name : String) (settings : AdapterSettings) (port : PortId) (registry : RegistryId) :
      Reached allowed (.opened name settings port registry)
  | readdressed {interface : Interface family} (before : Reached allowed interface)
      (change : Readdressing family) (permitted : ∀ entry, change = .join entry → allowed entry) :
      Reached allowed (interface.readdressed change)
  /-- Whatever else it does and hears leaves both lists of addresses as they are. -/
  | worked {interface after : Interface family} (before : Reached allowed interface)
      (addresses : after.addresses = interface.addresses)
      (resolving : after.resolving? = interface.resolving?) : Reached allowed after

/-- An interface with entries of a set, each once, whose resolver knows no others. -/
structure Bounded (allowed : InterfaceAddress family → Prop) (interface : Interface family) : Prop
    extends Holds allowed interface where
  known : ∀ addresses, interface.resolving? = some addresses → addresses ⊆ interface.addresses

/-- The resolver of the interface knows its unicast addresses. -/
def KnowsOwn (interface : Interface family) : Prop :=
  ∀ addresses, interface.resolving? = some addresses →
    ∀ entry ∈ interface.addresses, entry.isUnicast = true → entry ∈ addresses

variable {interface : Interface family} {allowed : InterfaceAddress family → Prop}

namespace Bounded

variable (bounded : Bounded allowed interface)
include bounded

/-- A change keeps the resolver within the interface, which loses one entry where the resolver loses all. -/
theorem readdressed {change : Readdressing family}
    (permitted : ∀ entry, change = .join entry → allowed entry) :
    Bounded allowed (interface.readdressed change) := by
  refine ⟨bounded.toHolds.readdressed permitted, fun addresses resolving entry among => ?_⟩
  cases change with
  | join given =>
    rw [Interface.readdressed, addAddress_resolving?, Option.map_eq_some_iff] at resolving
    obtain ⟨before, had, rfl⟩ := resolving
    rw [InterfaceAddress.mem_joining] at among
    rw [Interface.readdressed, addAddress_joining, InterfaceAddress.mem_joining]
    -- The resolver may lack an entry that the interface has kept, so the two need not grow alike.
    exact among.imp_left (bounded.known before had ·)
  | leave address =>
    rw [Interface.readdressed, removeAddress_resolving?, Option.map_eq_some_iff] at resolving
    obtain ⟨before, had, rfl⟩ := resolving
    obtain ⟨known, apart⟩ := List.mem_filter.mp among
    rw [Interface.readdressed, removeAddress_addresses, List.mem_eraseP_of_neg (by simpa using apart)]
    exact bounded.known before had known

end Bounded

/-- A resolver knows no entry that its interface does not have, at any time. -/
theorem Reached.bounded (reached : Reached allowed interface) : Bounded allowed interface := by
  induction reached with
  | opened name settings port registry =>
    refine ⟨⟨List.nodup_nil, nofun⟩, fun addresses resolving => ?_⟩
    cases resolving
    exact List.nil_subset _
  | readdressed before change permitted ih => exact ih.readdressed permitted
  | worked before addresses resolving ih =>
    -- Both lists are what they were, and nothing else is said about the interface.
    refine ⟨⟨?_, ?_⟩, ?_⟩
    · rw [addresses]
      exact ih.distinct
    · rw [addresses]
      exact ih.allowed
    · rw [addresses, resolving]
      exact ih.known

namespace KnowsOwn

variable (knows : interface.KnowsOwn)
include knows

/-- An address that joins the interface joins the resolver, whose list it may well be missing from alone. -/
theorem join (entry : InterfaceAddress family) : (interface.addAddress entry).KnowsOwn := by
  intro addresses resolving other there own
  -- Both lists get the entry at their end, unless they have it.
  rw [addAddress_resolving?, Option.map_eq_some_iff] at resolving
  obtain ⟨before, had, rfl⟩ := resolving
  rw [addAddress_joining, InterfaceAddress.mem_joining] at there
  rw [InterfaceAddress.mem_joining]
  exact there.imp_left fun present => knows before had other present own

/-- A unicast address that is left to the interface is left to the resolver, if it has one entry only. -/
theorem leave (bounded : Bounded allowed interface)
    (single : ∀ one other, allowed one → allowed other → one.address = other.address →
      one.isUnicast = true → one = other) (address : Address family) :
    (interface.removeAddress address).KnowsOwn := by
  intro addresses resolving entry left own
  rw [removeAddress_resolving?, Option.map_eq_some_iff] at resolving
  obtain ⟨before, had, rfl⟩ := resolving
  rw [removeAddress_addresses] at left
  have there := List.mem_of_mem_eraseP left
  suffices apart : entry.address ≠ address from
    List.mem_filter.mpr ⟨knows before had entry there own, by simpa using apart⟩
  -- Were the entry for the address that goes, it would be the only one, and so the one that has gone.
  intro same
  obtain ⟨first, found⟩ : ∃ first, interface.addresses.find? (·.address == address) = some first := by
    refine Option.isSome_iff_exists.mp (List.find?_isSome.mpr ⟨entry, there, ?_⟩)
    exact beq_iff_eq.mpr same
  have alike : entry = first := by
    have selected := List.find?_some found
    refine single entry first (bounded.allowed _ there)
      (bounded.allowed _ (List.mem_of_find?_eq_some found)) (same.trans ?_) own
    exact (beq_iff_eq.mp selected).symm
  rw [InterfaceAddress.eraseP_eq_erase found, bounded.distinct.mem_erase_iff] at left
  exact left.1 alike

end KnowsOwn

/-- With one entry at most for every unicast address the resolver knows them all, at any time. -/
theorem Reached.knowsOwn (reached : Reached allowed interface)
    (single : ∀ one other, allowed one → allowed other → one.address = other.address →
      one.isUnicast = true → one = other) : interface.KnowsOwn := by
  -- The induction is on what has happened, and an interface starts with no address to know.
  induction reached with
  | opened => exact nofun
  | readdressed before change permitted ih =>
    cases change with
    | join entry => exact ih.join entry
    | leave address => exact ih.leave before.bounded single address
  -- Work leaves both lists as they are.
  | worked before addresses resolving ih =>
    intro known had
    rw [addresses]
    exact ih known (resolving ▸ had)

/-- A resolver that knows the unicast addresses of the interface, and no others, answers for them. -/
theorem answersOwn_of_knowsOwn (bounded : Bounded allowed interface) (knows : interface.KnowsOwn) :
    interface.AnswersOwn := by
  intro adapter there asker target source apart specified
  have resolving : interface.resolving? = some adapter.resolver.addresses := by
    rw [resolving?, there, Option.map_some]
  rw [adapter.isSome_reply?_solicitation apart specified]
  -- What the resolver has is the interface's, and with unicast addresses the other way round.
  constructor
  · rintro ⟨entry, known, own, same⟩
    exact ⟨entry, bounded.known _ resolving known, own, same⟩
  · rintro ⟨entry, listed, own, same⟩
    exact ⟨entry, knows _ resolving entry listed own, own, same⟩

section Twice

variable {one other : InterfaceAddress family} (differ : one ≠ other)
  (same : one.address = other.address) (name : String) (settings : AdapterSettings) (port : PortId)
  (registry : RegistryId)

/-- The interface that was given two entries for an address and lost the address once. -/
def halved (one other : InterfaceAddress family) (name : String) (settings : AdapterSettings)
    (port : PortId) (registry : RegistryId) : Interface family :=
  [Readdressing.join one, .join other, .leave one.address].foldl readdressed
    (.opened name settings port registry)

include differ in
/-- The interface loses the first of the two entries. -/
theorem halved_addresses : (halved one other name settings port registry).addresses = [other] := by
  show ((((opened name settings port registry).addAddress one).addAddress other).removeAddress
    one.address).addresses = _
  rw [removeAddress_addresses, opened_join_join differ]
  exact List.eraseP_cons_of_pos (beq_self_eq_true _)

include same in
/-- The resolver loses both entries; the link-layer address stays. -/
theorem halved_adapter? : ∃ adapter,
    (halved one other name settings port registry).adapter? = some adapter ∧
      adapter.mac = settings.mac ∧ adapter.resolver.addresses = [] := by
  -- No change of addresses touches the link-layer address.
  have mac : (halved one other name settings port registry).adapter?.map Adapter.mac =
      some settings.mac := by
    simp only [halved, List.foldl_cons, List.foldl_nil, readdressed_mac]
    rfl
  have lost : (halved one other name settings port registry).resolving? = some [] := by
    show ((((opened name settings port registry).addAddress one).addAddress other).removeAddress
      one.address).resolving? = _
    rw [removeAddress_resolving?, addAddress_resolving?, addAddress_resolving?]
    refine congrArg some (List.filter_eq_nil_iff.mpr fun entry there => ?_)
    rw [InterfaceAddress.mem_joining, InterfaceAddress.mem_joining] at there
    -- Both entries were for the removed address, so neither is left.
    rcases there with (none | rfl) | rfl
    · cases none
    · simp
    · simp [same]
  obtain ⟨adapter, there, none⟩ := Option.map_eq_some_iff.mp lost
  rw [there, Option.map_some, Option.some_inj] at mac
  exact ⟨adapter, there, mac, none⟩

include same in
/-- A question about the address is not answered, although the interface may still have it. -/
theorem halved_silent : ∃ adapter,
    (halved one other name settings port registry).adapter? = some adapter ∧
      adapter.mac = settings.mac ∧
      ∀ asker source, asker ≠ settings.mac → (family = .v6 → source ≠ .unspecified) →
        adapter.reply? (ResolutionTraffic.solicitation asker other.address source) = none := by
  obtain ⟨adapter, there, mac, none⟩ := halved_adapter? same name settings port registry
  refine ⟨adapter, there, mac, fun asker source apart specified => ?_⟩
  rw [adapter.reply?_solicitation (mac ▸ apart) specified, Resolver.owns, none, List.any_nil,
    if_neg (by decide)]

include differ same in
/-- A unicast address that is left with a second entry is not answered for. -/
theorem halved_not_answersOwn (own : other.isUnicast = true) :
    ¬ (halved one other name settings port registry).AnswersOwn := by
  intro answers
  obtain ⟨adapter, there, mac, silent⟩ := halved_silent same name settings port registry
  -- Any other station may ask, from any address.
  obtain ⟨asker, apart⟩ : ∃ asker : Mac, asker ≠ settings.mac := by
    by_cases zero : settings.mac = .ofNat 0
    · exact ⟨.ofNat 1, by rw [zero]; decide⟩
    · exact ⟨.ofNat 0, fun same => zero same.symm⟩
  have specified : family = .v6 → (.ofNat 1 : Address family) ≠ .unspecified := by
    rintro rfl
    decide
  have listed : other ∈ (halved one other name settings port registry).addresses := by
    rw [halved_addresses differ]
    exact List.mem_singleton.mpr rfl
  have owned := (answers adapter there asker other.address (.ofNat 1) (mac ▸ apart) specified).mpr
    ⟨other, listed, own, rfl⟩
  rw [silent asker (.ofNat 1) apart specified] at owned
  cases owned

end Twice

/-- An interface may be given two entries of the set, and lose their address. -/
theorem Reached.halved {one other : InterfaceAddress family} (permitted : allowed one)
    (likewise : allowed other) (name : String) (settings : AdapterSettings) (port : PortId)
    (registry : RegistryId) : Reached allowed (halved one other name settings port registry) := by
  -- The two entries join in turn, and then their address leaves.
  refine ((Reached.opened name settings port registry).readdressed (.join one) ?_
    |>.readdressed (.join other) ?_).readdressed (.leave one.address) nofun
  · rintro entry ⟨⟩
    exact permitted
  · rintro entry ⟨⟩
    exact likewise

/--
A question about a link-layer address and its answer fit together, for ARP and for Neighbor Discovery.

Another station answers the question for a target only if the target is a unicast address of its interface, and
exactly if its resolver has it as one.
Its answer ends whatever resolution waits for it, with the address of the station and no other.
A question without an answer leaves everything as it is, the one who asks included.

All unicast addresses of the interface are answered for, over every course of changes, if and only if none of them
may be given a second entry: a removal takes one entry from the interface and all from the resolver.
-/
theorem question_answered_by_owner (allowed : InterfaceAddress family → Prop) :
    (∀ interface, Reached allowed interface → ∀ bearer, interface.adapter? = some bearer →
      ∀ asker : Adapter family, asker.mac ≠ bearer.mac →
      ∀ target source : Address family, (family = .v6 → source ≠ .unspecified) →
      let question := ResolutionTraffic.solicitation asker.mac target source
      ((bearer.reply? question).isSome ↔
        ∃ entry ∈ bearer.resolver.addresses, entry.isUnicast = true ∧ entry.address = target) ∧
      (∀ reply, bearer.reply? question = some reply →
        (∃ entry ∈ interface.addresses, entry.isUnicast = true ∧ entry.address = target) ∧
        asker.Completes reply target bearer.mac) ∧
      (bearer.reply? question = none → ∀ (network : Network) (id : InterfaceId),
        (network.interface family id).medium = .ethernet bearer →
        network.hear family id question = network)) ∧
    ((∀ interface, Reached allowed interface → interface.AnswersOwn) ↔
      ∀ one other, allowed one → allowed other → one.address = other.address →
        one.isUnicast = true → one = other) := by
  refine ⟨fun interface reached bearer there asker apart target source specified => ?_, ?_, ?_⟩
  · intro question
    -- Whether there is a reply is a matter of what the resolver has.
    have answered := @Adapter.isSome_reply?_solicitation _ bearer _ apart target source specified
    refine ⟨answered, fun reply replied => ⟨?_, ?_⟩, fun silent network id medium => ?_⟩
    · -- What the resolver has, the interface has as well.
      obtain ⟨entry, known, own⟩ := answered.mp (Option.isSome_iff_exists.mpr ⟨reply, replied⟩)
      have resolving : interface.resolving? = some bearer.resolver.addresses := by
        rw [resolving?, there, Option.map_some]
      exact ⟨entry, reached.bounded.known _ resolving known, own⟩
    · -- The reply is the claim of the address, and it completes at the one who asked.
      rw [bearer.reply?_solicitation apart specified] at replied
      split at replied
      · obtain rfl := Option.some.inj replied
        exact asker.claim_completes apart.symm target source
      · cases replied
    · exact network.hear_ignored medium (ResolutionTraffic.solicitation_short ..)
        (bearer.hear_solicitation_of_silent apart specified silent)
  · intro always one other permitted likewise same own
    refine Classical.byContradiction fun differ => ?_
    -- The entry that is given first goes, so the unicast one comes second.
    exact halved_not_answersOwn (Ne.symm differ) same.symm "" ⟨.ofNat 0, .standard family, 256, 64⟩ 0
      0 own (always _ (.halved likewise permitted _ _ _ _))
  · -- Where addresses are single the resolver has all of them, and the interface answers for its own.
    intro single interface reached
    exact answersOwn_of_knowsOwn reached.bounded (reached.knowsOwn single)

end Interface

namespace Network

/-- An address on a link, `2001:db8::` and a number. -/
def onLinkAddress (number : Nat) : Address .v6 := .ofNat (0x20010DB8 <<< 96 + number)

/-- The turn of a call that has asked once for the second address. -/
def waitingTurn : ResolutionTurn .v6 := ⟨⟨7, onLinkAddress 2, onLinkAddress 1⟩, 1, 3000, none⟩

/-- An adapter that waits for an answer. -/
def waitingAdapter : Adapter .v6 :=
  let adapter := Adapter.create ⟨.localUnicast 1, .standard .v6, 256, 64⟩ 0 0
  { adapter with resolver := { adapter.resolver with turn := some waitingTurn } }

/-- How a second station is set up. -/
def secondSettings : AdapterSettings := ⟨.localUnicast 2, .standard .v6, 256, 64⟩

/-- The interface of the second station, which has the second address. -/
def secondStation : Interface .v6 :=
  (Interface.opened "second" secondSettings 1 0).readdressed (.join (.unicast (onLinkAddress 2) 64))

/-- Two interfaces, of which the first waits for an answer of the second. -/
def neighbors : Network :=
  let interfaces := Dictionary.empty.insert 0 (.onPort "first" waitingAdapter)
  { v6 := { interfaces := interfaces.insert 1 secondStation } }

/-- The unicast addresses on links of the length 64. -/
def onLink64 (entry : InterfaceAddress .v6) : Prop := ∃ address, entry = .unicast address 64

/-- A neighbor answers a question for its address and no other, and the call that waits is told. -/
theorem neighbor_question_answered :
    ∃ bearer, (neighbors.interface .v6 1).adapter? = some bearer ∧
      waitingAdapter.mac ≠ bearer.mac ∧ onLinkAddress 1 ≠ .unspecified ∧
      (neighbors.interface .v6 1).AnswersOwn ∧
      (∃ reply, bearer.reply? (ResolutionTraffic.solicitation waitingAdapter.mac (onLinkAddress 2)
          (onLinkAddress 1)) = some reply ∧
        ((neighbors.hear .v6 0 reply).interface .v6 0).medium = .ethernet { waitingAdapter with
          resolver := waitingAdapter.resolver.told 0 waitingTurn (.localUnicast 2) } ∧
        .call .v6 7 ∈ (neighbors.hear .v6 0 reply).ready) ∧
      neighbors.hear .v6 1 (ResolutionTraffic.solicitation waitingAdapter.mac
        (onLinkAddress 3) (onLinkAddress 1)) = neighbors := by
  -- One address of a prefix is given to the second interface, which is then reached.
  have reached : Interface.Reached onLink64 (neighbors.interface .v6 1) := by
    refine (Interface.Reached.opened "second" secondSettings 1 0).readdressed
      (.join (.unicast (onLinkAddress 2) 64)) ?_
    rintro entry ⟨⟩
    exact ⟨_, rfl⟩
  have single : ∀ one other, onLink64 one → onLink64 other → one.address = other.address →
      one.isUnicast = true → one = other := by
    rintro one other ⟨address, rfl⟩ ⟨range, rfl⟩ same -
    rw [show address = range from same]
  obtain ⟨bearer, there⟩ : ∃ bearer, (neighbors.interface .v6 1).adapter? = some bearer := ⟨_, rfl⟩
  have mac : bearer.mac = .localUnicast 2 := by
    cases there
    rfl
  have apart : waitingAdapter.mac ≠ bearer.mac := by
    rw [mac]
    decide
  have specified : onLinkAddress 1 ≠ .unspecified := by decide
  -- The second interface has its own address and no other.
  have listed : ∀ target, (∃ entry ∈ (neighbors.interface .v6 1).addresses,
      entry.isUnicast = true ∧ entry.address = target) ↔ target = onLinkAddress 2 := by
    intro target
    constructor
    · rintro ⟨entry, there, -, rfl⟩
      rw [List.mem_singleton.mp there]
      rfl
    · rintro rfl
      exact ⟨_, List.mem_singleton.mpr rfl, rfl, rfl⟩
  -- Single addresses make the answer exact, and the answer that comes wakes the call that waits.
  obtain ⟨fits, exact⟩ := Interface.question_answered_by_owner onLink64
  have own := exact.mpr single _ reached
  have answered := fun target => own bearer there _ target (onLinkAddress 1) apart fun _ => specified
  obtain ⟨reply, replied⟩ :=
    Option.isSome_iff_exists.mp ((answered (onLinkAddress 2)).mpr ((listed _).mpr rfl))
  have completes := ((fits _ reached bearer there waitingAdapter apart (onLinkAddress 2)
    (onLinkAddress 1) fun _ => specified).2.1 reply replied).2
  obtain ⟨after, woken⟩ := completes.told neighbors 0 waitingTurn rfl rfl rfl (by decide)
  rw [mac] at after
  refine ⟨bearer, there, apart, specified, own, ⟨reply, replied, after, woken⟩, ?_⟩
  -- A question about another address is met with silence, which changes nothing.
  have silent : bearer.reply? (ResolutionTraffic.solicitation waitingAdapter.mac (onLinkAddress 3)
      (onLinkAddress 1)) = none := by
    refine Option.not_isSome_iff_eq_none.mp fun some => ?_
    have same := (listed _).mp ((answered (onLinkAddress 3)).mp some)
    revert same
    decide
  refine (fits _ reached bearer there waitingAdapter apart (onLinkAddress 3) (onLinkAddress 1)
    fun _ => specified).2.2 silent neighbors 1 ?_
  cases there
  rfl

/-- A station that was given one address with two prefix lengths and lost one of the two. -/
def shortened : Interface .v6 :=
  .halved (.unicast (onLinkAddress 2) 64) (.unicast (onLinkAddress 2) 48) "second" secondSettings 1 0

/-- The station still has the address, on a shorter prefix, but it answers no question about it. -/
theorem shortened_not_answered :
    Interface.Reached (fun _ => True) shortened ∧
      shortened.addresses = [.unicast (onLinkAddress 2) 48] ∧
      ∃ bearer, shortened.adapter? = some bearer ∧ ∀ asker, asker ≠ .localUnicast 2 →
        bearer.reply? (ResolutionTraffic.solicitation asker (onLinkAddress 2) (onLinkAddress 1)) =
          none := by
  -- The two entries differ in their lengths and share the address.
  have differ : InterfaceAddress.unicast (onLinkAddress 2) 64 ≠ .unicast (onLinkAddress 2) 48 := by
    intro same
    cases congrArg InterfaceAddress.length same
  have specified : onLinkAddress 1 ≠ .unspecified := by decide
  obtain ⟨bearer, there, -, silent⟩ := Interface.halved_silent
    (show (InterfaceAddress.unicast (onLinkAddress 2) 64).address =
      (InterfaceAddress.unicast (onLinkAddress 2) 48).address from rfl) "second" secondSettings 1 0
  exact ⟨.halved trivial trivial .., Interface.halved_addresses differ .., bearer, there,
    fun asker apart => silent asker (onLinkAddress 1) apart fun _ => specified⟩

end Network

end NetworkLayer
