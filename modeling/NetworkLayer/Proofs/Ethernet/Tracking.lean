import NetworkLayer.Proofs.Ethernet.Ledger
import NetworkLayer.Proofs.Resolution.Answers
import NetworkLayer.Proofs.Resolution.Turns

/-!
The resolver of a card goes through a session of its own, in which the calls of the interface are made
and looked at. What a call ends with there is where its target is reached, and so whatever happens to
the card keeps the packets accounted for.
-/

namespace NetworkLayer.Ethernet

open Resolver (Coherent Remembers History Event)

variable {family : Family}

/-- The calls of an interface are where a history has them. -/
def Follows (id : InterfaceId) (calls : Dictionary CallId (Call family))
    (history : History family) : Prop :=
  ∀ call made, calls.get? call = some made → made.interface = id →
    if made.started then ∃ time, (time, .called call made.target) ∈ history
    else history.about call = []

/-- The resolver of a card is the one of a session, in which no other calls were made. -/
structure Tracks (id : InterfaceId) (settings : ResolverSettings) (start : Card family)
    (journal : Journal family) (card : Card family) (session : Resolver.Session family) : Prop where
  resolver : card.adapter.resolver = session.resolver
  now : card.now = session.now
  addresses : session.resolver.addresses = start.adapter.resolver.addresses
  coherent : Coherent .late settings session
  remembers : Remembers settings session
  accepted : ∀ time address station, (time, .answered address station) ∈ session.history →
    (address, station) ∈ journal.accepted
  known : ∀ entry ∈ session.history, ∀ call, entry.2.call? = some call → call < card.fresh
  follows : Follows id card.calls session.history

section Follows

variable {id : InterfaceId} {before after : Dictionary CallId (Call family)}
  {session : Resolver.Session family} {operation : Resolver.Operation family}

/-- Calls that are left are where they were. -/
theorem Follows.of_left {history : History family} (follows : Follows id before history)
    (left : ∀ call made, after.get? call = some made → before.get? call = some made) :
    Follows id after history :=
  fun call made there own => follows call made (left call made there) own

/-- What is done to one call leaves the others where they are. -/
theorem Follows.step (follows : Follows id before session.history) {call : CallId}
    (own : ∀ event ∈ (session.act operation).2, event.call? = some call)
    (others : ∀ other made, other ≠ call → after.get? other = some made →
      before.get? other = some made)
    (here : ∀ made, after.get? call = some made → made.started = true ∧
      ∃ time, (time, .called call made.target) ∈ (session.step operation).history) :
    Follows id after (session.step operation).history := by
  intro other made there mine
  by_cases same : other = call
  · subst same
    rw [if_pos (here made there).1]
    exact (here made there).2
  · have before := follows other made (others other made same there) mine
    split
    · rename_i started
      rw [if_pos started] at before
      obtain ⟨time, called⟩ := before
      exact ⟨time, Resolver.Session.history_step called⟩
    · rename_i waits
      rw [if_neg waits] at before
      -- The new events are about the one call.
      have foreign : ∀ event ∈ (session.act operation).2, event.call? ≠ some other := by
        intro event inside about
        exact same (Option.some_inj.mp (about.symm.trans (own event inside)))
      exact (History.about_append_of_foreign (Coherent.of_stamped foreign _) _).trans before

/-- Events that are about no call leave all of them where they are. -/
theorem Follows.still (follows : Follows id before session.history)
    (foreign : ∀ event ∈ (session.act operation).2, event.call? = none) :
    Follows id before (session.step operation).history := by
  intro call made there mine
  have before := follows call made there mine
  split
  · -- A call that runs stays on record.
    rename_i started
    rw [if_pos started] at before
    obtain ⟨time, called⟩ := before
    exact ⟨time, Resolver.Session.history_step called⟩
  · -- No event is about a call that waits, so its record is as empty as before.
    rename_i waits
    rw [if_neg waits] at before
    have others : ∀ event ∈ (session.act operation).2, event.call? ≠ some call := by
      intro event inside about
      exact nomatch about.symm.trans (foreign event inside)
    exact (History.about_append_of_foreign (Coherent.of_stamped others _) _).trans before

end Follows

namespace Tracks

variable {id : InterfaceId} {settings : ResolverSettings} {start card after : Card family}
  {journal later : Journal family} {session : Resolver.Session family}
  {operation : Resolver.Operation family}

/-- A target is reached where the latest answer about it says, or at its fixed address. -/
theorem reaches (tracks : Tracks id settings start journal card session)
    {target : Address family} {station : Mac}
    (genuine : session.resolver.wellKnown? target = some station ∨
      ∃ time, session.history.latest? target = some (time, station)) :
    journal.Reaches start.adapter target station := by
  rcases genuine with known | ⟨time, latest⟩
  · left
    rwa [← Resolver.wellKnown?_congr tracks.addresses]
  · right
    exact tracks.accepted time target station (History.mem_of_latest? latest)

/-- A look-up tells where its target is reached. -/
theorem lookup_reaches (tracks : Tracks id settings start journal card session)
    {target : Address family} {station : Mac}
    (found : (session.resolver.lookup session.now target).1 = some station) :
    journal.Reaches start.adapter target station := by
  refine tracks.reaches ?_
  rcases Resolver.lookup_genuine tracks.remembers found with known | ⟨time, _, latest, _⟩
  · exact Or.inl known
  · exact Or.inr ⟨time, latest⟩

/-- A call ends with a station that its target is reached at. -/
theorem ended_reaches (tracks : Tracks id settings start journal card session) {call : CallId}
    {target : Address family} {station : Mac} {time : Nat}
    (called : (time, .called call target) ∈ (session.step operation).history)
    (ended : .ended call (some station) ∈ (session.act operation).2) :
    journal.Reaches start.adapter target station := by
  obtain ⟨other, ⟨time, called'⟩, genuine⟩ :=
    Resolver.ended_genuine tracks.coherent tracks.remembers ended
  -- A call has one target.
  obtain rfl := (tracks.coherent.step operation nofun).target_unique called called'
  refine tracks.reaches ?_
  rcases genuine with known | ⟨time, _, latest, _⟩ | ⟨time, latest, _⟩
  · exact Or.inl known
  · exact Or.inr ⟨time, latest⟩
  · exact Or.inr ⟨time, latest⟩

/-- A card keeps track of a step of the session if it goes along. -/
theorem step (tracks : Tracks id settings start journal card session)
    (resolver : after.adapter.resolver = (session.act operation).1)
    (now : after.now = session.now + Resolver.Session.span operation)
    (addresses : (session.act operation).1.addresses = session.resolver.addresses)
    (fresh : card.fresh ≤ after.fresh) (more : journal.accepted ⊆ later.accepted)
    (accepted : ∀ address station, .answered address station ∈ (session.act operation).2 →
      (address, station) ∈ later.accepted)
    (known : ∀ event ∈ (session.act operation).2, ∀ call, event.call? = some call →
      call < after.fresh)
    (follows : Follows id after.calls (session.step operation).history) :
    Tracks id settings start later after (session.step operation) := by
  refine ⟨resolver, now, addresses.trans tracks.addresses, tracks.coherent.step operation nofun,
    tracks.remembers.step tracks.coherent operation, ?_, ?_, follows⟩
  · -- What was accepted is on record, be it of this step or of an earlier one.
    intro time address station here
    rcases List.mem_append.mp here with new | old
    · obtain ⟨event, inside, same⟩ := List.mem_map.mp (List.mem_reverse.mp new)
      cases same
      exact accepted address station inside
    · exact more (tracks.accepted time address station old)
  · -- A call that an event is about has been given out, in this step or before.
    intro entry here call about
    rcases List.mem_append.mp here with new | old
    · exact Coherent.of_stamped (fun event inside => known event inside) _ entry new call about
    · exact Nat.lt_of_lt_of_le (tracks.known entry old call about) fresh

/-- The resolver is left alone by what leaves it alone on the card. -/
theorem of_rest (tracks : Tracks id settings start journal card session)
    (rest : Card.Rest card after) : Tracks id settings start journal after session :=
  -- All that the session follows is in the resolver, the time and the calls.
  { tracks with
    resolver := rest.resolver.trans tracks.resolver
    now := rest.now.trans tracks.now
    known := by
      rw [rest.fresh]
      exact tracks.known
    follows := tracks.follows.of_left rest.calls }

/-- More answers on record are none of the resolver's business. -/
theorem learns (tracks : Tracks id settings start journal card session)
    (more : journal.accepted ⊆ later.accepted) : Tracks id settings start later card session :=
  { tracks with
    accepted := fun time address station here => more (tracks.accepted time address station here) }

/-- A call that is made is not known to the resolver before it gets its turn to run. -/
theorem calls (tracks : Tracks id settings start journal card session) (target : Address family)
    (purpose : CallPurpose) :
    Tracks id settings start journal (card.call id target purpose) session := by
  refine { tracks with known := ?_, follows := ?_ }
  · intro entry here call about
    exact Nat.lt_succ_of_lt (tracks.known entry here call about)
  · intro call made there own
    rw [Card.call, Dictionary.get?_insert] at there
    split at there
    · rename_i new
      cases there
      obtain rfl := eq_of_beq new
      -- Nothing on record is about a call that is given out only now.
      show session.history.about card.fresh = []
      rw [History.about, List.filter_eq_nil_iff]
      intro entry here about
      exact Nat.lt_irrefl _ (tracks.known entry here card.fresh (eq_of_beq about))
    · exact tracks.follows call made there own

/-- A next hop that is looked up ages the cache and no more. -/
theorem looksUp (tracks : Tracks id settings start journal card session)
    (target : Address family) :
    Tracks id settings start journal
      (card.withResolver (card.adapter.resolver.lookup card.now target).2.1)
      (session.step (.lookup target)) := by
  refine tracks.step ?_ tracks.now (Resolver.lookup_addresses ..) (Nat.le_refl _)
    (List.Subset.refl _) nofun nofun (tracks.follows.still nofun)
  rw [tracks.resolver, tracks.now]
  rfl

/-- An answer that is accepted is on record. -/
theorem hearsAnswer (tracks : Tracks id settings start journal card session)
    (address : Address family) (station : Mac) (more : journal.accepted ⊆ later.accepted)
    (noted : (card.adapter.resolver.accept card.now address station).1 = true →
      (address, station) ∈ later.accepted) :
    Tracks id settings start later
      (card.withResolver (card.adapter.resolver.accept card.now address station).2.1)
      (session.step (.reply address station)) := by
  -- An answer changes what the resolver remembers and none of its addresses.
  have addresses : (session.act (.reply address station)).1.addresses =
      session.resolver.addresses := Resolver.Session.act_addresses rfl
  rw [tracks.resolver, tracks.now] at noted ⊢
  -- Only an accepted answer makes an event, which is about no call.
  have events : ∀ event ∈ (session.act (.reply address station)).2,
      event = .answered address station ∧
        (session.resolver.accept session.now address station).1 = true := by
    intro event here
    rw [Resolver.Session.act] at here
    rcases session.resolver.accept_cases session.now address station with
      ⟨turn, _, _, accepted⟩ | ⟨_, ignored⟩
    · rw [accepted] at here ⊢
      exact ⟨List.mem_singleton.mp here, rfl⟩
    · rw [ignored] at here
      cases here
  have foreign : ∀ event ∈ (session.act (.reply address station)).2, event.call? = none := by
    intro event here
    rw [(events event here).1]
    rfl
  refine tracks.step rfl tracks.now addresses (Nat.le_refl _) more ?_ ?_ (tracks.follows.still foreign)
  · intro other told here
    obtain ⟨same, accepted⟩ := events _ here
    cases same
    exact noted accepted
  · intro event here call about
    cases about.symm.trans (foreign event here)

/-- As time passes, it passes for the resolver. -/
theorem advances (tracks : Tracks id settings start journal card session) (span : Nat) :
    Tracks id settings start journal { card with now := card.now + span }
      (session.step (.advance span)) :=
  tracks.step tracks.resolver (congrArg (· + span) tracks.now) rfl (Nat.le_refl _)
    (List.Subset.refl _) nofun nofun (tracks.follows.still nofun)

end Tracks

/-- A card on which the calls are where its resolver has them, and the packets are accounted for. -/
def Sound (id : InterfaceId) (settings : ResolverSettings) (start : Card family)
    (journal : Journal family) (card : Card family) (dropped : List Nat) : Prop :=
  ∃ session, Tracks id settings start journal card session ∧ Balanced id start journal card dropped

namespace Sound

variable {id : InterfaceId} {settings : ResolverSettings} {start card : Card family}
  {journal : Journal family} {dropped : List Nat}

/-- A packet that is sent is queued, waits, or is dropped for want of room here or there. -/
theorem send (sound : Sound id settings start journal card dropped) (packet : Bytes)
    (nextHop : Address family) :
    LosesAtMostOne id card journal.sends (.send packet nextHop) dropped
      (Sound id settings start { journal with sends := journal.sends ++ [(packet, nextHop)] }
        (card.send id packet nextHop)) := by
  obtain ⟨session, tracks, ledger, books, rfl⟩ := sound
  let looked := card.withResolver (card.adapter.resolver.lookup card.now nextHop).2.1
  have tracks' := tracks.looksUp nextHop
  have mac := (card.adapter.resolver.lookup_keeps card.now nextHop).mac
  have books' := (books.withResolver _ mac).sends packet nextHop
  have sent : (journal.sends ++ [(packet, nextHop)])[journal.sends.length]? =
      some (packet, nextHop) := List.getElem?_concat_length
  rw [Card.send]
  -- The packet goes out at once if the next hop is known, and otherwise it waits or is crowded out.
  cases found : (card.adapter.resolver.lookup card.now nextHop).1 with
  | some station =>
    -- What is known at once is a fixed address or an accepted answer.
    have known := found
    rw [tracks.resolver, tracks.now] at known
    have reached := tracks.lookup_reaches known
    have tracks'' : Tracks id settings start
        { journal with sends := journal.sends ++ [(packet, nextHop)] } (looked.carry station packet) _ :=
      (tracks'.of_rest (looked.carry_rest station packet)).learns (List.Subset.refl _)
    refine (Finds.sent found).losesAtMostOne ?_
    rcases books'.carries sent reached with kept | ⟨full, lost⟩
    · exact .inl ⟨_, tracks'', kept⟩
    · exact .inr ⟨fun _ _ => full, _, tracks'', lost⟩
  | none =>
    simp only
    split
    · rename_i room
      exact .inl ⟨_, (tracks'.calls nextHop _).learns (List.Subset.refl _),
        books'.waits sent (books'.limit ▸ room)⟩
    · rename_i crowd
      exact .inr ⟨_, _, .crowded found (Nat.le_of_not_lt crowd), _,
        (tracks'.of_rest looked.drop_rest).learns (List.Subset.refl _), _, books'.drops, rfl⟩

/-- An inquiry is one more call, and no packet waits for it. -/
theorem inquire (sound : Sound id settings start journal card dropped) (target : Address family) :
    Sound id settings start journal (card.call id target .inquiry) dropped := by
  obtain ⟨session, tracks, ledger, books, same⟩ := sound
  exact ⟨session, tracks.calls target _, ledger, books.inquires target, same⟩

/-- What the resolver does about a call that is on record keeps a card sound, and costs the packet at most that waits
for the call. -/
theorem works {session : Resolver.Session family} {ledger : Ledger family}
    (tracks : Tracks id settings start journal card session) {call : CallId} {made : Call family}
    (there : card.calls.get? call = some made) (own : made.interface = id)
    {calls : Dictionary CallId (Call family)}
    (books : Books id start journal { card with calls } ledger [])
    (runs : calls.get? call = some { made with started := true })
    (others : ∀ other made, other ≠ call → calls.get? other = some made →
      card.calls.get? other = some made)
    (operation : Resolver.Operation family) (about : operation.call? = some call)
    (called : ∃ time, (time, .called call made.target) ∈ (session.step operation).history)
    {step : Resolver family → Resolver family × List (ResolutionEffect family)}
    (acts : (step card.adapter.resolver).1 = (session.act operation).1)
    (finishes : ∀ other mac, .finish other mac ∈ (step card.adapter.resolver).2 →
      other = call ∧ .ended call mac ∈ (session.act operation).2)
    (closing : Resolver.Closing call (card.adapter.resolver.Ending card.now call made.target)
      (step card.adapter.resolver).2) :
    LosesAtMostOne id card journal.sends (.look call) ledger.dropped
      (Sound id settings start journal (Card.stepResolver { card with calls } step)) := by
  -- A step that is about one call makes events about that call alone.
  have keeps : Resolver.Keeps session.now session.resolver (session.act operation).1 :=
    Resolver.Session.act_keeps about
  have events := (session.outcome tracks.coherent.lined operation).own about
  have issued : call < card.fresh := books.issued call (Dictionary.mem_keys_of_get? runs)
  -- The session takes the step that the resolver takes, and then its effects are carried out.
  have stepped : Tracks id settings start journal
      (Card.withResolver { card with calls } (step card.adapter.resolver).1)
      (session.step operation) := by
    refine tracks.step acts ?_ keeps.addresses (Nat.le_refl _) (List.Subset.refl _) ?_ ?_ ?_
    · cases operation <;> first | exact tracks.now | cases about
    · intro address station here
      exact nomatch events _ here
    · intro event here other same
      cases same.symm.trans (events event here)
      exact issued
    · refine tracks.follows.step events others ?_
      intro again there'
      cases runs.symm.trans there'
      exact ⟨rfl, called⟩
  have resolved := books.withResolver (step card.adapter.resolver).1 (by
    rw [acts, keeps.mac, tracks.resolver])
  have tracked := stepped.of_rest (Card.foldl_undergo_rest _ (step card.adapter.resolver).2)
  rw [Card.stepResolver]
  generalize (step card.adapter.resolver).2 = effects at closing finishes tracked ⊢
  -- The step ends the call that is looked at, or it ends none.
  cases closing with
  | goesOn unfinished => exact .inl ⟨_, tracked, resolved.undergoes unfinished⟩
  | @ends quiet found calm ending =>
    have reached : ∀ station, found = some station →
        journal.Reaches start.adapter made.target station := by
      rintro station rfl
      obtain ⟨time, called⟩ := called
      have last : ResolutionEffect.finish call (some station) ∈
          quiet ++ [ResolutionEffect.finish call (some station)] :=
        List.mem_append_right _ List.mem_cons_self
      exact tracks.ended_reaches called (finishes call _ last).2
    -- Up to its last effect, the step leaves the queue and the calls as they are.
    have only : (quiet ++ [ResolutionEffect.finish call found]).foldl Card.undergo
        (Card.withResolver { card with calls } (step card.adapter.resolver).1) =
          (Card.withResolver { card with calls } (step card.adapter.resolver).1).finish call found := by
      rw [List.foldl_append, Card.foldl_undergo_quiet _ calm]
      rfl
    rw [only] at tracked ⊢
    rcases resolved.finishes runs own reached with kept | ⟨packet, index, purpose, sent, full, lost⟩
    · exact .inl ⟨_, tracked, kept⟩
    · exact (Finds.ended there own purpose sent ending).losesAtMostOne
        (.inr ⟨full, _, tracked, lost⟩)

/-- A call of the interface that is looked at keeps a card sound, and costs the packet at most that waits for it. -/
theorem look (sound : Sound id settings start journal card dropped) {call : CallId}
    {made : Call family} (there : card.calls.get? call = some made) (own : made.interface = id) :
    LosesAtMostOne id card journal.sends (.look call) dropped
      (Sound id settings start journal (card.look call made)) := by
  obtain ⟨session, tracks, ledger, books, rfl⟩ := sound
  have follows := tracks.follows call made there own
  -- A call that runs is looked at again, and one that waits begins.
  rw [Card.look]
  split
  · rename_i started
    rw [if_pos started] at follows
    obtain ⟨time, called⟩ := follows
    have runs : card.calls.get? call = some { made with started := true } := by
      rw [there, ← started]
    refine works tracks there own books runs (fun _ _ _ found => found) (.resume call) rfl
      ⟨time, Resolver.Session.history_step called⟩ ?_ ?_ ?_
    · rw [tracks.resolver, tracks.now]
      rfl
    · intro other mac caused
      rw [tracks.resolver, tracks.now] at caused
      exact session.resume_finish caused
    · rcases card.adapter.resolver.resume_closing card.now call with
        none | ⟨turn, taken, rfl, closing⟩
      · rw [none]
        exact .goesOn fun _ _ => List.not_mem_nil
      · -- The turn is for the target that the call was made for.
        rw [tracks.resolver] at taken
        obtain ⟨_, recorded⟩ := tracks.coherent.called (Resolver.mem_places_of_turn taken)
        rwa [tracks.coherent.target_unique called recorded] at closing
  · rename_i waits
    rw [if_neg waits] at follows
    -- The resolver has not heard of the call before.
    have acts : (session.act (.call call made.target)).1 = _ ∧ _ := session.act_call follows
    -- The call is marked as running before the resolver takes its step.
    have runs : (card.calls.modify call fun call => { call with started := true }).get? call =
        some { made with started := true } := by
      rw [Dictionary.get?_modify, if_pos (beq_self_eq_true call), there]
      rfl
    refine works tracks there own (books.runs call) runs ?_ (.call call made.target) rfl
      ⟨session.now, Resolver.Session.mem_step acts.2⟩ ?_ ?_
      (card.adapter.resolver.start_closing card.now call made.target)
    · intro other found differs there'
      rwa [Dictionary.get?_modify, if_neg (by simpa using differs)] at there'
    · rw [acts.1, tracks.resolver, tracks.now]
    · intro other mac caused
      rw [tracks.resolver, tracks.now] at caused
      exact session.start_finish follows caused

/-- What a frame tells is kept with the books. -/
theorem hear (sound : Sound id settings start journal card dropped) (data : Bytes) :
    Sound id settings start (journal.hearing card.adapter card.now data)
      (card.hear (card.adapter.hear (data.take Network.receiveLimit))) dropped := by
  obtain ⟨session, tracks, ledger, books, rfl⟩ := sound
  have noted : journal.heard ⊆ (journal.hearing card.adapter card.now data).heard := List.subset_append_left ..
  -- What was heard and accepted is only added to.
  have more : journal.accepted ⊆ (journal.hearing card.adapter card.now data).accepted :=
    List.subset_append_left ..
  have books := books.learns noted more
  have tracks' : Tracks id settings start (journal.hearing card.adapter card.now data) card session :=
    tracks.learns more
  -- Only questions and answers concern the card, and each is sorted as at the start.
  cases heard : card.adapter.hear (data.take Network.receiveLimit) with
  | nothing => exact ⟨session, tracks', ledger, books, rfl⟩
  | packet => exact ⟨session, tracks', ledger, books, rfl⟩
  | resolution traffic =>
    cases traffic with
    | foreign => exact ⟨session, tracks', ledger, books, rfl⟩
    | ignored => exact ⟨session, tracks', ledger, books, rfl⟩
    | question reply =>
      -- The adapter hears a frame as it did at the start.
      have asks : start.adapter.hear (data.take Network.receiveLimit) =
          .resolution (.question reply) := by
        rw [← heard]
        exact Adapter.hear_congr books.mac.symm
          ((congrArg _ tracks.resolver).trans tracks.addresses).symm _
      exact ⟨session, tracks'.of_rest (card.offer_rest _), books.offered (.reply reply) rfl
        ⟨data, List.mem_append_right _ List.mem_cons_self, asks⟩⟩
    | answer address station =>
      have told := tracks.hearsAnswer address station more fun accepted => by
        rw [Journal.hearing, Adapter.answers, heard]
        simp [accepted]
      have books := books.withResolver
        (card.adapter.resolver.accept card.now address station).2.1 (by
          rcases card.adapter.resolver.accept_cases card.now address station with
            ⟨_, _, _, accepted⟩ | ⟨_, ignored⟩
          · rw [accepted]
          · rw [ignored])
      -- An answer wakes its call, and no call ends with it.
      exact ⟨_, told.of_rest (Card.foldl_undergo_rest ..),
        books.undergoes fun _ _ => Resolver.Session.accept_finish⟩

/-- A burst of frames leaves the queue. -/
theorem transmit (sound : Sound id settings start journal card dropped) :
    Sound id settings start { journal with
      transmitted := journal.transmitted ++ card.adapter.queue.take Network.transmitBurst }
      card.transmit dropped := by
  obtain ⟨session, tracks, ledger, books, same⟩ := sound
  exact ⟨session, { tracks with }, ledger, books.transmits, same⟩

/-- As time passes, a card stays sound. -/
theorem advance (sound : Sound id settings start journal card dropped) (span : Nat) :
    Sound id settings start journal { card with now := card.now + span } dropped := by
  obtain ⟨session, tracks, ledger, books, same⟩ := sound
  exact ⟨_, tracks.advances span, ledger, { books with }, same⟩

end Sound

end NetworkLayer.Ethernet
